/-
  StallGuard.Scenario.Watching — steps that ask engines and monitors.
-/

import StallGuard.Scenario.Cast
import StallGuard.Summary

namespace StallGuard.Scenario

/-- The answer of a play that ended; a panic ends the step as one. -/
def concluded {β : Type} (answer : β → Answer) (denied : BlockingCall → Answer) : Outcome β → Result
  | .returned b => .value (answer b)
  | .raised c => .value (denied c)
  | .panicked message => .panicked message

/-- The answer of a check. -/
def checkedResult : Outcome Unit → Result :=
  concluded (fun () => .checked none) (fun c => .checked (some c))

/-- The violation in a check that did not panic. -/
def violation? : Outcome Unit → Option BlockingCall
  | .raised c => some c
  | _ => none

/-! ## Engines -/

def askEngine (invoke : Invoke Program Cast) (t : ThreadId) (name : String) (op : EngineOp) : Turn Result := do
  let id ← engineId name
  let slot ← given ((← get).slots.get? id)
  match op with
  | .isBlockingContext =>
    let b ← play (Site.isBlockingContext t id)
    pure (.value (.flag b))
  | .checkBlocking r =>
    match r, slot.host with
    | .member rt _ _, .runtime own => require (rt = own.name)
    | .member .., .stage => failure
    | .number _, _ => pure ()
    let target ← operationId r
    let o ← play (Site.checkBlocking invoke t id target)
    pure (checkedResult o)
  | .registerHook owner member allowed =>
    require (name ≠ installedName)
    let n ← play (Site.acting t id 0 fun h => Engine.registerHook h owner member allowed)
    pure (.value (.number n))
  | .resolveType owner =>
    play (Site.acting t id () fun h => Engine.resolveType h owner)
    pure (.value .nothing)
  | .policy => pure (.value (.policy slot.engine.policy))
  | .settings => pure (.value (.settings slot.engine.settings))
  | .sameHost rt =>
    let h ← hostId rt
    pure (.value (.flag (h = slot.host)))
  | .enterNative m entry x y =>
    require (name ≠ installedName)
    let o ← play (Site.enterNative invoke t id m entry)
    pure (concluded (fun e => .called (e.call x y)) (fun c => .checked (some c)) o)

/-! ## Bare monitors -/

def boundAnswer (x y : Int64) : Except Fault Binding → Answer
  | .ok b => .bound b.guarded (b.entry.call x y)
  | .error f => .fault f

def askMonitor (invoke : Invoke Program Cast) (t : ThreadId) (name : String) (rt : Option String)
    (op : MonitorOp) : Turn Result := do
  let handler ← match (← cast).named? name with
    | some (.monitor _ handler) => pure handler
    | _ => failure
  match op with
  | .classifyBlocking r =>
    let thread ← threadId t r
    let v ← watching t name rt fun h => Monitor.classify h thread .blockingCall
    pure (.value (.verdict v))
  | .classifyFrom r start =>
    let thread ← threadId t r
    let v ← watching t name rt fun h => Monitor.classify h thread start
    pure (.value (.verdict v))
  | .scan r start =>
    let thread ← threadId t r
    let v ← watching t name rt fun h => do
      let m ← Act.own
      Act.ask (scan h m.hooks m.window thread start)
    match v with
    | .ok v => pure (.value (.verdict v))
    | .error f => pure (.value (.fault f))
  | .report r =>
    let target ← operationId r
    let c ← watching t name rt fun h => do
      let c ← Monitor.describe h target
      Monitor.report c
    let o ← play (Site.respond invoke t handler c)
    pure (checkedResult o)
  | .reportCall c =>
    let c ← tending t name <| Monitor.report c
    let o ← play (Site.respond invoke t handler c)
    pure (checkedResult o)
  | .bindNative m guarded entry x y =>
    let b ← tending t name <| Monitor.bindNative m guarded entry
    pure (.value (boundAnswer x y b))
  | .native r s x y =>
    let target ← operationId r
    let b ← tending t name <| do return (← Act.own).targets.bound target s
    pure (.value (boundAnswer x y b))
  | .setBreakpoint m =>
    match ← watching t name rt fun h => Monitor.setBreakpoint h m with
    | .ok b => pure (.value (.flag b))
    | .error f => pure (.value (.fault f))
  | .mark tally =>
    tending t name <| Monitor.mark tally
    pure (.value .nothing)

/-! ## Both -/

/-- What a monitor knows, without any effect. -/
def reading {β : Type} (t : ThreadId) (name : String) (f : Monitor → β) : Turn β :=
  tending t name <| f <$> Act.own

def askWatcher (t : ThreadId) (name : String) (rt : Option String) (op : WatcherOp) : Turn Result := do
  let installed := name == installedName
  match op with
  | .classify r =>
    let thread ← threadId t r
    let v ← watching t name rt fun h => Monitor.classify h thread .context
    pure (.value (.verdict v))
  | .isRestricted r =>
    let thread ← threadId t r
    let b ← watching t name rt fun h => Monitor.isRestricted h thread
    pure (.value (.flag b))
  | .verdict r =>
    let thread ← threadId t r
    let b ← reading t name fun m => m.register.verdicts.get? thread
    pure (.value (.maybeFlag b))
  | .forget r =>
    let thread ← threadId t r
    let b ← tending t name <| Monitor.forget thread
    pure (.value (.flag b))
  | .verdictCount =>
    require !installed
    let n ← reading t name fun m => m.register.verdicts.size
    pure (.value (.number n))
  | .setHook r hook =>
    require !installed
    let target ← operationId r
    let old ← reading t name fun m => m.hooks.get? target
    tending t name <| Monitor.setHook target hook
    pure (.value (.hook old))
  | .hook r =>
    let target ← operationId r
    let h ← reading t name fun m => m.hooks.get? target
    pure (.value (.hook h))
  | .allows r =>
    let target ← operationId r
    let b ← reading t name fun m => m.hooks.allows? target
    pure (.value (.maybeFlag b))
  | .hookCount =>
    let n ← reading t name fun m => m.hooks.size
    pure (.value (.size n))
  | .targetCount =>
    require !installed
    let n ← reading t name fun m => m.targets.size
    pure (.value (.size n))
  | .isBreakpoint r =>
    let target ← operationId r
    let b ← reading t name fun m => m.targets.isBreakpoint target
    pure (.value (.flag b))
  | .target r =>
    let target ← operationId r
    let m ← reading t name fun m => m.targets.member? target
    let s ← get
    pure (.value (.member (m.map (view s.process))))
  | .summary =>
    require !installed
    match (← cast).named? name with
    | some (.monitor m _) => pure (.value (.text m.summary))
    | _ =>
      let e ← given ((← get).engine? (← engineId name))
      pure (.value (.text e.summary))

end StallGuard.Scenario
