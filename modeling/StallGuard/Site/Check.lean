/-
  StallGuard.Site.Check — checks, and the handlers that answer for violations.

  A thread is inside at most one check at a time. Whatever a handler does on its thread
  while its check lasts is let through: no context is blocking, no call is checked, and
  no second handler is called. When the check ends, however its handler ended, the
  thread is outside again.

  `invoke` runs a handler's program; it is a parameter here, and everything on a site
  that may call a handler takes it.
-/

import StallGuard.Site.Basic

namespace StallGuard

/-- Runs a handler's program on the offending thread. -/
abbrev Invoke (π α : Type) := ThreadId → π → BlockingCall → Play π α (Outcome Unit)

namespace Site

variable {π α β : Type}

def isChecking (s : Site π α) (t : ThreadId) : Bool := (s.process.thread t).checking

def setChecking (t : ThreadId) (b : Bool) : Play π α Unit :=
  changeProcess (·.changeThread t fun th => { th with checking := b })

/-- A check on `t`; inside another check it answers `inside` at once. -/
def checking (t : ThreadId) (inside : β) (body : Play π α β) : Play π α β := do
  if (← get).isChecking t then pure inside
  else
    setChecking t true
    let b ← body
    setChecking t false
    pure b

/-- Answers for a violation found on `t`. -/
def respond (invoke : Invoke π α) (t : ThreadId) (h : Handler π) (c : BlockingCall) : Play π α (Outcome Unit) :=
  match h with
  | .fail => pure (.raised c)
  | .log => do
    give t (.letThrough c)
    pure (.returned ())
  | .panic => pure (.panicked c.message)
  | .program p => invoke t p c

/-- Lets an engine check a call of `op` by `thread`, and its handler answer for a
    violation. The check runs on the process's thread `t`. -/
def judge (invoke : Invoke π α) (t : ThreadId) (id : EngineId) (thread : Host World → World → ThreadId)
    (op : OperationId) (start : ScanStart) : Play π α (Outcome Unit) := do
  let found ← acting t id none fun h => do
    let asked ← Act.ask fun w => (thread h w, w)
    Engine.watch (Monitor.check h asked op start)
  match found, (← get).engine? id with
  | some c, some e => respond invoke t e.handler c
  | _, _ => pure (.returned ())

/-- The thread a host calls current. -/
def currentOf : Host World → World → ThreadId := fun h w => h.currentThread w

/-! ## What an engine is asked -/

/-- Would a disallowed frame on the stack convict a call made now? -/
def isBlockingContext (t : ThreadId) (id : EngineId) : Play π α Bool :=
  keepingAlive id <| checking t false <| acting t id false fun h => do
    let asked ← Act.ask fun w => (h.currentThread w, w)
    let v ← Engine.watch (Monitor.classify h asked .context)
    pure (v = .violating)

/-- Checks a call of the blocking operation `op`, made now. -/
def checkBlocking (invoke : Invoke π α) (t : ThreadId) (id : EngineId) (op : OperationId) :
    Play π α (Outcome Unit) :=
  keepingAlive id <| checking t (.returned ()) <| judge invoke t id currentOf op .blockingCall

/-- The entry point to call for a native member: the one captured first, or the caller's
    own where detection fails open. -/
def enterNative (invoke : Invoke π α) (t : ThreadId) (id : EngineId) (m : MemberRef) (entry : EntryPoint) :
    Play π α (Outcome EntryPoint) :=
  keepingAlive id do
    match ← acting t id none fun h => Engine.bindNative h m entry with
    | none => pure (.returned entry)
    | some (op, b) =>
      if b.guarded then
        let r ← checking t (.returned ()) (judge invoke t id currentOf op .blockingCall)
        pure (r.map fun () => b.entry)
      else pure (.returned b.entry)

/-- A breakpoint was reached by `thread`. Engines that did not ask for it take no notice. -/
def breakpointReached (invoke : Invoke π α) (t : ThreadId) (id : EngineId) (thread : ThreadId)
    (op : OperationId) : Play π α (Outcome Unit) :=
  keepingAlive id do
    let mine ← acting t id false fun _ => do
      if (← Act.own).monitor.targets.isBreakpoint op then
        Engine.watch (Monitor.mark .breakpointHit)
        pure true
      else pure false
    if mine then checking t (.returned ()) (judge invoke t id (fun _ _ => thread) op .breakpoint)
    else pure (.returned ())

end Site

end StallGuard
