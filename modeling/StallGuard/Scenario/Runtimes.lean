/-
  StallGuard.Scenario.Runtimes — steps that act on a runtime of the process.

  A step runs on one thread and reaches only that thread's stack and capabilities. The
  runtime of the installed engine is shared by everything in the process, so nobody
  subscribes to it, sets breakpoints there or counts what it holds.
-/

import StallGuard.Scenario.Guards
import StallGuard.Scenario.Watching

namespace StallGuard.Scenario

/-- Refuses what must not be done to the shared runtime. -/
def unshared (rt : RuntimeId) : Turn Unit := require (rt ≠ globalRuntime)

def reference (op : OperationId) : Turn OperationRef := do return shown (← get).process op

def references (ops : List OperationId) : Turn (List OperationRef) := do
  let p := (← get).process
  pure (ops.map (shown p))

/-- Keeps the guard of an entry that succeeded. -/
def entered (t : ThreadId) (guard : String) : Outcome FrameGuard → Turn Result
  | .returned g => do
    keepGuard t guard (.frame g)
    let op ← reference g.operation
    pure (.value (.entered op))
  | .raised c => pure (.value (.checked (some c)))
  | .panicked message => pure (.panicked message)

/-- Pushes the member's frame so many times. -/
def pushTimes (t : ThreadId) (rt : RuntimeId) (m : MemberRef) (guard : String) (count : Nat) : Turn Unit := do
  let gs ← play ((List.replicate count m).mapM (Site.pushFrame t rt))
  keepGuards t guard (gs.map .frame)

/-- Puts a request to a runtime, and answers with what it says. -/
def asked {β : Type} (t : ThreadId) (rt : RuntimeId) (q : Host World → StateM World (Except Fault β))
    (answer : β → Turn Answer) : Turn Result := do
  match ← play (Site.asking (.runtime rt) t q) with
  | .ok b =>
    let a ← answer b
    pure (.value a)
  | .error f => pure (.value (.fault f))

def onRuntime (invoke : Invoke Program Cast) (t : ThreadId) (name : String) (op : RuntimeOp) : Turn Result := do
  onlyIn false
  let rt ← runtimeId name
  match op with
  | .define m =>
    knownMember rt m
    let id ← play (Site.define t rt m)
    let r ← reference id
    pure (.value (.operation (some r)))
  | .defineAll ms =>
    ms.forM (knownMember rt)
    play (Site.defineAll t rt ms)
    pure (.value .nothing)
  | .operation m =>
    let p := (← get).process
    pure (.value (.operation (((p.runtime rt).operation? m.key).map (shown p))))
  | .typeMembers owner =>
    asked t rt (fun h => h.typeMembers owner) fun ms => do
      let p := (← get).process
      pure (.members (ms.map (view p)))
  | .memberInfo r =>
    let target ← operationId r
    asked t rt (fun h => h.memberInfo target) fun m => do
      let p := (← get).process
      pure (.member (some (view p m)))
  | .resolve owner member =>
    asked t rt (fun h => h.resolve owner member) fun ops => do
      let rs ← references ops
      pure (.operations rs)
  | .setBreakpoint r =>
    unshared rt
    let target ← operationId r
    asked t rt (fun h => h.setBreakpoint target) fun () => pure .done
  | .summary =>
    unshared rt
    pure (.value (.text ((← get).process.runtime rt).summary))
  | .subscribe recorder reject =>
    unshared rt
    let id : RecorderId := ⟨(← get).recorders.size⟩
    modify fun s => { s with recorders := s.recorders.insert id { reject } }
    changeCast fun c => { c with recorders := c.recorders.insert recorder id }
    play (Site.subscribe (.runtime rt) (.recorder id))
    pure (.value .nothing)
  | .listenerCount =>
    unshared rt
    let l ← play (Site.listeners rt)
    pure (.value (.number l.length))
  | .enter m guard =>
    knownMember rt m
    let o ← play (Site.enter invoke t rt m)
    entered t guard o
  | .enterOrPanic m guard =>
    knownMember rt m
    let o ← play (Site.enterOrPanic invoke t rt m)
    entered t guard o
  | .push m guard count =>
    knownMember rt m
    pushTimes t rt m guard count
    pure (.value (.number ((← get).process.thread t).frames.length))
  | .frames =>
    let rs ← references ((← get).process.thread t).frames
    pure (.value (.operations rs))
  | .frameCount => pure (.value (.number ((← get).process.thread t).frames.length))
  | .stackFrames r start count =>
    let thread ← threadId t r
    asked t rt (fun h => h.stackFrames thread start count) fun ops => do
      let rs ← references ops
      pure (.operations rs)
  | .isExecuting m => pure (.value (.flag ((← get).process.isExecuting rt t m)))
  | .declare capabilities =>
    play (Site.declare t rt capabilities)
    pure (.value .nothing)
  | .markNonBlocking =>
    play (Site.declare t rt [defaultMarker])
    pure (.value .nothing)
  | .hold capability guard =>
    let g ← play (Site.inProcess (·.holdCapability t capability))
    keepGuard t guard (.capability g)
    pure (.value (.text (summarizeGuard g.length)))
  | .holds capability => pure (.value (.flag (((← get).process.thread t).holds capability)))
  | .threadInfo r =>
    let thread ← threadId t r
    asked t rt (fun h => h.threadInfo thread) fun i => do
      let c ← cast
      pure (.threadInfo (labelOf c i.thread) i.name i.capabilities)

end StallGuard.Scenario
