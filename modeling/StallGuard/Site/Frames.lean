/-
  StallGuard.Site.Frames — defining members, entering them, declaring capabilities.

  Entering a member defines it, puts its frame on the thread's stack and, if the runtime
  has a breakpoint there, tells the listeners; if one objects the frame is taken off
  again and the entry fails, or panics. Pushing a frame skips the breakpoint. A play that runs
  inside a frame, or as the poll of a task, leaves the stack as it found it.
-/

import StallGuard.Plan
import StallGuard.Site.Events

namespace StallGuard

/-- What a future can be wrapped in. -/
inductive Wrapper
  /-- Each poll is the poll of a task on this runtime. -/
  | task (rt : RuntimeId)
  /-- Each poll runs in the member's frame. -/
  | frame (rt : RuntimeId) (m : MemberRef)
deriving DecidableEq, Repr

namespace Site

variable {π α β : Type}

/-! ## The catalogue -/

/-- The member's operation; its type is announced if this defined it. -/
def define (t : ThreadId) (rt : RuntimeId) (m : MemberRef) : Play π α OperationId := do
  let (op, added) ← inProcess (·.catalogue rt m)
  if added then
    announceType t rt m.owner
    pure op
  else pure op

/-- Defines members quietly; the types of those that are new, with repetitions. -/
def catalogueAll (rt : RuntimeId) : List MemberRef → Play π α (List String)
  | [] => pure []
  | m :: r => do
    let (_, added) ← inProcess (·.catalogue rt m)
    let rest ← catalogueAll rt r
    pure (if added then m.owner :: rest else rest)

/-- Defines members, then announces each type that gained one, ascending. -/
def defineAll (t : ThreadId) (rt : RuntimeId) (ms : List MemberRef) : Play π α Unit := do
  let gained ← catalogueAll rt ms
  (Names.ofList gained).forM (announceType t rt)

/-- Opens a runtime that knows the given members. -/
def openRuntime (t : ThreadId) (rt : RuntimeId) (ms : List MemberRef) : Play π α Unit := do
  changeProcess (·.changeRuntime rt fun _ => {})
  defineAll t rt ms

/-! ## Frames -/

def pushFrame (t : ThreadId) (rt : RuntimeId) (m : MemberRef) : Play π α FrameGuard := do
  let op ← define t rt m
  inProcess (·.pushFrame t op)

def dropFrame (t : ThreadId) (g : FrameGuard) : Play π α Unit := changeProcess (·.dropFrame t g)

def enter (invoke : Invoke π α) (t : ThreadId) (rt : RuntimeId) (m : MemberRef) :
    Play π α (Outcome FrameGuard) := do
  let g ← pushFrame t rt m
  if ((← get).process.runtime rt).breaksAt g.operation then
    match ← tellBreakpoints invoke t t g.operation (← listeners rt) with
    | .returned () => pure (.returned g)
    | .raised c =>
      dropFrame t g
      pure (.raised c)
    | .panicked message =>
      dropFrame t g
      pure (.panicked message)
  else pure (.returned g)

/-- Enters a member, and panics if a listener objects. -/
def enterOrPanic (invoke : Invoke π α) (t : ThreadId) (rt : RuntimeId) (m : MemberRef) :
    Play π α (Outcome FrameGuard) := do
  let entered ← enter invoke t rt m
  pure entered.orPanic

/-! ## Capabilities -/

def declare (t : ThreadId) (rt : RuntimeId) (capabilities : List String) : Play π α Unit := do
  changeProcess (·.changeThread t (·.declare capabilities))
  announceThread t rt

/-! ## Plays inside a frame or a task -/

/-- Runs a play with the member's frame on the stack. -/
def inFrame (t : ThreadId) (rt : RuntimeId) (m : MemberRef) (play : Play π α β) : Play π α β := do
  let g ← pushFrame t rt m
  let b ← play
  dropFrame t g
  pure b

/-- Runs a play as one poll of a task on the runtime `rt`: the thread joins those that
    run tasks, if it has not yet, and holds the task mark for as long as the poll takes. -/
def inTask (t : ThreadId) (rt : RuntimeId) (play : Play π α β) : Play π α β := do
  if ((← get).process.thread t).holds Primitives.taskThread then pure ()
  else declare t rt [Primitives.taskThread]
  let mark ← inProcess (·.holdCapability t Primitives.taskMark)
  let b ← inFrame t rt Primitives.taskPoll play
  changeProcess (·.dropCapability t mark)
  pure b

/-- Runs a play inside wrappers, the first of them outermost. -/
def inWrappers (t : ThreadId) : List Wrapper → Play π α β → Play π α β
  | [], play => play
  | .task rt :: r, play => inTask t rt (inWrappers t r play)
  | .frame rt m :: r, play => inFrame t rt m (inWrappers t r play)

/-! ## Engines -/

/-- Builds an engine on a host. It subscribes before it resolves anything. -/
def build (t : ThreadId) (h : HostId) (plan : Plan π) : Play π α (Except SetupError EngineId × Plan π) := do
  match plan.build with
  | (.error e, plan') => pure (.error e, plan')
  | (.ok engine, plan') =>
    let id : EngineId := ⟨(← get).slots.size⟩
    modify fun s => { s with slots := s.slots.insert id { engine, host := h } }
    subscribe h (.engine id)
    acting t id () fun host => Engine.start host
    pure (.ok id, plan')

end Site

end StallGuard
