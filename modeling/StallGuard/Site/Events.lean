/-
  StallGuard.Site.Events — what a host tells its listeners.

  A host tells that a type was loaded, that a thread declared capabilities, and that a
  breakpoint was reached. Listeners are told in the order in which they subscribed. A
  runtime first strikes off those that are detached: an engine that is no longer alive,
  or a recorder that was switched off. A stage strikes nobody off. The first listener
  that objects to a breakpoint stops the round.
-/

import StallGuard.Site.Check

namespace StallGuard.Site

variable {π α : Type}

def isDetached (s : Site π α) : Listener → Bool
  | .engine id => !s.alive id
  | .recorder id => (s.recorders.get? id).all Recorder.detached

/-- The listeners of a runtime, after striking off the detached ones. -/
def listeners (rt : RuntimeId) : Play π α (List Listener) := do
  let s ← get
  let kept := (s.process.runtime rt).listeners.filter fun l => !s.isDetached l
  changeProcess (·.changeRuntime rt fun r => { r with listeners := kept })
  pure kept

def subscribe (h : HostId) (l : Listener) : Play π α Unit :=
  match h, l with
  | .runtime rt, l => do
    let kept ← listeners rt
    changeProcess (·.changeRuntime rt fun r => { r with listeners := kept ++ [l] })
  | .stage, .engine id => changeStage fun st => { st with listeners := st.listeners ++ [id] }
  | .stage, .recorder _ => pure ()

def hear (id : RecorderId) (g : Signal) : Play π α Unit :=
  modify fun s => { s with recorders := s.recorders.modify id fun r => { r with heard := r.heard ++ [g] } }

/-! ## One listener -/

def tellTypeLoaded (t : ThreadId) (owner : String) : Listener → Play π α Unit
  | .engine id => do
    if (← get).alive id then keepingAlive id (acting t id () fun h => Engine.resolveType h owner) else pure ()
  | .recorder id => hear id (.typeLoaded owner)

def tellThreadDeclared (t thread : ThreadId) : Listener → Play π α Unit
  | .engine id => do
    if (← get).alive id then keepingAlive id (acting t id () fun _ => Engine.threadDeclared thread) else pure ()
  | .recorder id => hear id .threadDeclared

def tellBreakpoint (invoke : Invoke π α) (t thread : ThreadId) (op : OperationId) :
    Listener → Play π α (Outcome Unit)
  | .engine id => do
    if (← get).alive id then breakpointReached invoke t id thread op else pure (.returned ())
  | .recorder id => do
    hear id .breakpoint
    match ((← get).recorders.get? id).bind Recorder.reject with
    | some c => pure (.raised c)
    | none => pure (.returned ())

/-! ## All of them -/

/-- Tells a breakpoint until a listener objects. -/
def tellBreakpoints (invoke : Invoke π α) (t thread : ThreadId) (op : OperationId) :
    List Listener → Play π α (Outcome Unit)
  | [] => pure (.returned ())
  | l :: r => do
    match ← tellBreakpoint invoke t thread op l with
    | .returned () => tellBreakpoints invoke t thread op r
    | stopped => pure stopped

def announceType (t : ThreadId) (rt : RuntimeId) (owner : String) : Play π α Unit := do
  give t (.typeLoaded owner)
  (← listeners rt).forM (tellTypeLoaded t owner)

def announceThread (t : ThreadId) (rt : RuntimeId) : Play π α Unit := do
  (← listeners rt).forM (tellThreadDeclared t t)

end StallGuard.Site
