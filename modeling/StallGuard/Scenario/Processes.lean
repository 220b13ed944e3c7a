/-
  StallGuard.Scenario.Processes — steps that open runtimes, start and end threads, listen,
  let guards go, call primitives and look at services.

  A name of a thread outlives the thread: it can still be referred to, and given to
  another thread once this one has ended, though a reference keeps meaning the first
  thread of that name. `main` and `other` are nobody's to take.
-/

import StallGuard.Scenario.Runtimes

namespace StallGuard.Scenario

/-- The recorder of this name. -/
def recorderId (name : String) : Turn RecorderId := do given ((← cast).recorders.get? name)

def changeRecorder (id : RecorderId) (f : Recorder → Recorder) : Turn Unit :=
  modify fun s => { s with recorders := s.recorders.modify id f }

/-- Forgets what was noticed on a thread. -/
def unnoticed (t : ThreadId) : Turn Unit :=
  modify fun s => { s with notices := s.notices.filter fun n => !decide (n.1 = t) }

/-! ## Threads -/

/-- What a new thread is called, and what it declares before anything else. -/
def ThreadOrigin.start (name : String) : ThreadOrigin → Turn (Option String × Option (RuntimeId × List String))
  | .plain => pure (some name, none)
  | .unnamed => pure (none, none)
  | .nonBlocking rt => do
    let r ← runtimeId (← given rt)
    pure (some name, some (r, [defaultMarker]))
  | .capable rt capabilities => do
    let r ← runtimeId (← given rt)
    pure (some name, some (r, capabilities))

/-- Why no thread can bear this name: it holds a NUL. -/
def nameFlaw (name : String) : Option String :=
  let cs := name.toList
  if '\x00' ∈ cs then
    some ("thread name may not contain interior null bytes: NulError("
      ++ toString (byteCount (cs.takeWhile (· ≠ '\x00'))) ++ ", ["
      ++ Text.joined ", " (name.toUTF8.toList.map fun b => toString b.toNat) ++ "])")
  else none

/-- Starts a thread that bears its name in the process too, unless it is to have none there. -/
def startThread (name : String) (origin : ThreadOrigin) : Turn Result := do
  require (name ≠ "main" ∧ name ≠ "other")
  require !((← cast).running.contains name)
  let (shownAs, declares) ← origin.start name
  if let some flaw := shownAs.bind nameFlaw then return .panicked flaw
  let id ← play (Site.inProcess (·.newThread shownAs))
  changeCast fun c => { c with started := c.started ++ [(name, id)], running := c.running.insert name id }
  match declares with
  | some (rt, capabilities) =>
    play (Site.declare id rt capabilities)
    unnoticed id
  | none => pure ()
  pure (.value .started)

def join (name : String) : Turn Result := do
  let id ← given ((← cast).running.get? name)
  play (dropGuards id)
  changeCast fun c => { c with running := c.running.erase name }
  pure (.value (.flag true))

/-! ## Services -/

def Readiness.ofText : String → Readiness
  | "ready" => .ready
  | "pending" => .pending
  | text => .error text

def service (name : String) : Turn Service := do given ((← cast).services.get? name)

def keepService (name : String) (s : Service) : Turn Unit :=
  changeCast fun c => { c with services := c.services.insert name s }

/-! ## All of it -/

def onProcess (invoke : Invoke Program Cast) (t : ThreadId) (op : ProcessOp) : Turn Result := do
  onlyIn false
  match op with
  | .openRuntime rt =>
    require !((← get).process.runtimes.contains ⟨rt⟩)
    play (Site.openRuntime t ⟨rt⟩ Primitives.blocking)
    pure (.value .nothing)
  | .startThread name origin => startThread name origin
  | .join name => join name
  | .currentThread => pure (.value (.thread (labelOf (← cast) t)))
  | .detach recorder detached =>
    let id ← recorderId recorder
    changeRecorder id fun r => { r with detached }
    pure (.value .nothing)
  | .heard recorder =>
    let id ← recorderId recorder
    let signals := (((← get).recorders.get? id).map Recorder.heard).getD []
    changeRecorder id fun r => { r with heard := [] }
    pure (.value (.signals signals))
  | .drop guard =>
    let g ← takeGuard t guard
    play (dropGuard t g)
    pure (.value (.dropped g.kind))
  | .leak guard =>
    let _ ← takeGuard t guard
    pure (.value .nothing)
  | .native call =>
    let o ← play (Site.native invoke t (← cast).installed globalRuntime call)
    pure (concluded .native (fun c => .checked (some c)) o)
  | .openService name member ready =>
    knownMember globalRuntime member
    keepService name { member, ready }
    pure (.value (.memberKey member.key))
  | .serviceReady name =>
    let s ← service name
    pure (.value (.readiness (.ofText s.ready)))
  | .setServiceReady name ready =>
    let s ← service name
    changeCast fun c => { c with services := c.services.erase name }
    let ready ← given ready
    keepService name { s with ready }
    pure (.value .nothing)
  | .serviceCalls name =>
    let s ← service name
    pure (.value (.number s.calls))

end StallGuard.Scenario
