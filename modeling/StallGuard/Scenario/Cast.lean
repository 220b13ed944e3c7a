/-
  StallGuard.Scenario.Cast — everyone and everything a scenario knows by name.

  A scenario keeps plans, engines, bare monitors, recorders, threads, guards, futures and
  services by name. A turn is a play on a site with this cast that may come to nothing:
  a name that stands for nothing, or a step that is out of place, is a refused request.
  One engine is installed for the whole process before any scenario starts; its name is
  `G`, and it answers violations as the offending thread has set for itself.
-/

import StallGuard.Scenario.Answer

namespace StallGuard.Scenario

inductive Named
  | engine (id : EngineId)
  | monitor (m : Monitor) (handler : Handler Program)

/-- A future: what wraps it, what each of its polls still has to do, and its output. -/
structure Future where
  wrappers : List Wrapper
  stages : List (List Step)
  out : FutureOutput

structure Service where
  member : MemberRef
  ready : String
  calls : Nat := 0

inductive Guard
  | frame (g : FrameGuard)
  | capability (g : CapabilityGuard)

def Guard.kind : Guard → GuardKind
  | frame _ => .frame
  | capability _ => .capability

structure Cast where
  rehearsal : Bool
  /-- The thread that plays the scenario. -/
  main : ThreadId
  /-- The engine of the whole process. -/
  installed : EngineId
  plans : Table String (Plan Program) := .empty
  named : Table String Named := .empty
  recorders : Table String RecorderId := .empty
  /-- Every thread that was ever started by name, oldest first. -/
  started : List (String × ThreadId) := []
  /-- The threads that have not ended, by name. -/
  running : Table String ThreadId := .empty
  /-- The threads that poll tasks at the moment. -/
  driving : List ThreadId := []
  /-- Of each thread, oldest first. -/
  guards : Table ThreadId (List (String × Guard)) := .empty
  futures : Table String Future := .empty
  services : Table String Service := .empty
  /-- What the threads have set as their answer to violations. -/
  reactions : Table ThreadId Program := .empty
  /-- Oldest first. -/
  events : List Event := []

/-- A play that a refused request ends. -/
abbrev Turn := OptionT (Play Program Cast)

/-- A play as a turn that is not refused. -/
def play {β : Type} (p : Play Program Cast β) : Turn β := OptionT.lift p

/-- Plays the steps on a thread of the process, each catching its own panic. -/
abbrev PlaySteps := ThreadId → List Step → Play Program Cast (List StepAnswer)

def globalRuntime : RuntimeId := ⟨"g"⟩

def firstRuntime : RuntimeId := ⟨"r0"⟩

def installedName : String := "G"

def cast : Turn Cast := do return (← get).extra

def changeCast (f : Cast → Cast) : Turn Unit := modify fun s => { s with extra := f s.extra }

/-- Refuses the request unless the condition holds. -/
def require (c : Bool) : Turn Unit := if c then pure () else failure

/-- The value, or a refused request. -/
def given {β : Type} : Option β → Turn β
  | some b => pure b
  | none => failure

/-- What the name stands for. Whatever else is kept under the name of the installed
    engine is out of reach there. -/
def Cast.named? (c : Cast) (name : String) : Option Named :=
  if name = installedName then some (.engine c.installed) else c.named.get? name

/-! ## References -/

/-- A step that belongs to a stage, or to a process. -/
def onlyIn (rehearsal : Bool) : Turn Unit := do require ((← cast).rehearsal == rehearsal)

def runtimeId (name : String) : Turn RuntimeId := do
  require ((← get).process.runtimes.contains ⟨name⟩)
  pure ⟨name⟩

def engineId (name : String) : Turn EngineId := do
  match (← cast).named? name with
  | some (.engine id) => pure id
  | _ => failure

/-- The host that a step means: the stage, or the runtime it names. -/
def hostId (rt : Option String) : Turn HostId := do
  if (← cast).rehearsal then pure .stage
  else
    let r ← runtimeId (← given rt)
    pure (.runtime r)

/-- The thread referred to; without a reference the stage's current one or, in a process,
    the one that asks. A label that was given again still means the first thread it was
    given to. -/
def threadId (t : ThreadId) : Option ThreadRef → Turn ThreadId
  | none => do
    let s ← get
    pure (if s.extra.rehearsal then s.stage.current else t)
  | some (.number n) => pure ⟨n⟩
  | some (.label l) => do
    let c ← cast
    require !c.rehearsal
    if l = "main" then pure c.main else given ((c.started.find? fun e => e.1 = l).map Prod.snd)

def operationId : OperationRef → Turn OperationId
  | .number n => pure ⟨n⟩
  | .member rt owner name => do
    onlyIn false
    given (((← get).process.runtime (← runtimeId rt)).operation? (owner, name))

/-- The thread's label. -/
def labelOf (c : Cast) (t : ThreadId) : String :=
  if t = c.main then "main" else ((c.started.find? fun e => e.2 = t).map Prod.fst).getD "other"

/-- The operation, by the member of the runtime that knows it. -/
def shown (p : Process) (op : OperationId) : OperationRef :=
  (p.runtimes.entries.findSome? fun (rt, r) => (r.byId? op).map fun m => .member rt.name m.owner m.name).getD
    (.number op.val)

def view (p : Process) (m : Member) : MemberView := ⟨shown p m.id, m.owner, m.name, m.perType, m.native⟩

/-- The global runtime's catalogue is closed: only members it knows, under the very
    description it has of them, can be used there. -/
def knownMember (rt : RuntimeId) (m : MemberRef) : Turn Unit := do
  if rt = globalRuntime then
    match ((← get).process.runtime rt).find? m.key with
    | some i => require (m.withId i.id = i)
    | none => failure
  else pure ()

/-! ## Engines and monitors by name -/

/-- Lets the engine or monitor of this name act: an engine on its own host, a monitor on
    the host that the step means. -/
def watching {β : Type} (t : ThreadId) (name : String) (rt : Option String)
    (act : Host World → Act Monitor World β) : Turn β := do
  match ← given ((← cast).named? name) with
  | .monitor m handler =>
    let host := World.host (← hostId rt) t
    let s ← get
    let (b, scene) := act host ⟨m, s.world, []⟩
    set { s with world := scene.host, notices := s.notices ++ scene.notices.map (t, ·) }
    changeCast fun c => { c with named := c.named.insert name (.monitor scene.own handler) }
    pure b
  | .engine id => given (← Site.acting t id none fun h => some <$> Engine.watch (act h))

/-- Lets the engine or monitor of this name do what needs no host. -/
def tending {β : Type} (t : ThreadId) (name : String) (act : Act Monitor World β) : Turn β :=
  watching t name (some firstRuntime.name) fun _ => act

/-- The counters a step shows. Entry points and breakpoints of the installed engine
    outlast scenarios and are not shown. -/
def countersOf (s : Site Program Cast) (name : String) : Option (List (Option Nat)) :=
  let shared := name == installedName
  let row (c : Counters) : List (Option Nat) :=
    [some c.checks, some c.violations, some c.faults, some c.classified, some c.restricted,
      if shared then none else some c.nativesBound, if shared then none else some c.breakpointsSet,
      some c.breakpointHits]
  match s.extra.named? name with
  | some (.engine id) => (s.engine? id).map fun e => row e.monitor.counters
  | some (.monitor m _) => some (row m.counters)
  | none => none

/-- Gives the name up, and the engine it stood for. -/
def discard (name : String) : Turn Bool := do
  match (← cast).named.get? name with
  | some n =>
    changeCast fun c => { c with named := c.named.erase name }
    match n with
    | .engine id => play (Site.disown id)
    | .monitor .. => pure ()
    pure true
  | none => pure false

/-- Gives what the name stood for up, and the name to something else. -/
def rename (name : String) (n : Named) : Turn Unit := do
  let _ ← discard name
  changeCast fun c => { c with named := c.named.insert name n }

end StallGuard.Scenario
