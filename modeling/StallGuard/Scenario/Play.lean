/-
  StallGuard.Scenario.Play — playing a scenario, and its report.

  Each step runs on its thread and catches its own panic; what it answers and the
  counters of the engine it names are kept, and for the steps of the scenario itself
  also what handlers and presets did and what was logged meanwhile. Programs of handlers
  run the same steps on the offending thread.

  Steps can hold steps, and programs kept on the site can hold more, so the depth to
  which steps run within steps is bounded; no program that ends goes that deep.
-/

import StallGuard.Scenario.Futures
import StallGuard.Scenario.Planning
import StallGuard.Scenario.Rehearsal
import StallGuard.Scenario.Tasks

namespace StallGuard.Scenario

/-! ## Handler programs -/

/-- The program that answers for a violation on this thread. -/
def reaction (c : Cast) (t : ThreadId) : Program → List Step × Reply
  | .steps body reply => (body, reply)
  | .threads => match c.reactions.get? t with
    | some (.steps body reply) => (body, reply)
    | _ => ([], .fail)

def runProgram (again : PlaySteps) : Invoke Program Cast := fun t p c => do
  let (body, reply) := reaction (← get).extra t p
  let answers ← again t body
  Site.changeExtra fun x => { x with events := x.events ++ [.handled c.describe answers] }
  match reply with
  | .allow => pure (.returned ())
  | .log => do
    Site.give t (.letThrough c)
    pure (.returned ())
  | .panic => pure (.panicked c.message)
  | .raise other => pure (.raised other)
  | .fail => pure (.raised c)

/-! ## Steps -/

def value (a : Turn Answer) : Turn Result := Result.value <$> a

/-- Sets what the thread does about violations that the installed engine finds. -/
def react (t : ThreadId) (p : Program) : Turn Result := do
  onlyIn false
  changeCast fun c => { c with reactions := c.reactions.insert t p }
  pure (.value .nothing)

/-- What a step does on thread `t`. -/
def perform (again : PlaySteps) (t : ThreadId) (op : Op) : Turn Result :=
  let invoke := runProgram again
  match op with
  | .unreadable => failure
  | .editPlan plan edits => value (editPlan plan edits)
  | .planSummary plan => value (planSummary plan)
  | .build plan name rt => value (buildEngine t plan name rt)
  | .install => pure (.value (.refused .alreadyInstalled))
  | .discard name => value (Answer.flag <$> discard name)
  | .monitor name w marker restricts volatile handler => value (newMonitor name w marker restricts volatile handler)
  | .engine name op => askEngine invoke t name op
  | .bare name rt op => askMonitor invoke t name rt op
  | .watcher name rt op => askWatcher t name rt op
  | .counters => pure (.value .nothing)
  | .stage op => rehearse invoke t op
  | .runtime rt op => onRuntime invoke t rt op
  | .process op => onProcess invoke t op
  | .react p => react t p
  | .newFuture future wrappers stages out => newFuture future wrappers stages out
  | .poll future => pollFuture again t future
  | .unwrap rt m stages => pollUnwrapped again t rt m stages
  | .callService name future body stages out fails => callService again t name future body stages out fails
  | .framed f body => runFramed invoke again t f body
  | .tasks flavor instrumented mode first second => runTasks again t flavor instrumented mode first second

/-- The thread a step asks to run on: the one it is on already, or one that was started
    by that name and still runs. A stage has no threads to choose from. -/
def whereabouts (c : Cast) (t : ThreadId) : Option String → Option ThreadId
  | none => some t
  | some l =>
    if c.rehearsal then none
    else if l = labelOf c t then some t
    else c.running.get? l

/-- Plays a step, and steps within it to the given depth. -/
def playStep : Nat → ThreadId → Step → Play Program Cast StepAnswer
  | 0, _, _ => pure (.mk .badRequest none)
  | depth + 1, t, .mk on watch op => do
    match whereabouts (← get).extra t on with
    | none => pure (.mk .badRequest none)
    | some thread =>
      let r ← (perform (fun u steps => steps.mapM (playStep depth u)) thread op).run
      let counters := watch.bind (countersOf (← get))
      pure (.mk (r.getD .badRequest) counters)

/-- How deep steps run within steps. -/
def depthLimit : Nat := 1000

/-! ## Opening -/

/-- Members that the shared runtime knows besides the primitives. -/
def sharedMembers : List MemberRef :=
  [FramedFunction.refresh.member,
    ⟨"reactor::Schedulers", "workerSchedule", false, false⟩,
    ⟨"reactor::Flux", "subscribe", false, false⟩,
    ⟨"app::Pipeline", "user_lambda", true, false⟩,
    ⟨"app::Pipeline", "plain_lambda", true, false⟩,
    FramedFunction.query.member,
    FramedFunction.load.member,
    FramedFunction.flush.member,
    ⟨"tests::Api", "handle", false, false⟩,
    Primitives.serviceCall,
    Primitives.taskPoll,
    Primitives.blockInPlace,
    Primitives.consoleWrite,
    Primitives.consoleFlush,
    FramedFunction.plain.member,
    FramedFunction.checked.member]

/-- What the application asks of the installed engine. -/
def applicationPreset : Preset Program where
  edit p :=
    let p := p.setAllowance FramedFunction.refresh.member.key true
    let p := p.setAllowance ("app::Pipeline", "user_lambda") true
    let p := p.setAllowance ("reactor::Schedulers", "workerSchedule") false
    let p := p.setAllowance ("reactor::Flux", "subscribe") false
    let p := p.markBlocking FramedFunction.query.member.key
    let p := p.markBlocking FramedFunction.load.member.key
    p.markBlocking FramedFunction.flush.member.key

/-- The plan of the installed engine. -/
def installedPlan : Plan Program :=
  Plan.adoptAll { handler := .program .threads }
    (Preset.defaults ++ [.service Primitives.serviceCall, applicationPreset])

/-- Opens the shared runtime, installs its engine, and opens the first runtime. -/
def furnish (t : ThreadId) : Play Program Cast Unit := do
  Site.openRuntime t globalRuntime Primitives.blocking
  Site.defineAll t globalRuntime sharedMembers
  let _ ← Site.build t (.runtime globalRuntime) installedPlan
  Site.openRuntime t firstRuntime Primitives.blocking
  modify fun s => { s with notices := [] }

/-- A site as every scenario finds it, played by an unnamed thread. -/
def opening (rehearsal : Bool) : Site Program Cast :=
  let (main, process) := Process.fresh.newThread none
  ((furnish main).run
    { world := { process, stage := {} }, extra := { rehearsal, main, installed := ⟨0⟩ } }).2

/-! ## The report -/

/-- Threads whose log is kept: the one that plays the scenario and those it named. -/
def Cast.logs (c : Cast) (t : ThreadId) : Bool := t = c.main || c.started.any fun e => e.2 = t

/-- Fields that hold numbers issued by the process. -/
def issuedFields : List String := ["thread", "operation", "fault"]

/-- The log entry as a scenario shows it. Where numbers are issued by the process, fields
    that hold them are left out, and so is the first use of a primitive, which the
    installed engine may have behind it. -/
def shownEvent (rehearsal : Bool) (n : Notice) : Option LogEvent :=
  if rehearsal then n.event
  else match n with
    | .nativeBound .. => none
    | n => n.event.map fun e =>
      { e with fields := e.fields.filter fun f => !(issuedFields.contains f.1) }

/-- Plays a step of the scenario itself, with what happened meanwhile. -/
def playTop (log : Bool) (step : Step) : Play Program Cast PlayedStep := do
  let before := (← get).notices.length
  let main := (← get).extra.main
  let answer ← playStep depthLimit main step
  let s ← get
  let c := s.extra
  let heard := (s.notices.drop before).filter fun n => c.logs n.1
  set { s with extra := { c with events := [] } }
  pure { answer, events := c.events, log := if log then heard.filterMap fun n => shownEvent c.rehearsal n.2 else [] }

/-- How often each counter was moved by the thread that plays the scenario. -/
def totals (s : Site Program Cast) : List (String × Nat) :=
  let names := s.notices.filterMap fun n => if n.1 = s.extra.main then n.2.counter else none
  (names.foldl (fun (t : Table String Nat) n => t.insert n ((t.get? n).getD 0 + 1)) .empty).entries

def Script.report (s : Script) : Report :=
  let (steps, site) := (s.steps.mapM (playTop s.log)).run (opening s.rehearsal)
  { steps, emitted := if s.emit then some (totals site) else none }

end StallGuard.Scenario
