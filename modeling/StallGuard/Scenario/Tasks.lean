/-
  StallGuard.Scenario.Tasks — functions that run in a frame of their own, and tasks.

  An asynchronous run polls tasks on the thread that started it or on a worker of its
  own. An instrumented run announces its workers and the threads of its pool as threads
  that run tasks. Each list of steps starts from the answer to violations that the thread
  which started the run had set then; what it sets itself, and guards that it leaves
  behind, end with it. A thread that polls tasks starts no other run.
-/

import StallGuard.Scenario.Guards
import StallGuard.Scenario.Watching

namespace StallGuard.Scenario

/-! ## Framed functions -/

namespace FramedFunction

def member : FramedFunction → MemberRef
  | plain => ⟨"bw_driver::frames", "plain", true, false⟩
  | refresh => ⟨"app::Cache", "refresh", true, false⟩
  | checked => ⟨"bw_driver::frames", "checked_fn", true, false⟩
  | query => ⟨"app::Db", "query", false, false⟩
  | load => ⟨"app::Store", "load", false, false⟩
  | flush => ⟨"app::Store", "flush", true, false⟩

/-- What the function does when its frame is denied: some fail, the others panic. -/
def denied (c : BlockingCall) : FramedFunction → Result
  | checked | flush => .value (.checked (some c))
  | load => .value (.ioFailure (.denied c))
  | plain | refresh | query => .panicked c.message

def finished (answers : List StepAnswer) : FramedFunction → Result
  | checked | flush | load => .value (.admitted answers)
  | plain | refresh | query => .value (.steps answers)

end FramedFunction

def runFramed (invoke : Invoke Program Cast) (again : PlaySteps) (t : ThreadId) (f : FramedFunction)
    (body : List Step) : Turn Result := do
  onlyIn false
  match ← play (Site.enter invoke t globalRuntime f.member) with
  | .returned g =>
    let answers ← play (again t body)
    play (Site.dropFrame t g)
    pure (f.finished answers)
  | .raised c => pure (f.denied c)
  | .panicked message => pure (.panicked message)

/-! ## Tasks -/

/-- What threads of an asynchronous run are called. -/
def helperName : String := "tokio-rt-worker"

/-- A thread that helps with an asynchronous run. -/
def helper (instrumented : Bool) : Play Program Cast ThreadId := do
  let id ← Site.inProcess (·.newThread (some helperName))
  if instrumented then Site.declare id globalRuntime [Primitives.taskThread] else pure ()
  pure id

/-- Has the thread answer violations by this program, or in no way of its own. -/
def setReaction (t : ThreadId) (p : Option Program) : Play Program Cast Unit :=
  Site.changeExtra fun c => { c with reactions := match p with
    | some p => c.reactions.insert t p
    | none => c.reactions.erase t }

/-- Runs steps on a thread whose guards are out of reach meanwhile, and which starts from
    the given answer to violations and has its own back afterwards. -/
def batch (again : PlaySteps) (reaction : Option Program) (t : ThreadId) (steps : List Step) :
    Play Program Cast (List StepAnswer) := do
  let own := (← get).extra.reactions.get? t
  setReaction t reaction
  let answers ← apart t (again t steps)
  setReaction t own
  pure answers

/-- Runs a play on a thread that polls tasks meanwhile. -/
def driven {β : Type} (t : ThreadId) (p : Play Program Cast β) : Play Program Cast β := do
  Site.changeExtra fun c => { c with driving := t :: c.driving }
  let b ← p
  Site.changeExtra fun c => { c with driving := c.driving.erase t }
  pure b

/-- Why no asynchronous run can start on a thread that polls tasks. -/
def nestedRun : String :=
  "Cannot start a runtime from within a runtime. This happens because a function (like `block_on`) attempted "
    ++ "to block the current thread while the thread is being used to drive asynchronous tasks. "
    ++ "If you are in an async function, use `.await` on the future instead of blocking on it."

/-- Polls a task of two lists of steps, each inside what `around` puts around it. -/
def twice (run : List Step → Play Program Cast (List StepAnswer)) (t : ThreadId) (first second : List Step)
    (around : Play Program Cast (List StepAnswer) → Play Program Cast (List StepAnswer)) :
    Play Program Cast Answer := do
  let a ← around (driven t (run first))
  let b ← around (driven t (run second))
  pure (.rounds a b)

def runTasks (again : PlaySteps) (t : ThreadId) (flavor : Flavor) (instrumented : Bool) (mode : TaskMode)
    (first second : List Step) : Turn Result := do
  onlyIn false
  match flavor, mode with
  | .callingThread, .taskInPlace | .callingThread, .plainInPlace => failure
  | _, _ => pure ()
  let c ← cast
  if t ∈ c.driving then return .panicked nestedRun
  let poller ← match flavor, mode with
    | .worker, .blockOn | .callingThread, _ => pure t
    | .worker, _ => play (helper instrumented)
  let inTask {β : Type} : Play Program Cast β → Play Program Cast β := Site.inTask poller globalRuntime
  let inPlace {β : Type} : Play Program Cast β → Play Program Cast β :=
    Site.inFrame poller globalRuntime Primitives.blockInPlace
  let run := batch again (c.reactions.get? t)
  let answer : Play Program Cast Answer := match mode with
    | .task => twice (run poller) poller first second inTask
    | .plain | .blockOn => twice (run poller) poller first second id
    | .pool => do
      inTask (pure ())
      let thread ← helper instrumented
      let answers ← run thread first
      inTask (pure ())
      pure (.steps answers)
    | .taskInPlace => .steps <$> inTask (inPlace (run poller first))
    | .plainInPlace => .steps <$> inPlace (run poller first)
  let a ← play answer
  pure (.value a)

end StallGuard.Scenario
