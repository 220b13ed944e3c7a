/-
  StallGuard.Site.Native — the process's own blocking primitives, guarded by an engine.

  Each primitive asks the engine for its entry point and, if it is admitted, is carried
  out. Threads sleep, yield and park for no time worth telling, a condition variable is
  notified or times out, files hold what was written, children run, and the streams take
  what they can; the network reaches nobody. Where a primitive can fail by itself, a denial
  arrives as such a failure; elsewhere it stays a violation.
-/

import StallGuard.Primitives
import StallGuard.Site.Frames
import StallGuard.Stream

namespace StallGuard

inductive NativeCall
  | sleep
  | yieldNow
  | park
  | parkTimeout
  | wait
  | waitTimeout
  /-- One read into a buffer of this size. -/
  | fileRead (data : String) (size : Nat)
  | fileReadAll (data : String)
  | fileWrite (data : String)
  | connect
  | accept
  | streamRead
  | streamWrite
  | datagramSend
  | datagramReceive
  | spawn
  /-- Runs a child that prints its argument. -/
  | output (argument : String)
  | outputMissing
  | streamPrint (stream : ConsoleStream) (data : String)
  | consolePrint (stream : ConsoleStream) (data : String)
  | consoleFlush (stream : ConsoleStream)
deriving DecidableEq, Repr

inductive IoFailure
  | denied (c : BlockingCall)
  | notFound
  | invalidInput
  | networkUnreachable
deriving DecidableEq, Repr

/-- The class of a failure; a denial is of no class of its own. -/
def IoFailure.kind : IoFailure → String
  | denied _ => "Other"
  | notFound => "NotFound"
  | invalidInput => "InvalidInput"
  | networkUnreachable => "NetworkUnreachable"

inductive NativeValue
  | nothing
  | flag (b : Bool)
  | count (n : Nat)
  | text (s : String)
deriving DecidableEq, Repr

inductive NativeResult
  | done (v : NativeValue)
  | violation (c : BlockingCall)
  | failed (f : IoFailure)
deriving DecidableEq, Repr

/-- What is known after a primitive ran. -/
inductive NativeReport
  | plain (r : NativeResult)
  /-- The lock of the condition variable is free. -/
  | unlocked (r : NativeResult)
  /-- What the file holds. -/
  | written (r : NativeResult) (contents : String)
  /-- What was read on the way to the end. -/
  | drained (r : NativeResult) (contents : String)
deriving DecidableEq, Repr

/-- What comes of running the child; an argument cannot hold a NUL. -/
def childRun (argument : String) : NativeResult :=
  if '\x00' ∈ argument.toList then .failed .invalidInput else .done (.text (childOutput argument))

/-- The end of a thread whose connection to itself could not be made. -/
def noPeer : String :=
  "called `Result::unwrap()` on an `Err` value: Os \x7b code: 101, kind: NetworkUnreachable, "
    ++ "message: \"Network is unreachable\" \x7d"

namespace Site

variable {π α β γ : Type}

/-- Asks the engine whether the primitive may be called now. -/
def admission (invoke : Invoke π α) (t : ThreadId) (id : EngineId) (m : MemberRef) : Play π α (Outcome Unit) := do
  let r ← enterNative invoke t id m (.primitive m.key)
  pure (r.map fun _ => ())

/-- Ends an admitted call with `r`, and a denied one as `onDenial` says. -/
def completed (onDenial : BlockingCall → NativeResult) (r : NativeResult) : Outcome Unit → Outcome NativeResult
  | .returned () => .returned r
  | .raised c => .returned (onDenial c)
  | .panicked message => .panicked message

/-- A primitive that cannot fail by itself. -/
def sure (invoke : Invoke π α) (t : ThreadId) (id : EngineId) (m : MemberRef) (v : NativeValue) :
    Play π α (Outcome NativeResult) := do
  pure (completed .violation (.done v) (← admission invoke t id m))

/-- A primitive that can fail by itself. -/
def fallible (invoke : Invoke π α) (t : ThreadId) (id : EngineId) (m : MemberRef) (r : NativeResult) :
    Play π α (Outcome NativeResult) := do
  pure (completed (fun c => .failed (.denied c)) r (← admission invoke t id m))

/-- Asks for admission so many times, until it is denied; gives how often it was granted. -/
def admissions (invoke : Invoke π α) (t : ThreadId) (id : EngineId) (m : MemberRef) :
    Nat → Play π α (Nat × Outcome Unit)
  | 0 => pure (0, .returned ())
  | n + 1 => do
    match ← admission invoke t id m with
    | .returned () => do
      let (granted, r) ← admissions invoke t id m n
      pure (granted + 1, r)
    | stopped => pure (0, stopped)

/-- Runs a play in a frame that may itself be denied. -/
def inEntered (invoke : Invoke π α) (t : ThreadId) (rt : RuntimeId) (m : MemberRef)
    (play : Play π α (Outcome NativeResult)) : Play π α (Outcome NativeResult) := do
  match ← enter invoke t rt m with
  | .returned g =>
    let r ← play
    dropFrame t g
    pure r
  | .raised c => pure (.returned (.failed (.denied c)))
  | .panicked message => pure (.panicked message)

def printMember : ConsoleStream → MemberRef
  | .out => Primitives.stdoutWrite
  | .err => Primitives.stderrWrite

/-- Carries a primitive out for thread `t`, guarded by the engine `id` of runtime `rt`. -/
def native (invoke : Invoke π α) (t : ThreadId) (id : EngineId) (rt : RuntimeId) (call : NativeCall) :
    Play π α (Outcome NativeReport) :=
  let bytes (s : String) : NativeResult := .done (.count s.utf8ByteSize)
  let plain (p : Play π α (Outcome NativeResult)) : Play π α (Outcome NativeReport) := do pure ((← p).map .plain)
  match call with
  | .sleep => plain (sure invoke t id Primitives.threadSleep .nothing)
  | .yieldNow => plain (sure invoke t id Primitives.threadYield .nothing)
  | .park => plain (sure invoke t id Primitives.threadPark .nothing)
  | .parkTimeout => plain (sure invoke t id Primitives.threadParkTimeout .nothing)
  | .wait => do pure ((← sure invoke t id Primitives.condvarWait (.flag true)).map .unlocked)
  | .waitTimeout => do pure ((← sure invoke t id Primitives.condvarWaitTimeout (.flag true)).map .unlocked)
  | .fileRead data size =>
    plain (fallible invoke t id Primitives.fileRead (.done (.text (String.ofList (Text.firstBytes size data.toList)))))
  | .fileReadAll data => do
    let (granted, r) ← admissions invoke t id Primitives.fileRead (readsToEnd data.utf8ByteSize)
    pure ((completed (fun c => .failed (.denied c)) (bytes data) r).map fun
      | .done v => .drained (.done v) data
      | r => .drained r (keptAfter granted data))
  | .fileWrite data => do
    pure ((← fallible invoke t id Primitives.fileWrite (bytes data)).map fun
      | .done v => .written (.done v) data
      | r => .written r "")
  | .connect => plain (fallible invoke t id Primitives.streamConnect (.failed .networkUnreachable))
  | .accept => pure (.panicked noPeer)
  | .streamRead => pure (.panicked noPeer)
  | .streamWrite => pure (.panicked noPeer)
  | .datagramSend => plain (fallible invoke t id Primitives.datagramSend (.failed .networkUnreachable))
  | .datagramReceive => pure (.panicked noPeer)
  | .spawn => plain (fallible invoke t id Primitives.commandSpawn (.done (.flag true)))
  | .output argument =>
    plain (fallible invoke t id Primitives.commandOutput (childRun argument))
  | .outputMissing => plain (fallible invoke t id Primitives.commandOutput (.failed .notFound))
  | .streamPrint stream data =>
    plain (fallible invoke t id (printMember stream) (.done (.count (stream.taken data))))
  | .consolePrint stream data =>
    plain (inEntered invoke t rt Primitives.consoleWrite
      (fallible invoke t id (printMember stream) (.done (.count (stream.taken data)))))
  | .consoleFlush _ =>
    plain (inEntered invoke t rt Primitives.consoleFlush (pure (.returned (.done .nothing))))

end Site

end StallGuard
