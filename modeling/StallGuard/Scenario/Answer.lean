/-
  StallGuard.Scenario.Answer — what the steps of a scenario answer.
-/

import StallGuard.Scenario.Syntax

namespace StallGuard.Scenario

/-- What a future is ready with. -/
inductive FutureOutput
  | plain (p : Payload)
  | ok (p : Payload)
  | error (text : String)

/-- Whether a service takes calls. -/
inductive Readiness
  | ready
  | pending
  | error (text : String)

inductive GuardKind
  | frame
  | capability

mutual

inductive Answer
  | nothing
  | done
  | started
  | flag (b : Bool)
  | maybeFlag (b : Option Bool)
  | flags (bs : List Bool)
  | number (n : Nat)
  /-- How many there are, and whether there are none. -/
  | size (n : Nat)
  | text (s : String)
  | refused (e : SetupError)
  | checked (violation : Option BlockingCall)
  | checkedAll (violations : List (Option BlockingCall))
  | fault (f : Fault)
  | verdict (v : Verdict)
  | policy (p : Policy)
  | settings (s : Settings)
  | called (v : CallValue)
  | bound (guarded : Bool) (v : CallValue)
  | hook (h : Option Hook)
  | member (m : Option MemberView)
  | members (ms : List MemberView)
  | operation (op : Option OperationRef)
  | operations (ops : List OperationRef)
  | entered (op : OperationRef)
  | calls (cs : List HostCall)
  | signals (gs : List Signal)
  | thread (label : String)
  | threadInfo (label : String) (name : Option String) (capabilities : List String)
  | dropped (kind : GuardKind)
  | memberKey (m : MemberKey)
  | readiness (r : Readiness)
  | native (r : NativeReport)
  | ioFailure (f : IoFailure)
  | steps (as : List StepAnswer)
  | admitted (as : List StepAnswer)
  | rounds (first second : List StepAnswer)
  | pending (as : List StepAnswer)
  | ready (out : FutureOutput) (as : List StepAnswer)
  | unwrapped (m : MemberKey) (ready : Bool) (as : List StepAnswer)

inductive Result
  | value (a : Answer)
  | badRequest
  | panicked (message : String)

inductive StepAnswer
  /-- The result, and the counters of the engine the step names; those that several
      scenarios share are left out. -/
  | mk (result : Result) (counters : Option (List (Option Nat)))

end

/-- What handlers and presets did during a step. -/
inductive Event
  | handled (call : String) (as : List StepAnswer)
  | applied (preset : String)

/-- A step of the scenario itself, with what happened while it was played. -/
structure PlayedStep where
  answer : StepAnswer
  events : List Event
  log : List LogEvent

structure Report where
  steps : List PlayedStep
  /-- Totals of the counters moved outside, by name. -/
  emitted : Option (List (String × Nat))

end StallGuard.Scenario
