/-
  StallGuard.Notice — what engines, handlers and hosts make known while they work.

  A notice is a tally mark or something that happened. Notices are kept in the order in
  which they were given; `event` turns one into a log entry with its fields.
-/

import StallGuard.BlockingCall
import StallGuard.Tally
import StallGuard.Text.Quoted

namespace StallGuard

inductive Notice
  | marked (t : Tally)
  | threadClassified (t : ThreadId) (name : Option String) (restricted : Bool)
  /-- A thread declared capabilities; `reclassify` says that a verdict was dropped. -/
  | threadDeclared (t : ThreadId) (reclassify : Bool)
  | nativeBound (m : Member) (guarded : Bool)
  | breakpointSet (m : Member)
  | engineReady (hooks targets : Nat)
  /-- A handler that only logs let this call through. -/
  | letThrough (c : BlockingCall)
  | typeLoaded (type : String)
  | serviceCalled (member : String)
deriving DecidableEq, Repr

inductive LogLevel
  | trace
  | debug
  | warn
deriving DecidableEq, Repr

inductive FieldValue
  | number (n : Nat)
  | flag (b : Bool)
  | text (s : String)
deriving DecidableEq, Repr

structure LogEvent where
  level : LogLevel
  message : String
  fields : List (String × FieldValue)
deriving DecidableEq, Repr

/-- An optional name as it stands in a log field. -/
def shownName : Option String → String
  | some n => "Some(" ++ Text.quoted n ++ ")"
  | none => "None"

/-- The log entry of a notice; of the tally marks only faults are logged. -/
def Notice.event : Notice → Option LogEvent
  | marked (.fault f) => some ⟨.debug, "Instrumentation fault, failing open",
      [("kind", .text f.kind), ("fault", .text f.message)]⟩
  | marked _ => none
  | threadClassified t name restricted => some ⟨.trace, "Thread classified",
      [("thread", .number t.val), ("name", .text (shownName name)), ("is_restricted", .flag restricted)]⟩
  | threadDeclared t reclassify => some ⟨.trace, "Thread declared",
      [("thread", .number t.val), ("reclassify", .flag reclassify)]⟩
  | nativeBound m guarded => some ⟨.trace, "Native entry point bound",
      [("operation", .number m.id.val), ("member", .text m.name), ("guarded", .flag guarded)]⟩
  | breakpointSet m => some ⟨.trace, "Breakpoint installed",
      [("operation", .number m.id.val), ("member", .text m.name)]⟩
  | engineReady hooks targets => some ⟨.debug, "Blocking-call detection engine ready",
      [("hooks", .number hooks), ("targets", .number targets)]⟩
  | letThrough c => some ⟨.warn, "Blocking call detected on a non-blocking thread", [("method", .text c.describe)]⟩
  | typeLoaded ty => some ⟨.trace, "Type loaded", [("type_name", .text ty)]⟩
  | serviceCalled member => some ⟨.trace, "Service call instrumented", [("member", .text member)]⟩

/-- The counter a notice moves outside the engine. -/
def Notice.counter : Notice → Option String
  | marked t => t.counterName
  | _ => none

end StallGuard
