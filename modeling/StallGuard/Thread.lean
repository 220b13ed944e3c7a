/-
  StallGuard.Thread — what a host tells about a thread, and tests on it.

  Whether a thread must not block is decided by a predicate on what its host tells. A
  `ThreadTest` writes such a predicate down; in it, `current` stands for the predicate
  that held so far, so that a test can widen or narrow an earlier one.
-/

import StallGuard.Member

namespace StallGuard

structure ThreadInfo where
  thread : ThreadId
  name : Option String := none
  capabilities : List String := []
deriving DecidableEq, Repr, Inhabited

def ThreadInfo.declares (i : ThreadInfo) (capability : String) : Bool := i.capabilities.contains capability

abbrev ThreadPredicate := ThreadInfo → Bool

/-- Holds for the threads that declare the marker. -/
def markerPredicate (marker : String) : ThreadPredicate := fun i => i.declares marker

inductive ThreadTest
  | always (b : Bool)
  /-- What held so far. -/
  | current
  | declares (capability : String)
  | named (name : String)
  /-- The thread has a name that starts so. -/
  | namedFrom (start : String)
  | isThread (t : ThreadId)
  | not (test : ThreadTest)
  | any (tests : List ThreadTest)
  | all (tests : List ThreadTest)
deriving Inhabited

namespace ThreadTest

mutual

def holds (before : ThreadPredicate) (i : ThreadInfo) : ThreadTest → Bool
  | always b => b
  | current => before i
  | declares c => i.declares c
  | named n => i.name == some n
  | namedFrom s => match i.name with
    | some n => s.toList.isPrefixOf n.toList
    | none => false
  | isThread t => i.thread == t
  | not test => !holds before i test
  | any tests => holdsAny before i tests
  | all tests => holdsAll before i tests

def holdsAny (before : ThreadPredicate) (i : ThreadInfo) : List ThreadTest → Bool
  | [] => false
  | t :: r => holds before i t || holdsAny before i r

def holdsAll (before : ThreadPredicate) (i : ThreadInfo) : List ThreadTest → Bool
  | [] => true
  | t :: r => holds before i t && holdsAll before i r

end

mutual

/-- The test asks what held so far. -/
def usesCurrent : ThreadTest → Bool
  | current => true
  | not test => usesCurrent test
  | any tests => anyUsesCurrent tests
  | all tests => anyUsesCurrent tests
  | _ => false

def anyUsesCurrent : List ThreadTest → Bool
  | [] => false
  | t :: r => usesCurrent t || anyUsesCurrent r

end

/-- The predicate that replaces `before`. -/
def compose (test : ThreadTest) (before : ThreadPredicate) : ThreadPredicate := fun i => test.holds before i

/-- The predicate of a test that stands alone, or nothing if it asks what held before. -/
def alone? (test : ThreadTest) : Option ThreadPredicate :=
  if test.usesCurrent then none else some (test.compose fun _ => false)

end ThreadTest

end StallGuard
