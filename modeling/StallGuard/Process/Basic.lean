/-
  StallGuard.Process.Basic — threads with shadow stacks, and runtimes that catalogue members.

  A thread of the process carries its own shadow stack and the capabilities it declared;
  both belong to the thread and are seen through every runtime. A runtime is a catalogue
  of members with the breakpoints set on them. A member is in a catalogue from the
  moment it is first defined, under the first description given of it; a type is loaded
  when it has a member.

  Operations and threads are numbered across the whole process. Numbers are issued from
  `firstNumber` on, beyond every 64-bit word, so a word never names one by accident.
-/

import StallGuard.Host
import StallGuard.Names
import StallGuard.Table

namespace StallGuard

structure RuntimeId where
  name : String
deriving DecidableEq, Repr, Inhabited

structure EngineId where
  val : Nat
deriving DecidableEq, Repr, Inhabited

structure RecorderId where
  val : Nat
deriving DecidableEq, Repr, Inhabited

/-- Who is told what happens on a runtime. -/
inductive Listener
  | engine (id : EngineId)
  | recorder (id : RecorderId)
deriving DecidableEq, Repr

/-- A thread of the process. -/
structure Thread where
  name : Option String := none
  /-- Innermost first. -/
  frames : List OperationId := []
  /-- In the order of declaration. -/
  capabilities : List String := []
  /-- The thread is inside a check. -/
  checking : Bool := false
deriving Repr, Inhabited

/-- One list stands for all that is kept of members: an index by operation, one by type and
    name, and the members of each type. What any of them would give is read off it by
    `byId?`, `find?` and `membersOf`, and definitions keep keys and operations apart. -/
structure Runtime where
  /-- In the order of definition. -/
  members : List Member := []
  breakpoints : List OperationId := []
  /-- In the order of subscription. -/
  listeners : List Listener := []
deriving Repr, Inhabited

structure Process where
  runtimes : Table RuntimeId Runtime := .empty
  threads : Table ThreadId Thread := .empty
  nextOperation : Nat
  nextThread : Nat

def firstNumber : Nat := 18446744073709551616

def Process.fresh : Process := { nextOperation := firstNumber, nextThread := firstNumber }

namespace Thread

def info (t : Thread) (id : ThreadId) : ThreadInfo := ⟨id, t.name, t.capabilities⟩

def holds (t : Thread) (capability : String) : Bool := t.capabilities.contains capability

/-- The frames from `start` on, at most `count`. -/
def page (t : Thread) (start count : Nat) : List OperationId := (t.frames.drop start).take count

end Thread

namespace Runtime

def find? (r : Runtime) (key : MemberKey) : Option Member := r.members.find? fun m => m.key = key

def byId? (r : Runtime) (op : OperationId) : Option Member := r.members.find? fun m => m.id = op

def operation? (r : Runtime) (key : MemberKey) : Option OperationId := (r.find? key).map Member.id

def membersOf (r : Runtime) (owner : String) : List Member := r.members.filter fun m => m.owner = owner

/-- Names of the loaded types. -/
def types (r : Runtime) : List String := Names.ofList (r.members.map Member.owner)

def typeMembers (r : Runtime) (owner : String) : Except Fault (List Member) :=
  match r.membersOf owner with
  | [] => .error (.typeNotLoaded owner)
  | ms => .ok ms

def memberInfo (r : Runtime) (op : OperationId) : Except Fault Member :=
  match r.byId? op with
  | some m => .ok m
  | none => .error (.unknownOperation op)

def breaksAt (r : Runtime) (op : OperationId) : Bool := r.breakpoints.contains op

/-- Sets a breakpoint on a member it knows. -/
def setBreakpoint (r : Runtime) (op : OperationId) : Except Fault Unit × Runtime :=
  match r.byId? op with
  | none => (.error (.breakpointRejected op), r)
  | some _ => (.ok (), if r.breaksAt op then r else { r with breakpoints := r.breakpoints ++ [op] })

end Runtime

namespace Process

def runtime (p : Process) (rt : RuntimeId) : Runtime := (p.runtimes.get? rt).getD {}

def thread (p : Process) (t : ThreadId) : Thread := (p.threads.get? t).getD {}

def changeRuntime (p : Process) (rt : RuntimeId) (f : Runtime → Runtime) : Process :=
  { p with runtimes := p.runtimes.insert rt (f (p.runtime rt)) }

def changeThread (p : Process) (t : ThreadId) (f : Thread → Thread) : Process :=
  { p with threads := p.threads.insert t (f (p.thread t)) }

/-- Starts a thread. -/
def newThread (p : Process) (name : Option String) : ThreadId × Process :=
  (⟨p.nextThread⟩,
    { p with threads := p.threads.insert ⟨p.nextThread⟩ { name }, nextThread := p.nextThread + 1 })

/-- The operation of a member, and whether this defined it. -/
def catalogue (p : Process) (rt : RuntimeId) (m : MemberRef) : (OperationId × Bool) × Process :=
  match (p.runtime rt).operation? m.key with
  | some op => ((op, false), p)
  | none =>
    let op : OperationId := ⟨p.nextOperation⟩
    ((op, true),
      { p.changeRuntime rt fun r => { r with members := r.members ++ [m.withId op] } with
        nextOperation := p.nextOperation + 1 })

/-- What the host `rt` answers when the thread `t` asks. Only its own stack and
    capabilities are within a thread's reach. -/
def host (rt : RuntimeId) (t : ThreadId) : Host Process where
  currentThread _ := t
  threadInfo asked := fun p =>
    (if asked = t then .ok ((p.thread t).info t) else .error (.threadNotAccessible asked), p)
  stackFrames asked start count := fun p =>
    (if asked = t then .ok ((p.thread t).page start count) else .error (.threadNotAccessible asked), p)
  typeMembers owner := fun p => ((p.runtime rt).typeMembers owner, p)
  memberInfo op := fun p => ((p.runtime rt).memberInfo op, p)
  setBreakpoint op := fun p =>
    let r := (p.runtime rt).setBreakpoint op
    (r.1, p.changeRuntime rt fun _ => r.2)

end Process

end StallGuard
