/-
  StallGuard.Stage — a host whose every answer is set beforehand.

  A stage stands in for a process in a rehearsal. Its threads, stacks, types and members
  are whatever was put there; it can be told to refuse requests, to deliver pages that
  are shorter or longer than asked for, and it writes down every request it got.
-/

import StallGuard.Host
import StallGuard.Process.Basic

namespace StallGuard

/-- A request as a stage writes it down. -/
inductive HostCall
  | threadInfo (t : ThreadId)
  | stackFrames (t : ThreadId) (start count : Nat)
  | typeMembers (owner : String)
  | memberInfo (op : OperationId)
  | setBreakpoint (op : OperationId)
deriving DecidableEq, Repr

/-- How many frames a page holds compared with what was asked for. -/
inductive Paging
  | exact
  | atMost (n : Nat)
  | more (n : Nat)
deriving DecidableEq, Repr

def Paging.size : Paging → Nat → Nat
  | exact, count => count
  | atMost n, count => min count n
  | more n, count => count + n

structure Stage where
  current : ThreadId := ⟨1⟩
  threads : Table ThreadId ThreadInfo := .empty
  /-- Innermost first. -/
  threadStacks : Table ThreadId (List OperationId) := .empty
  members : Table OperationId Member := .empty
  types : Table String (List OperationId) := .empty
  loaded : List String := []
  breakpoints : List OperationId := []
  rejected : List OperationId := []
  threadFault : Option Fault := none
  memberFault : Option Fault := none
  /-- Refuses pages that start at this frame or later. -/
  stackFault : Option (Nat × Fault) := none
  typeFaults : Table String Fault := .empty
  paging : Paging := .exact
  /-- In the order of subscription. -/
  listeners : List EngineId := []
  /-- In the order of arrival. -/
  calls : List HostCall := []

namespace Stage

def stack (s : Stage) (t : ThreadId) : List OperationId := (s.threadStacks.get? t).getD []

/-- Writes a request down and answers it. -/
def answer {α : Type} (c : HostCall) (f : Stage → α) : StateM Stage α := fun s =>
  (f s, { s with calls := s.calls ++ [c] })

def threadInfo (s : Stage) (t : ThreadId) : Except Fault ThreadInfo :=
  match s.threadFault with
  | some f => .error f
  | none => .ok ((s.threads.get? t).getD { thread := t })

def page (s : Stage) (t : ThreadId) (start count : Nat) : List OperationId :=
  ((s.stack t).drop start).take (s.paging.size count)

def stackFrames (s : Stage) (t : ThreadId) (start count : Nat) : Except Fault (List OperationId) :=
  match s.stackFault with
  | some (first, f) => if first ≤ start then .error f else .ok (s.page t start count)
  | none => .ok (s.page t start count)

def typeMembers (s : Stage) (owner : String) : Except Fault (List Member) :=
  match s.typeFaults.get? owner with
  | some f => .error f
  | none =>
    if owner ∈ s.loaded then .ok (((s.types.get? owner).getD []).filterMap s.members.get?)
    else .error (.typeNotLoaded owner)

def memberInfo (s : Stage) (op : OperationId) : Except Fault Member :=
  match s.memberFault, s.members.get? op with
  | some f, _ => .error f
  | none, some m => .ok m
  | none, none => .error (.unknownOperation op)

def setBreakpoint (op : OperationId) : StateM Stage (Except Fault Unit) := fun s =>
  if op ∈ s.rejected then (.error (.breakpointRejected op), s)
  else (.ok (), if op ∈ s.breakpoints then s else { s with breakpoints := s.breakpoints ++ [op] })

def host : Host Stage where
  currentThread s := s.current
  threadInfo t := answer (.threadInfo t) (·.threadInfo t)
  stackFrames t start count := answer (.stackFrames t start count) (·.stackFrames t start count)
  typeMembers owner := answer (.typeMembers owner) (·.typeMembers owner)
  memberInfo op := answer (.memberInfo op) (·.memberInfo op)
  setBreakpoint op := do
    answer (.setBreakpoint op) fun _ => ()
    setBreakpoint op

/-- Puts a member on the stage, as one more of its type's. -/
def addMember (s : Stage) (m : Member) : Stage :=
  { s with
    types := s.types.insert m.owner ((s.types.get? m.owner).getD [] ++ [m.id])
    members := s.members.insert m.id m }

def load (s : Stage) (owner : String) : Stage :=
  if owner ∈ s.loaded then s else { s with loaded := s.loaded ++ [owner] }

def push (s : Stage) (t : ThreadId) (op : OperationId) : Stage :=
  { s with threadStacks := s.threadStacks.insert t (op :: s.stack t) }

def pop (s : Stage) (t : ThreadId) : Stage := { s with threadStacks := s.threadStacks.insert t (s.stack t).tail }

end Stage

end StallGuard
