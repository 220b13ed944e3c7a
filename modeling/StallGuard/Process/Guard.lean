/-
  StallGuard.Process.Guard — frames and capabilities that end with what holds them.

  Pushing a frame gives a guard that remembers how deep the stack was. Dropping the guard
  cuts the stack back to that depth, whatever has been pushed or left behind above it.
  Capabilities held for a while work the same way on the list of capabilities.
-/

import StallGuard.Process.Basic

namespace StallGuard

structure FrameGuard where
  operation : OperationId
  depth : Nat
deriving DecidableEq, Repr

structure CapabilityGuard where
  length : Nat
deriving DecidableEq, Repr

namespace Thread

def push (t : Thread) (op : OperationId) : Thread := { t with frames := op :: t.frames }

/-- Keeps the outermost `depth` frames. -/
def cutFrames (t : Thread) (depth : Nat) : Thread := { t with frames := t.frames.drop (t.frames.length - depth) }

def declare (t : Thread) (capabilities : List String) : Thread :=
  { t with capabilities := t.capabilities ++ capabilities }

/-- Keeps the oldest `length` capabilities. -/
def cutCapabilities (t : Thread) (length : Nat) : Thread := { t with capabilities := t.capabilities.take length }

end Thread

namespace Process

def pushFrame (p : Process) (t : ThreadId) (op : OperationId) : FrameGuard × Process :=
  (⟨op, (p.thread t).frames.length⟩, p.changeThread t (·.push op))

def dropFrame (p : Process) (t : ThreadId) (g : FrameGuard) : Process := p.changeThread t (·.cutFrames g.depth)

def holdCapability (p : Process) (t : ThreadId) (capability : String) : CapabilityGuard × Process :=
  (⟨(p.thread t).capabilities.length⟩, p.changeThread t (·.declare [capability]))

def dropCapability (p : Process) (t : ThreadId) (g : CapabilityGuard) : Process :=
  p.changeThread t (·.cutCapabilities g.length)

/-- The member's operation stands on the thread's stack. -/
def isExecuting (p : Process) (rt : RuntimeId) (t : ThreadId) (m : MemberRef) : Bool :=
  match (p.runtime rt).operation? m.key with
  | some op => (p.thread t).frames.contains op
  | none => false

end Process

end StallGuard
