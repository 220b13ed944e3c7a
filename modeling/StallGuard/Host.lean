/-
  StallGuard.Host — what an engine may ask of the process it watches.

  `σ` is the host's own state. Every request may change it and may be refused with a
  fault; an engine sees the process only through these six requests, so whatever is
  proved for an arbitrary `Host` holds for every process.
-/

import StallGuard.Fault
import StallGuard.Thread

namespace StallGuard

structure Host (σ : Type) where
  currentThread : σ → ThreadId
  threadInfo : ThreadId → StateM σ (Except Fault ThreadInfo)
  /-- At most `count` frames of a thread's stack, innermost first, after `start` of them. -/
  stackFrames : ThreadId → (start count : Nat) → StateM σ (Except Fault (List OperationId))
  /-- The members of a loaded type. -/
  typeMembers : String → StateM σ (Except Fault (List Member))
  memberInfo : OperationId → StateM σ (Except Fault Member)
  setBreakpoint : OperationId → StateM σ (Except Fault Unit)

/-- The operations of the members of a type with this name. -/
def Host.resolve {σ : Type} (h : Host σ) (owner name : String) : StateM σ (Except Fault (List OperationId)) := do
  match ← h.typeMembers owner with
  | .ok members => pure (.ok ((members.filter fun m => m.name = name).map Member.id))
  | .error f => pure (.error f)

end StallGuard
