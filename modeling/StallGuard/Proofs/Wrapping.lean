/-
  StallGuard.Proofs.Wrapping — where a play runs that is put into wrappers, and what it leaves.

  A wrapper is the frame of a member, or the poll of a task, which has a frame too and holds
  its mark besides. What is put into wrappers starts on a site of its own (`Site.wrapped`).
  When it has ended, in whatever way and whatever it left behind, the wrappers are taken
  off again, the last of them first (`Site.unwrapped`).
  - `inWrappers_at`: so a play in wrappers runs.
  - `wrapped_stack`: it starts with the frames of the wrappers on top of those of the entry.
  - `unwrapped_stack`: in the end the stack is cut to its height at the entry.
-/

import StallGuard.Proofs.Footing
import StallGuard.Proofs.Listing

namespace StallGuard

open Site Primitives

variable {π α β : Type} {t : ThreadId} {rt : RuntimeId} {key : MemberKey} {op : OperationId}

namespace Wrapper

/-- The runtime of its frame. -/
def runtime : Wrapper → RuntimeId
  | task rt => rt
  | frame rt _ => rt

/-- The member that its frame is of. -/
def member : Wrapper → MemberRef
  | task _ => taskPoll
  | frame _ m => m

end Wrapper

namespace Site

variable {s s' : Site π α}

/-! ## Inside wrappers -/

/-- The thread is among those that run tasks: it joins them now, if it has to. -/
def joined (t : ThreadId) (rt : RuntimeId) (s : Site π α) : Site π α :=
  if (s.process.thread t).holds taskThread = true then s else (declare t rt [taskThread] s).2

/-- What goes before the frame: the poll of a task takes its mark. -/
def before (t : ThreadId) (s : Site π α) : Wrapper → Site π α
  | .task rt => (inProcess (·.holdCapability t taskMark) (s.joined t rt)).2
  | .frame .. => s

/-- The guard of the wrapper's frame. -/
def guardOf (t : ThreadId) (w : Wrapper) (s : Site π α) : FrameGuard :=
  (pushFrame t w.runtime w.member (s.before t w)).1

/-- Where a play starts inside the wrapper. -/
def opened (t : ThreadId) (w : Wrapper) (s : Site π α) : Site π α := (pushFrame t w.runtime w.member (s.before t w)).2

/-- What goes after the frame: the poll of a task lets go of its mark. -/
def after (t : ThreadId) (s s' : Site π α) : Wrapper → Site π α
  | .task rt => (changeProcess (·.dropCapability t (inProcess (·.holdCapability t taskMark) (s.joined t rt)).1) s').2
  | .frame .. => s'

/-- What is left when a play inside the wrapper, entered from `s`, has ended on `s'`. -/
def closed (t : ThreadId) (w : Wrapper) (s s' : Site π α) : Site π α :=
  s.after t (dropFrame t (s.guardOf t w) s').2 w

/-- Where a play starts inside the wrappers, the first of them outermost. -/
def wrapped (t : ThreadId) : List Wrapper → Site π α → Site π α
  | [], s => s
  | w :: ws, s => wrapped t ws (s.opened t w)

/-- What is left when a play inside the wrappers, entered from `s`, has ended on `s'`. -/
def unwrapped (t : ThreadId) : List Wrapper → Site π α → Site π α → Site π α
  | [], _, s' => s'
  | w :: ws, s, s' => s.closed t w (unwrapped t ws (s.opened t w) s')

theorem inTask_at (t : ThreadId) (rt : RuntimeId) (body : Play π α β) (s : Site π α) :
    inTask t rt body s = ((body (s.opened t (.task rt))).1, s.closed t (.task rt) (body (s.opened t (.task rt))).2) := by
  unfold inTask opened closed after guardOf before joined
  rw [bind_at, get_at]
  dsimp only
  split <;> rfl

theorem inWrapper_at (t : ThreadId) (w : Wrapper) (body : Play π α β) (s : Site π α) :
    inWrappers t [w] body s = ((body (s.opened t w)).1, s.closed t w (body (s.opened t w)).2) := by
  cases w with
  | frame rt m => rfl
  | task rt => exact inTask_at t rt body s

/-- A play in wrappers runs inside them, and then they are taken off. -/
theorem inWrappers_at (t : ThreadId) (ws : List Wrapper) (body : Play π α β) (s : Site π α) :
    inWrappers t ws body s = ((body (s.wrapped t ws)).1, s.unwrapped t ws (body (s.wrapped t ws)).2) := by
  induction ws generalizing s with
  | nil => rfl
  | cons w ws ih =>
    have hcons : inWrappers t (w :: ws) body = inWrappers t [w] (inWrappers t ws body) := by cases w <;> rfl
    rw [hcons, inWrapper_at, ih]
    rfl

/-! ### What goes before the frame -/

theorem changeThread_steady (t : ThreadId) (f : Thread → Thread) (s : Site π α) :
    s.Steady (changeProcess (·.changeThread t f) s).2 := by
  have hquiet : s.Quiet (changeProcess (·.changeThread t f) s).2 := .of_same rfl rfl rfl
  exact hquiet.steady

theorem joined_steady (t : ThreadId) (rt : RuntimeId) (s : Site π α) : s.Steady (s.joined t rt) := by
  unfold joined
  split
  · exact .refl s
  · exact announceThread_steady t rt _ (changeThread_steady t _ s)

theorem joined_frames (t : ThreadId) (rt : RuntimeId) (s : Site π α) :
    ((s.joined t rt).process.thread t).frames = (s.process.thread t).frames := by
  unfold joined
  split
  · rfl
  · exact (congrArg Thread.frames (Move.play_thread_self (m := .declare t rt [taskThread]) rfl)).trans rfl

theorem before_steady (t : ThreadId) (w : Wrapper) (s : Site π α) : s.Steady (s.before t w) := by
  cases w with
  | frame rt m => exact .refl s
  | task rt => exact (joined_steady t rt s).steady (changeThread_steady t (·.declare [taskMark]) _)

theorem before_frames (t : ThreadId) (w : Wrapper) (s : Site π α) :
    ((s.before t w).process.thread t).frames = (s.process.thread t).frames := by
  cases w with
  | frame rt m => rfl
  | task rt =>
    have hheld : ((s.before t (.task rt)).process.thread t).frames = ((s.joined t rt).process.thread t).frames :=
      (congrArg Thread.frames (Move.play_thread_self (m := .hold t taskMark) rfl)).trans rfl
    rw [hheld, joined_frames]

/-- What goes after the frame leaves the frames alone. -/
theorem after_frames (t : ThreadId) (w : Wrapper) (s s' : Site π α) :
    ((s.after t s' w).process.thread t).frames = (s'.process.thread t).frames := by
  cases w with
  | frame rt m => rfl
  | task rt => exact (congrArg Thread.frames (Move.play_thread_self (m := .letGo t _) rfl)).trans rfl

/-! ### The guard of a frame -/

/-- The guard that `m` gets, by the catalogue and the height of the stack. -/
theorem pushFrame_guard (t : ThreadId) (rt : RuntimeId) (m : MemberRef) (s : Site π α) :
    (pushFrame t rt m s).1 = ⟨(s.process.catalogue rt m).1.1, (s.process.thread t).frames.length⟩ := by
  show FrameGuard.mk (define t rt m s).1 ((define t rt m s).2.process.thread t).frames.length = _
  rw [(define_calm t rt m s (.refl s)).thread, define_at]

theorem guardOf_eq (t : ThreadId) (w : Wrapper) (s : Site π α) :
    s.guardOf t w = ⟨(s.process.catalogue w.runtime w.member).1.1, (s.process.thread t).frames.length⟩ := by
  rw [guardOf, pushFrame_guard, before_frames, ((before_steady t w s).alike.catalogue w.runtime w.member).1]
  rfl

theorem guardOf_depth (t : ThreadId) (w : Wrapper) (s : Site π α) : (s.guardOf t w).depth = (s.stack t).length := by
  rw [guardOf_eq, stack, List.length_reverse]

/-! ## Frames of wrappers -/

/-- A member keeps its operation, whatever is defined. -/
theorem Defines.operation? {ds : List (RuntimeId × MemberRef)} (h : s.Defines ds s')
    (hop : (s.process.runtime rt).operation? key = some op) : (s'.process.runtime rt).operation? key = some op := by
  obtain ⟨i, hi, rfl⟩ := Option.map_eq_some_iff.1 hop
  obtain ⟨later, hlater⟩ := members_le s.process ds rt
  have hi' : (s'.process.runtime rt).find? key = some i := by
    rw [Runtime.find?, h.alike.members, ← hlater, List.find?_append, ← Runtime.find?, hi, Option.some_or]
  rw [Runtime.operation?, hi']
  rfl

theorem opened_defines (t : ThreadId) (w : Wrapper) (s : Site π α) :
    s.Defines [(w.runtime, w.member)] (s.opened t w) :=
  ((before_steady t w s).trans (define_defines t w.runtime w.member _)).steady
    (changeThread_steady t (·.push (s.guardOf t w).operation) _)

theorem opened_operation (t : ThreadId) (w : Wrapper) (s : Site π α) :
    ((s.opened t w).process.runtime w.runtime).operation? w.member.key = some (s.guardOf t w).operation :=
  define_operation t w.runtime w.member (s.before t w)

theorem opened_stack (t : ThreadId) (w : Wrapper) (s : Site π α) :
    (s.opened t w).stack t = s.stack t ++ [(s.guardOf t w).operation] := by
  rw [opened, stack_pushFrame, stack_of_frames (before_frames t w s)]
  rfl

theorem closed_stack (t : ThreadId) (w : Wrapper) (s s' : Site π α) :
    (s.closed t w s').stack t = (s'.stack t).take (s.stack t).length := by
  rw [closed, stack_of_frames (after_frames t w s _), stack_dropFrame, guardOf_depth]

theorem wrapped_keeps (t : ThreadId) (ws : List Wrapper) {s : Site π α}
    (hop : (s.process.runtime rt).operation? key = some op) :
    ((s.wrapped t ws).process.runtime rt).operation? key = some op := by
  induction ws generalizing s with
  | nil => exact hop
  | cons w ws ih => exact ih ((opened_defines t w s).operation? hop)

theorem wrapped_concat (t : ThreadId) (ws : List Wrapper) (w : Wrapper) (s : Site π α) :
    s.wrapped t (ws ++ [w]) = (s.wrapped t ws).opened t w := by
  induction ws generalizing s with
  | nil => rfl
  | cons w' ws ih => exact ih _

/-- What runs in wrappers starts with their frames on top of those of the entry. -/
theorem wrapped_stack (t : ThreadId) (ws : List Wrapper) (s : Site π α) :
    ∃ ops, (s.wrapped t ws).stack t = s.stack t ++ ops ∧ List.Forall₂ (fun (w : Wrapper) op =>
      ((s.wrapped t ws).process.runtime w.runtime).operation? w.member.key = some op) ws ops := by
  induction ws generalizing s with
  | nil => exact ⟨[], (List.append_nil _).symm, .nil⟩
  | cons w ws ih =>
    obtain ⟨ops, hstack, hops⟩ := ih (s.opened t w)
    refine ⟨(s.guardOf t w).operation :: ops, ?_, .cons (wrapped_keeps t ws (opened_operation t w s)) hops⟩
    rw [wrapped, hstack, opened_stack, List.append_assoc]
    rfl

/-- However high the stack is when it ends, it is cut to its height at the entry. -/
theorem unwrapped_stack (t : ThreadId) {ws : List Wrapper} (hne : ws ≠ []) (s s' : Site π α) :
    (s.unwrapped t ws s').stack t = (s'.stack t).take (s.stack t).length := by
  induction ws generalizing s with
  | nil => exact absurd rfl hne
  | cons w ws ih =>
    rw [unwrapped, closed_stack]
    cases ws with
    | nil => rfl
    | cons w' ws =>
      have hhigher : (s.stack t).length ≤ ((s.opened t w).stack t).length := by
        rw [opened_stack, List.length_append]
        exact Nat.le_add_right _ _
      rw [ih (List.cons_ne_nil _ _), List.take_take, Nat.min_eq_left hhigher]

end Site

end StallGuard
