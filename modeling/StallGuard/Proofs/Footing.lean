/-
  StallGuard.Proofs.Footing — guards, and the frames that belong to them.

  A guard remembers nothing but how deep the stack was when it was handed out. To drop it
  cuts the stack back to that depth, whatever stands above by then. A `Footing` keeps
  beside the site which guard each frame belongs to; a `Walk` is any sequence of frames
  pushed and guards dropped on one thread, in whatever order, with guards that are never
  dropped, and anything in between that leaves the frames of the thread alone.
  - `Walk.sound`: each frame stands where its guard says, and a guard has lost its frame
    exactly if one that is no deeper was dropped in its lifetime.
  - `Walk.drop_frames`: a guard that is dropped before any older one leaves the stack as it
    was before its frame was pushed.
  - `Walk.restores`: so does every walk whose record starts with a push and ends with the
    drop of that guard.
-/

import StallGuard.Proofs.Calm
import StallGuard.Proofs.Holding

namespace StallGuard

open Site

variable {π α β γ : Type} {t : ThreadId} {rt : RuntimeId} {m : MemberRef} {k : Nat}

/-! ## Guards handed out and dropped -/

/-- What is done to the frames of a thread. Guards are numbered as they are handed out. -/
inductive Deed
  | pushed (g : FrameGuard)
  | dropped (k : Nat) (g : FrameGuard)
deriving DecidableEq

namespace Deed

def handed? : Deed → Option FrameGuard
  | pushed g => some g
  | dropped .. => none

/-- A guard of this depth, or one less deep, is dropped. -/
def Cuts (depth : Nat) : Deed → Prop
  | pushed _ => False
  | dropped _ g => g.depth ≤ depth

instance (depth : Nat) (d : Deed) : Decidable (d.Cuts depth) :=
  match d with
  | pushed _ => inferInstanceAs (Decidable False)
  | dropped _ g => inferInstanceAs (Decidable (g.depth ≤ depth))

end Deed

def handed (past : List Deed) : List FrameGuard := past.filterMap Deed.handed?

/-- What was done since guard `k` was handed out. -/
def lifeOf : List Deed → Nat → List Deed
  | [], _ => []
  | .pushed _ :: r, 0 => r
  | .pushed _ :: r, k + 1 => lifeOf r k
  | .dropped .. :: r, k => lifeOf r k

/-- In the lifetime of guard `k` a guard was dropped that is no deeper, or it was itself. -/
def Cut (past : List Deed) (k : Nat) : Prop :=
  ∃ g, (handed past)[k]? = some g ∧ ∃ d ∈ lifeOf past k, d.Cuts g.depth

theorem handed_append (past since : List Deed) : handed (past ++ since) = handed past ++ handed since :=
  List.filterMap_append

theorem lifeOf_append {past : List Deed} (hk : k < (handed past).length) (since : List Deed) :
    lifeOf (past ++ since) k = lifeOf past k ++ since := by
  induction past generalizing k with
  | nil => exact absurd hk (Nat.not_lt_zero k)
  | cons d past ih =>
    cases d with
    | dropped j g => exact ih hk
    | pushed g =>
      cases k with
      | zero => rfl
      | succ k => exact ih (Nat.lt_of_succ_lt_succ hk)

theorem lifeOf_new (past : List Deed) (g : FrameGuard) : lifeOf (past ++ [.pushed g]) (handed past).length = [] := by
  induction past with
  | nil => rfl
  | cons d past ih => cases d <;> exact ih

theorem cut_append {past since : List Deed} {g : FrameGuard} (hg : (handed past)[k]? = some g) :
    Cut (past ++ since) k ↔ Cut past k ∨ ∃ d ∈ since, d.Cuts g.depth := by
  have hk : k < (handed past).length := (List.getElem?_eq_some_iff.1 hg).1
  have hg' : (handed (past ++ since))[k]? = some g := by
    rw [handed_append, List.getElem?_append_left hk]
    exact hg
  simp only [Cut, hg, hg', lifeOf_append hk, Option.some.injEq, exists_eq_left', List.mem_append, or_and_right,
    exists_or]

theorem not_cut_new (past : List Deed) (g : FrameGuard) : ¬Cut (past ++ [.pushed g]) (handed past).length := by
  rintro ⟨g', -, d, hd, -⟩
  rw [lifeOf_new] at hd
  cases hd

/-! ## Stacks -/

namespace Site

/-- The frames of the thread, outermost first. -/
def stack (t : ThreadId) (s : Site π α) : List OperationId := (s.process.thread t).frames.reverse

variable {s s' : Site π α}

theorem stack_of_frames (h : (s'.process.thread t).frames = (s.process.thread t).frames) :
    s'.stack t = s.stack t := congrArg List.reverse h

theorem stack_pushFrame (t : ThreadId) (rt : RuntimeId) (m : MemberRef) (s : Site π α) :
    (pushFrame t rt m s).2.stack t = s.stack t ++ [(pushFrame t rt m s).1.operation] := by
  have hpush : (pushFrame t rt m s).2.process.thread t =
      (s.process.thread t).push (pushFrame t rt m s).1.operation := Move.play_thread_self (m := .push t rt m) rfl
  rw [stack, hpush, Thread.push, List.reverse_cons]
  rfl

theorem depth_pushFrame (t : ThreadId) (rt : RuntimeId) (m : MemberRef) (s : Site π α) :
    (pushFrame t rt m s).1.depth = (s.stack t).length := by
  show ((define t rt m s).2.process.thread t).frames.length = _
  rw [(define_calm t rt m s (.refl s)).thread, stack, List.length_reverse]

theorem stack_dropFrame (t : ThreadId) (g : FrameGuard) (s : Site π α) :
    (dropFrame t g s).2.stack t = (s.stack t).take g.depth := by
  have hcut : (dropFrame t g s).2.process.thread t = (s.process.thread t).cutFrames g.depth :=
    Move.play_thread_self (m := .cut t g) rfl
  rw [stack, hcut, Thread.cutFrames, stack, List.reverse_drop]
  by_cases h : g.depth ≤ (s.process.thread t).frames.length
  · rw [Nat.sub_sub_self h]
  · have hnone : (s.process.thread t).frames.length - g.depth = 0 := by omega
    rw [hnone, Nat.sub_zero, List.take_of_length_le (Nat.le_of_eq List.length_reverse),
      List.take_of_length_le (by rw [List.length_reverse]; omega)]

end Site

/-! ## Footings -/

/-- A site, the guards handed out on it, and the number of the guard that each frame of the
    thread belongs to, outermost first. -/
structure Footing (π α : Type) where
  site : Site π α
  guards : List FrameGuard := []
  owners : List Nat := []

namespace Footing

def begin (s : Site π α) : Footing π α := { site := s }

/-- The frames of the thread, outermost first. -/
def frames (t : ThreadId) (x : Footing π α) : List OperationId := x.site.stack t

/-- A frame is pushed, and its guard handed out. -/
def push (t : ThreadId) (rt : RuntimeId) (m : MemberRef) (x : Footing π α) : Footing π α :=
  let r := pushFrame t rt m x.site
  { site := r.2, guards := x.guards ++ [r.1], owners := x.owners ++ [x.guards.length] }

/-- A guard is dropped. -/
def drop (t : ThreadId) (g : FrameGuard) (x : Footing π α) : Footing π α :=
  { x with site := (dropFrame t g x.site).2, owners := x.owners.take g.depth }

end Footing

/-- The guard of the frame that `m` would get now. -/
def Footing.next (t : ThreadId) (rt : RuntimeId) (m : MemberRef) (x : Footing π α) : FrameGuard :=
  (pushFrame t rt m x.site).1

/-- What can be done on the thread `t` from `x` on. -/
inductive Walk (t : ThreadId) (x : Footing π α) : List Deed → Footing π α → Prop
  | start : Walk t x [] x
  | push {since : List Deed} {y : Footing π α} (rt : RuntimeId) (m : MemberRef) : Walk t x since y →
      Walk t x (since ++ [.pushed (y.next t rt m)]) (y.push t rt m)
  | drop {since : List Deed} {y : Footing π α} {k : Nat} {g : FrameGuard} : Walk t x since y →
      y.guards[k]? = some g → Walk t x (since ++ [.dropped k g]) (y.drop t g)
  | aside {since : List Deed} {y : Footing π α} (s : Site π α) : Walk t x since y →
      (s.process.thread t).frames = (y.site.process.thread t).frames → Walk t x since { y with site := s }

namespace Footing

variable {x : Footing π α}

theorem frames_push (x : Footing π α) :
    (x.push t rt m).frames t = x.frames t ++ [(x.next t rt m).operation] := stack_pushFrame t rt m x.site

theorem depth_next (x : Footing π α) : (x.next t rt m).depth = (x.frames t).length := depth_pushFrame t rt m x.site

theorem frames_drop (x : Footing π α) (g : FrameGuard) : (x.drop t g).frames t = (x.frames t).take g.depth :=
  stack_dropFrame t g x.site

end Footing

/-! ### Every frame has its guard -/

/-- The record and the footing are in accord. -/
structure Footing.Sound (t : ThreadId) (past : List Deed) (x : Footing π α) : Prop where
  guards : x.guards = handed past
  length : x.owners.length = (x.frames t).length
  /-- A frame stands where its guard says. -/
  place : ∀ i k, x.owners[i]? = some k →
    ∃ g : FrameGuard, x.guards[k]? = some g ∧ g.depth = i ∧ (x.frames t)[i]? = some g.operation
  /-- A guard that was dropped has no frame. -/
  live : ∀ k g, .dropped k g ∈ past → k < x.guards.length ∧ k ∉ x.owners
  kept : ∀ k < x.guards.length, k ∈ x.owners ↔ ¬Cut past k

namespace Footing.Sound

variable {past : List Deed} {x : Footing π α}

/-- A cut to some depth spares the frames of the guards that are less deep. -/
theorem mem_take (h : x.Sound t past) {g : FrameGuard} (hg : x.guards[k]? = some g) (depth : Nat) :
    k ∈ x.owners.take depth ↔ k ∈ x.owners ∧ g.depth < depth := by
  have hplace : ∀ i, x.owners[i]? = some k → g.depth = i := by
    intro i hi
    obtain ⟨g', hg', hd, -⟩ := h.place i k hi
    rw [hg] at hg'
    cases hg'
    exact hd
  rw [List.mem_iff_getElem?]
  constructor
  · rintro ⟨i, hi⟩
    rw [List.getElem?_take] at hi
    split at hi
    · rename_i hlt
      exact ⟨List.mem_of_getElem? hi, (hplace i hi).symm ▸ hlt⟩
    · cases hi
  · rintro ⟨hin, hlt⟩
    obtain ⟨i, hi⟩ := List.mem_iff_getElem?.1 hin
    exact ⟨i, by rw [List.getElem?_take, if_pos (hplace i hi ▸ hlt), hi]⟩

theorem begin {s : Site π α} (hs : (s.process.thread t).frames = []) : (Footing.begin s).Sound t [] where
  guards := rfl
  length := (congrArg (fun l : List OperationId => l.reverse.length) hs).symm
  place := nofun
  live := nofun
  kept := nofun

theorem push (h : x.Sound t past) (rt : RuntimeId) (m : MemberRef) :
    (x.push t rt m).Sound t (past ++ [.pushed (x.next t rt m)]) := by
  have hguards : (x.push t rt m).guards = x.guards ++ [x.next t rt m] := rfl
  have howners : (x.push t rt m).owners = x.owners ++ [x.guards.length] := rfl
  refine ⟨?_, ?_, fun i k hi => ?_, fun k g hk => ?_, fun k hk => ?_⟩
  · rw [hguards, handed_append, h.guards]
    rfl
  · rw [howners, frames_push, List.length_append, List.length_append, h.length]
    rfl
  · rw [howners] at hi
    rw [hguards, frames_push]
    obtain hi | ⟨rfl, rfl⟩ := Holding.getElem?_concat hi
    · obtain ⟨g, hg, hd, hop⟩ := h.place i k hi
      refine ⟨g, ?_, hd, ?_⟩
      · rw [List.getElem?_append_left (List.getElem?_eq_some_iff.1 hg).1, hg]
      · rw [List.getElem?_append_left (List.getElem?_eq_some_iff.1 hop).1, hop]
    · refine ⟨x.next t rt m, List.getElem?_concat_length, ?_, ?_⟩
      · rw [depth_next, h.length]
      · rw [h.length, List.getElem?_concat_length]
  · obtain hk | hk := List.mem_append.1 hk
    · obtain ⟨hlt, hno⟩ := h.live k g hk
      rw [hguards, howners, List.length_append, List.mem_append, List.mem_singleton]
      exact ⟨by omega, fun hin => hin.elim hno (by omega)⟩
    · cases List.mem_singleton.1 hk
  · rw [hguards, List.length_append, List.length_singleton] at hk
    rw [howners, List.mem_append, List.mem_singleton]
    by_cases hnew : k = x.guards.length
    · rw [hnew, h.guards]
      exact iff_of_true (.inr rfl) (not_cut_new past _)
    · obtain ⟨g, hg⟩ : ∃ g, x.guards[k]? = some g := ⟨_, List.getElem?_eq_getElem (by omega)⟩
      rw [cut_append (h.guards ▸ hg), h.kept k (by omega)]
      simp [Deed.Cuts, hnew]

theorem drop (h : x.Sound t past) {j : Nat} {g : FrameGuard} (hg : x.guards[j]? = some g) :
    (x.drop t g).Sound t (past ++ [.dropped j g]) := by
  have howners : (x.drop t g).owners = x.owners.take g.depth := rfl
  refine ⟨?_, ?_, fun i k hi => ?_, fun k g' hk => ?_, fun k hk => ?_⟩
  · rw [handed_append, ← h.guards]
    exact (List.append_nil _).symm
  · rw [howners, frames_drop, List.length_take, List.length_take, h.length]
  · rw [howners, List.getElem?_take] at hi
    rw [frames_drop, List.getElem?_take]
    split at hi
    · rename_i hlt
      rw [if_pos hlt]
      exact h.place i k hi
    · cases hi
  · rw [howners]
    obtain hk | hk := List.mem_append.1 hk
    · obtain ⟨hlt, hno⟩ := h.live k g' hk
      exact ⟨hlt, fun hin => hno (List.mem_of_mem_take hin)⟩
    · cases List.mem_singleton.1 hk
      refine ⟨(List.getElem?_eq_some_iff.1 hg).1, fun hin => ?_⟩
      exact absurd ((h.mem_take hg _).1 hin).2 (Nat.lt_irrefl _)
  · obtain ⟨g', hg'⟩ : ∃ g, x.guards[k]? = some g := ⟨_, List.getElem?_eq_getElem hk⟩
    rw [howners, h.mem_take hg', cut_append (h.guards ▸ hg'), h.kept k hk]
    simp [Deed.Cuts]

theorem aside (h : x.Sound t past) {s : Site π α}
    (hs : (s.process.thread t).frames = (x.site.process.thread t).frames) : Footing.Sound t past { x with site := s } := by
  have hframes : Footing.frames t { x with site := s } = x.frames t := stack_of_frames hs
  refine ⟨h.guards, ?_, ?_, h.live, h.kept⟩
  · rw [hframes]
    exact h.length
  · rw [hframes]
    exact h.place

end Footing.Sound

namespace Walk

variable {past since : List Deed} {x y : Footing π α}

/-- A walk keeps the record and the footing in accord. -/
theorem sound (h : Walk t x since y) (hx : x.Sound t past) : y.Sound t (past ++ since) := by
  induction h with
  | start => rwa [List.append_nil]
  | push rt m _ ih => rw [← List.append_assoc]; exact ih.push rt m
  | drop _ hg ih => rw [← List.append_assoc]; exact ih.drop hg
  | aside _ _ hs ih => exact ih.aside hs

theorem trans {z : Footing π α} {since' : List Deed} (h : Walk t x since y) (h' : Walk t y since' z) :
    Walk t x (since ++ since') z := by
  induction h' with
  | start => rwa [List.append_nil]
  | push rt m _ ih => rw [← List.append_assoc]; exact ih.push rt m
  | drop _ hg ih => rw [← List.append_assoc]; exact ih.drop hg
  | aside s _ hs ih => exact ih.aside s hs

/-- The guards are those there were, and those handed out meanwhile. -/
theorem guards (h : Walk t x since y) : y.guards = x.guards ++ handed since := by
  induction h with
  | start => exact (List.append_nil _).symm
  | push rt m _ ih =>
    rw [handed_append, ← List.append_assoc, ← ih]
    rfl
  | drop _ _ ih =>
    rw [handed_append, ← List.append_assoc, ← ih]
    exact (List.append_nil _).symm
  | aside _ _ _ ih => exact ih

/-- A guard keeps its number. -/
theorem guard (h : Walk t x since y) {g : FrameGuard} (hg : x.guards[k]? = some g) : y.guards[k]? = some g := by
  rw [h.guards, List.getElem?_append_left (List.getElem?_eq_some_iff.1 hg).1, hg]

/-! ### A frame and all above it -/

/-- As long as neither the guard of a frame nor an older one is dropped, the frame and those
    beneath it stay, and all guards that are newer are deeper. -/
theorem above (h : Walk t (x.push t rt m) since y) (hnewer : ∀ j g, .dropped j g ∈ since → x.guards.length < j) :
    (x.push t rt m).frames t <+: y.frames t ∧
      ∃ newer, y.guards = (x.push t rt m).guards ++ newer ∧ ∀ g ∈ newer, (x.next t rt m).depth < g.depth := by
  -- A newer guard is deeper than the frame, so to drop it cuts above the frame.
  have hlength : ((x.push t rt m).frames t).length = (x.next t rt m).depth + 1 := by
    rw [Footing.frames_push, Footing.depth_next, List.length_append, List.length_singleton]
  induction h with
  | start => exact ⟨List.prefix_refl _, [], (List.append_nil _).symm, nofun⟩
  | @push since y rt' m' _ ih =>
    obtain ⟨hbelow, newer, hguards, hdeeper⟩ := ih fun j g hj => hnewer j g (List.mem_append_left _ hj)
    have hdeep : (x.next t rt m).depth < (y.next t rt' m').depth := by
      have := hbelow.length_le
      rw [Footing.depth_next y]
      omega
    refine ⟨?_, newer ++ [y.next t rt' m'], ?_, fun g hg => ?_⟩
    · rw [Footing.frames_push y]
      exact hbelow.trans (List.prefix_append _ _)
    · rw [← List.append_assoc, ← hguards]
      rfl
    · obtain hg | hg := List.mem_append.1 hg
      · exact hdeeper g hg
      · rw [List.mem_singleton.1 hg]
        exact hdeep
  | @drop since y j g _ hg ih =>
    obtain ⟨hbelow, newer, hguards, hdeeper⟩ := ih fun j g hj => hnewer j g (List.mem_append_left _ hj)
    have hj : x.guards.length < j := hnewer j g (List.mem_append_right _ (List.mem_singleton.2 rfl))
    have hin : g ∈ newer := by
      rw [hguards, List.getElem?_append_right] at hg
      · exact List.mem_of_getElem? hg
      · show (x.guards ++ [_]).length ≤ j
        rw [List.length_append, List.length_singleton]
        exact hj
    refine ⟨?_, newer, hguards, hdeeper⟩
    rw [Footing.frames_drop]
    exact List.prefix_take_iff.2 ⟨hbelow, hlength ▸ hdeeper g hin⟩
  | @aside since y s _ hs ih =>
    have hsame : Footing.frames t { y with site := s } = y.frames t := stack_of_frames hs
    rw [hsame]
    exact ih hnewer

/-- A guard that is dropped before any older one restores the stack. -/
theorem drop_frames (h : Walk t (x.push t rt m) since y)
    (hnewer : ∀ j g, .dropped j g ∈ since → x.guards.length < j) :
    (y.drop t (x.next t rt m)).frames t = x.frames t := by
  obtain ⟨⟨above, hframes⟩, -⟩ := h.above hnewer
  rw [Footing.frames_drop, ← hframes, Footing.frames_push, Footing.depth_next, List.append_assoc, List.take_left]

/-! ### Walks read off their records -/

/-- Where nothing is on record, the frames were left alone. -/
theorem idle (h : Walk t x [] y) : y.frames t = x.frames t := by
  generalize hnone : ([] : List Deed) = deeds at h
  induction h with
  | start => rfl
  | push rt m _ _ => exact absurd hnone.symm (List.append_ne_nil_of_right_ne_nil _ nofun)
  | drop _ _ _ => exact absurd hnone.symm (List.append_ne_nil_of_right_ne_nil _ nofun)
  | aside s _ hs ih => exact (stack_of_frames hs).trans (ih hnone)

/-- Where the first thing on record is a push, a frame was pushed from the same stack. -/
theorem of_pushed {z : Footing π α} {g : FrameGuard} {rest : List Deed} (h : Walk t x (.pushed g :: rest) z) :
    ∃ (y : Footing π α) (rt : RuntimeId) (m : MemberRef), y.frames t = x.frames t ∧ y.guards = x.guards ∧
      y.next t rt m = g ∧ Walk t (y.push t rt m) rest z := by
  generalize hfirst : Deed.pushed g :: rest = deeds at h
  induction h generalizing rest with
  | start => cases hfirst
  | @push since y rt m hy ih =>
    cases since with
    | nil =>
      cases hfirst
      exact ⟨y, rt, m, hy.idle, hy.guards.trans (List.append_nil _), rfl, .start⟩
    | cons d since =>
      cases hfirst
      obtain ⟨y', rt', m', hframes, hguards, hg, hrest⟩ := ih rfl
      exact ⟨y', rt', m', hframes, hguards, hg, hrest.push rt m⟩
  | @drop since y j g' _ hg' ih =>
    cases since with
    | nil => cases hfirst
    | cons d since =>
      cases hfirst
      obtain ⟨y', rt', m', hframes, hguards, hg, hrest⟩ := ih rfl
      exact ⟨y', rt', m', hframes, hguards, hg, hrest.drop hg'⟩
  | aside s _ hs ih =>
    obtain ⟨y', rt', m', hframes, hguards, hg, hrest⟩ := ih hfirst
    exact ⟨y', rt', m', hframes, hguards, hg, hrest.aside s hs⟩

/-- Where the last thing on record is a drop, the stack is what that drop left. -/
theorem of_dropped {z : Footing π α} {g : FrameGuard} (h : Walk t x (since ++ [.dropped k g]) z) :
    ∃ y, Walk t x since y ∧ y.guards[k]? = some g ∧ z.frames t = (y.drop t g).frames t := by
  generalize hlast : since ++ [Deed.dropped k g] = deeds at h
  induction h with
  | start => exact absurd hlast (List.append_ne_nil_of_right_ne_nil _ nofun)
  | push rt m _ _ => cases (List.append_singleton_inj.1 hlast).2
  | @drop before y j g' hy hg' _ =>
    obtain ⟨rfl, hdeed⟩ := List.append_singleton_inj.1 hlast
    cases hdeed
    exact ⟨y, hy, hg', rfl⟩
  | aside s _ hs ih =>
    obtain ⟨y', hy, hg', hframes⟩ := ih hlast
    exact ⟨y', hy, hg', (stack_of_frames hs).trans hframes⟩

/-- A walk that starts with a push and ends with the drop of that guard, with no drop of an
    older one between, leaves the stack as it was. -/
theorem restores {z : Footing π α} {g g' : FrameGuard}
    (h : Walk t x (.pushed g :: (since ++ [.dropped x.guards.length g'])) z)
    (hnewer : ∀ j g, .dropped j g ∈ since → x.guards.length < j) : z.frames t = x.frames t := by
  obtain ⟨x₀, rt, m, hframes, hguards, -, hrest⟩ := h.of_pushed
  obtain ⟨y, hy, hg', hdropped⟩ := hrest.of_dropped
  have hown : y.guards[x.guards.length]? = some (x₀.next t rt m) := by
    rw [← hguards]
    exact hy.guard List.getElem?_concat_length
  obtain rfl : x₀.next t rt m = g' := Option.some.inj (hown.symm.trans hg')
  rw [hdropped, hy.drop_frames (hguards ▸ hnewer), hframes]

end Walk

end StallGuard
