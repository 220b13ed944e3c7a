/-
  StallGuard.Proofs.Holding — the capabilities a thread holds, and those it is due.

  A thread is due every capability it ever declared and one for each guard it has not
  dropped. That is written down beside the site, each capability with the number of its
  guard if it has one, in the order in which they came (`Holding`). A guard remembers only
  how many capabilities there were before its own, and dropping it cuts the list back to
  that many.

  Proved, for any thread and any sequence of turns (declarations, capabilities held,
  guards dropped in any order, anything else in between):
  - `Sound`: what the thread holds is what it is due, perhaps with some missing, and a
    guard's number is the place of its capability.
  - `capabilities_exact_iff`: nothing is ever missing exactly if every guard dropped is the
    last of what is due at that time, so that nothing was declared, and no other guard still
    live was acquired, after it.
  - `drop_withdraws_others`: a guard dropped out of turn takes along what came after it.
-/

import StallGuard.Proofs.Calm

namespace StallGuard

open Site

variable {π α : Type} {t : ThreadId}

/-- What can happen on a site as far as the capabilities of `t` go. -/
inductive Turn (π α : Type) (t : ThreadId)
  | declare (rt : RuntimeId) (capabilities : List String)
  | hold (capability : String)
  /-- The guard that was acquired as number `k` is dropped, if it has not been. -/
  | drop (k : Nat)
  /-- Anything that leaves them alone. -/
  | meanwhile (f : Site π α → Site π α)
      (aside : ∀ s, ((f s).process.thread t).capabilities = (s.process.thread t).capabilities)

/-- A site, the guards acquired on it in order, and what is due, with the number of its
    guard if it has one. -/
structure Holding (π α : Type) where
  site : Site π α
  guards : List CapabilityGuard := []
  due : List (Option Nat × String)

namespace Holding

def begin (t : ThreadId) (s : Site π α) : Holding π α :=
  { site := s, due := (s.process.thread t).capabilities.map (none, ·) }

/-- What the thread does hold. -/
def held (t : ThreadId) (x : Holding π α) : List String := (x.site.process.thread t).capabilities

/-- The guard has not been dropped. -/
def Live (x : Holding π α) (k : Nat) : Prop := some k ∈ x.due.map Prod.fst

instance (x : Holding π α) (k : Nat) : Decidable (x.Live k) := inferInstanceAs (Decidable (_ ∈ _))

/-- The thread holds what it is due. -/
def Exact (t : ThreadId) (x : Holding π α) : Prop := (x.held t).Perm (x.due.map Prod.snd)

end Holding

namespace Turn

def play : Turn π α t → Holding π α → Holding π α
  | declare rt cs, x => { x with site := (Site.declare t rt cs x.site).2, due := x.due ++ cs.map (none, ·) }
  | hold c, x =>
    let r := inProcess (·.holdCapability t c) x.site
    { site := r.2, guards := x.guards ++ [r.1], due := x.due ++ [(some x.guards.length, c)] }
  | drop k, x => match x.guards[k]? with
    | some g =>
      if x.Live k then
        { x with
          site := (changeProcess (·.dropCapability t g) x.site).2
          due := x.due.filter fun e => e.1 ≠ some k }
      else x
    | none => x
  | meanwhile f _, x => { x with site := f x.site }

/-- A guard that is dropped is the last of what is due. -/
def InOrder : Turn π α t → Holding π α → Prop
  | drop k, x => x.Live k → x.due.getLast?.map Prod.fst = some (some k)
  | _, _ => True

/-- `P` holds at the beginning and after each turn. -/
def Always (P : Holding π α → Prop) (x : Holding π α) : List (Turn π α t) → Prop
  | [] => P x
  | u :: us => P x ∧ Always P (u.play x) us

/-- Each turn is in order when it comes. -/
def AllInOrder (x : Holding π α) : List (Turn π α t) → Prop
  | [] => True
  | u :: us => u.InOrder x ∧ AllInOrder (u.play x) us

end Turn

/-! ## What is held is due -/

/-- The entries of `es` are held in this order; they are due, and each guard's capability
    stands where the guard says. -/
structure Holding.Tells (t : ThreadId) (x : Holding π α) (es : List (Option Nat × String)) : Prop where
  held : es.map Prod.snd = x.held t
  due : es.Sublist x.due
  place : ∀ i k c, es[i]? = some (some k, c) → x.guards[k]? = some (CapabilityGuard.mk i)

def Holding.Sound (t : ThreadId) (x : Holding π α) : Prop := ∃ es, x.Tells t es

namespace Holding

theorem begin_tells (t : ThreadId) (s : Site π α) : (begin t s).Tells t (begin t s).due := by
  refine ⟨?_, List.Sublist.refl _, fun i k c h => ?_⟩
  · show ((s.process.thread t).capabilities.map (none, ·)).map Prod.snd = (s.process.thread t).capabilities
    rw [List.map_map]
    exact List.map_id _
  · have h' : ((s.process.thread t).capabilities.map fun c : String => ((none, c) : Option Nat × String))[i]? =
      some (some k, c) := h
    rw [List.getElem?_map] at h'
    obtain ⟨_, _, h'⟩ := Option.map_eq_some_iff.1 h'
    cases h'

theorem getElem?_concat {β : Type} {l : List β} {b c : β} {i : Nat} (h : (l ++ [b])[i]? = some c) :
    l[i]? = some c ∨ i = l.length ∧ b = c := by
  rw [List.getElem?_append] at h
  split at h
  · exact .inl h
  · rw [List.getElem?_singleton] at h
    split at h
    · exact .inr ⟨by omega, Option.some.inj h⟩
    · cases h

theorem held_declare (x : Holding π α) (rt : RuntimeId) (cs : List String) :
    ((Turn.declare rt cs : Turn π α t).play x).held t = x.held t ++ cs :=
  congrArg Thread.capabilities (Move.play_thread_self (m := .declare t rt cs) rfl)

theorem held_hold (x : Holding π α) (c : String) :
    ((Turn.hold c : Turn π α t).play x).held t = x.held t ++ [c] :=
  congrArg Thread.capabilities (Move.play_thread_self (m := .hold t c) rfl)

theorem held_cut (s : Site π α) (g : CapabilityGuard) :
    ((changeProcess (·.dropCapability t g) s).2.process.thread t).capabilities =
      ((s.process.thread t).capabilities).take g.length :=
  congrArg Thread.capabilities (Move.play_thread_self (m := .letGo t g) rfl)

/-- Every turn keeps what is held among what is due. -/
theorem Sound.play {x : Holding π α} (hx : x.Sound t) (u : Turn π α t) : (u.play x).Sound t := by
  obtain ⟨es, he⟩ := hx
  cases u with
  | declare rt cs =>
    refine ⟨es ++ cs.map (none, ·), ?_, he.due.append_right _, fun i k c hi => ?_⟩
    · rw [held_declare, List.map_append, he.held, List.map_map]
      exact congrArg (x.held t ++ ·) (List.map_id cs)
    · rw [List.getElem?_append] at hi
      split at hi
      · exact he.place i k c hi
      · rw [List.getElem?_map] at hi
        obtain ⟨_, _, hi⟩ := Option.map_eq_some_iff.1 hi
        cases hi
  | hold c =>
    refine ⟨es ++ [(some x.guards.length, c)], ?_, he.due.append_right _, fun i k c' hi => ?_⟩
    · rw [held_hold, List.map_append, he.held]
      rfl
    · obtain hi | ⟨hlen, hnew⟩ := getElem?_concat hi
      · have hplace := he.place i k c' hi
        exact (List.getElem?_append_left (List.getElem?_eq_some_iff.1 hplace).1).trans hplace
      · cases hnew
        have hnumber : es.length = (x.held t).length := by rw [← he.held, List.length_map]
        rw [hlen, hnumber]
        exact List.getElem?_concat_length
  | drop k =>
    cases hg : x.guards[k]? with
    | none =>
      simp only [Turn.play, hg]
      exact ⟨es, he⟩
    | some g =>
      by_cases hlive : x.Live k
      · simp only [Turn.play, hg, if_pos hlive]
        refine ⟨es.take g.length, ?_, ?_, fun i j c hi => ?_⟩
        · rw [List.map_take, he.held]
          exact (held_cut x.site g).symm
        · -- The entry of guard `k` would stand at the very place that was cut away.
          have hgone : (es.take g.length).filter (fun e => e.1 ≠ some k) = es.take g.length := by
            refine List.filter_eq_self.2 fun ⟨o, c⟩ hin => decide_eq_true ?_
            rintro rfl
            obtain ⟨i, hi⟩ := List.mem_iff_getElem?.1 hin
            rw [List.getElem?_take] at hi
            split at hi
            · rename_i hlt
              have hplace := he.place i k c hi
              rw [hg] at hplace
              cases hplace
              exact absurd hlt (Nat.lt_irrefl i)
            · cases hi
          rw [← hgone]
          exact ((List.take_sublist ..).trans he.due).filter _
        · rw [List.getElem?_take] at hi
          split at hi
          · exact he.place i j c hi
          · cases hi
      · simp only [Turn.play, hg, if_neg hlive]
        exact ⟨es, he⟩
  | meanwhile f aside => exact ⟨es, he.held.trans (aside x.site).symm, he.due, he.place⟩

/-! ## When nothing is missing -/

variable {x : Holding π α}

theorem Sound.sublist (hx : x.Sound t) : (x.held t).Sublist (x.due.map Prod.snd) := by
  obtain ⟨es, he⟩ := hx
  rw [← he.held]
  exact he.due.map Prod.snd

/-- If nothing is missing, all that is due is held in its order. -/
theorem Sound.tells (hx : x.Sound t) (he : x.Exact t) : x.Tells t x.due := by
  obtain ⟨es, hes⟩ := hx
  have hlen : es.length = x.due.length := by
    have := he.length_eq
    rwa [← hes.held, List.length_map, List.length_map] at this
  have hall : es = x.due := hes.due.eq_of_length hlen
  rwa [hall] at hes

theorem Tells.exact (h : x.Tells t x.due) : x.Exact t := by
  unfold Exact
  rw [h.held]

/-- If nothing is missing, the capability of a live guard stands where the guard says, and
    every other one is another's. -/
theorem Tells.split (h : x.Tells t x.due) {k : Nat} (hlive : x.Live k) :
    ∃ before c after, x.due = before ++ (some k, c) :: after ∧
      x.guards[k]? = some (CapabilityGuard.mk before.length) ∧
      x.due.filter (fun e => e.1 ≠ some k) = before ++ after := by
  obtain ⟨⟨_, c⟩, hin, rfl⟩ := List.mem_map.1 hlive
  obtain ⟨before, after, hdue⟩ := List.append_of_mem hin
  have hplace : x.guards[k]? = some (CapabilityGuard.mk before.length) := by
    refine h.place before.length k c ?_
    rw [hdue, List.getElem?_append_right (Nat.le_refl _), Nat.sub_self]
    rfl
  -- Another entry of the same guard would have to stand in the same place.
  have hother : ∀ i e, x.due[i]? = some e → i ≠ before.length → e.1 ≠ some k := by
    rintro i ⟨_, c'⟩ hi hne rfl
    have hsame := h.place i k c' hi
    rw [hplace] at hsame
    cases hsame
    exact hne rfl
  refine ⟨before, c, after, hdue, hplace, ?_⟩
  rw [hdue, List.filter_append, List.filter_cons_of_neg (by simp)]
  congr 1
  · refine List.filter_eq_self.2 fun e he => decide_eq_true ?_
    obtain ⟨i, hi⟩ := List.mem_iff_getElem?.1 he
    have hlt : i < before.length := (List.getElem?_eq_some_iff.1 hi).1
    exact hother i e (by rw [hdue, List.getElem?_append_left hlt, hi]) (Nat.ne_of_lt hlt)
  · refine List.filter_eq_self.2 fun e he => decide_eq_true ?_
    obtain ⟨i, hi⟩ := List.mem_iff_getElem?.1 he
    refine hother (before.length + 1 + i) e ?_ (by omega)
    have hskip : before.length + 1 + i - before.length = i + 1 := by omega
    rw [hdue, List.getElem?_append_right (by omega), hskip, List.getElem?_cons_succ, hi]

/-- While nothing is missing, a guard that is dropped takes its own capability alone exactly
    if it is the last of what is due. -/
theorem exact_drop_iff (hx : x.Sound t) (he : x.Exact t) {k : Nat} (hlive : x.Live k) :
    ((Turn.drop k : Turn π α t).play x).Exact t ↔ x.due.getLast?.map Prod.fst = some (some k) := by
  have htells := hx.tells he
  obtain ⟨before, c, after, hdue, hg, hrest⟩ := htells.split hlive
  have hheld : ((Turn.drop k : Turn π α t).play x).held t = before.map Prod.snd := by
    simp only [Turn.play, hg, if_pos hlive]
    refine (held_cut x.site _).trans ?_
    show (x.held t).take before.length = _
    rw [← htells.held, hdue, List.map_append, ← List.length_map (f := Prod.snd), List.take_left]
  have hleft : ((Turn.drop k : Turn π α t).play x).due = before ++ after := by
    simp only [Turn.play, hg, if_pos hlive]
    exact hrest
  -- The cut leaves what came before, and all of the rest is due but the guard's own.
  unfold Exact
  rw [hheld, hleft, hdue, List.map_append]
  constructor
  · intro hperm
    have hnil : after = [] := by
      have hlength := hperm.length_eq
      simp only [List.length_append, List.length_map] at hlength
      exact List.length_eq_zero_iff.1 (by omega)
    rw [hnil, List.getLast?_append]
    rfl
  · intro hlast
    obtain rfl | ⟨l, e, rfl⟩ := List.eq_nil_or_concat' after
    · rw [List.map_nil, List.append_nil]
    · have hin : e ∈ x.due.filter fun e => e.1 ≠ some k := by rw [hrest]; simp
      rw [← List.cons_append, ← List.append_assoc, List.getLast?_concat] at hlast
      exact absurd (Option.some.inj hlast) (of_decide_eq_true (List.mem_filter.1 hin).2)

theorem exact_play_iff (hx : x.Sound t) (he : x.Exact t) (u : Turn π α t) : (u.play x).Exact t ↔ u.InOrder x := by
  have htells := hx.tells he
  cases u with
  | declare rt cs =>
    refine iff_of_true ?_ trivial
    unfold Exact
    rw [held_declare]
    show List.Perm _ ((x.due ++ cs.map (none, ·)).map Prod.snd)
    rw [List.map_append, htells.held, List.map_map]
    exact List.Perm.of_eq (congrArg _ (List.map_id cs).symm)
  | hold c =>
    refine iff_of_true ?_ trivial
    unfold Exact
    rw [held_hold, ← htells.held]
    show List.Perm _ ((x.due ++ [_]).map Prod.snd)
    rw [List.map_append]
    exact .refl _
  | drop k =>
    by_cases hlive : x.Live k
    · rw [exact_drop_iff hx he hlive]
      exact ⟨fun h _ => h, fun h => h hlive⟩
    · refine iff_of_true ?_ fun h => absurd h hlive
      cases hg : x.guards[k]? with
      | none => simpa only [Turn.play, hg] using he
      | some g => simpa only [Turn.play, hg, if_neg hlive] using he
  | meanwhile f aside =>
    refine iff_of_true ?_ trivial
    show List.Perm (((f x.site).process.thread t).capabilities) _
    rw [aside]
    exact he

end Holding

/-! ## Over any sequence of turns -/

namespace Turn

theorem always_imp {P Q : Holding π α → Prop} (h : ∀ x, P x → Q x) :
    ∀ {x : Holding π α} {us : List (Turn π α t)}, Always P x us → Always Q x us
  | _, [], hp => h _ hp
  | _, _ :: _, hp => ⟨h _ hp.1, always_imp h hp.2⟩

theorem always_sound {x : Holding π α} (hx : x.Sound t) (us : List (Turn π α t)) : Always (Holding.Sound t) x us := by
  induction us generalizing x with
  | nil => exact hx
  | cons u us ih => exact ⟨hx, ih (hx.play u)⟩

theorem always_exact_iff {x : Holding π α} (hx : x.Sound t) (he : x.Exact t) (us : List (Turn π α t)) :
    Always (Holding.Exact t) x us ↔ AllInOrder x us := by
  induction us generalizing x with
  | nil => exact iff_of_true he trivial
  | cons u us ih =>
    have hstep := Holding.exact_play_iff hx he u
    constructor
    · intro h
      have hnext : (u.play x).Exact t := by
        cases us with
        | nil => exact h.2
        | cons => exact h.2.1
      exact ⟨hstep.1 hnext, (ih (hx.play u) hnext).1 h.2⟩
    · intro h
      have hnext := hstep.2 h.1
      exact ⟨he, (ih (hx.play u) hnext).2 h.2⟩

end Turn

/-- From any state on, whatever is declared, held and dropped: a thread never holds more
    than it is due, and it holds all of that at every moment exactly if each guard, when it
    is dropped, is the last of what is due. -/
theorem capabilities_exact_iff (t : ThreadId) (s : Site π α) (us : List (Turn π α t)) :
    Turn.Always (fun x => (x.held t).Sublist (x.due.map Prod.snd)) (Holding.begin t s) us ∧
      (Turn.Always (Holding.Exact t) (Holding.begin t s) us ↔ Turn.AllInOrder (Holding.begin t s) us) := by
  have htells := Holding.begin_tells t s
  have hsound : (Holding.begin t s).Sound t := ⟨_, htells⟩
  exact ⟨Turn.always_imp (fun _ hx => hx.sublist) (Turn.always_sound hsound us),
    Turn.always_exact_iff hsound htells.exact us⟩

/-- The older of two guards is dropped first, after a declaration: the capability of the
    other and the one declared are gone as well. -/
theorem drop_withdraws_others :
    let t : ThreadId := ⟨1⟩
    let us : List (Turn Unit Unit t) := [.hold "A", .hold "B", .declare ⟨"r"⟩ ["C"], .drop 0]
    let x := us.foldl (fun x u => u.play x) (Holding.begin t (bare {} ()))
    x.due = [(some 1, "B"), (none, "C")] ∧ x.held t = [] := by
  decide +kernel

end StallGuard
