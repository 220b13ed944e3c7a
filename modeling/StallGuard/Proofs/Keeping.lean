/-
  StallGuard.Proofs.Keeping — what a kept verdict does to later queries.

  A thread's info may change between two queries, and with it whether the thread is
  volatile. A history is any sequence of queries and forgets of any threads with the host
  changing as it likes in between; for each query it is remarked what the host would have
  told just then (`Remark`). From the remarks alone is read
  - `settled`: the verdict on the first info, since the thread was last forgotten, that was
    told and was not volatile.

  Proved, for every host:
  - `after_recalls`: after any history the verdicts kept are exactly the settled ones.
  - `volatile_answer`: a query of a thread that is volatile now is answered by the predicate
    on its info now exactly if no verdict that says otherwise was settled before.
  - `settled_answer_outlives_volatility`: a thread that was queried before it became volatile
    is answered as it was then.
-/

import Mathlib.Data.List.DropRight
import StallGuard.Process.Guard
import StallGuard.Proofs.FailOpen

namespace StallGuard

open Act Monitor

variable {σ : Type}

/-! ## Histories -/

/-- What can happen between two queries of a thread. -/
inductive Occasion (σ : Type)
  | query (t : ThreadId)
  | forget (t : ThreadId)
  /-- The host changes by itself. -/
  | change (f : σ → σ)

inductive Remark
  /-- The thread was queried; this is what the host told, or would have told, just then. -/
  | queried (t : ThreadId) (info : Except Fault ThreadInfo)
  | forgot (t : ThreadId)
deriving DecidableEq

def Occasion.play (h : Host σ) : Occasion σ → Act Monitor σ (List Remark)
  | query t => do
    let info ← ask fun s => ((h.threadInfo t s).1, s)
    let _ ← isRestricted h t
    pure [.queried t info]
  | forget t => do
    let _ ← Monitor.forget t
    pure [.forgot t]
  | change f => do
    ask fun s => ((), f s)
    pure []

def Occasion.playAll (h : Host σ) : List (Occasion σ) → Act Monitor σ (List Remark)
  | [] => pure []
  | o :: os => do
    let now ← o.play h
    let later ← playAll h os
    pure (now ++ later)

/-! ## Settled verdicts -/

/-- The verdict on `t` that is settled by a remark. -/
def Remark.verdict? (r : ThreadRegister) (t : ThreadId) : Remark → Option Bool
  | queried asked (.ok i) => if asked = t ∧ r.isVolatile i = false then some (r.restricts i) else none
  | _ => none

/-- What was remarked since `t` was last forgotten. -/
def sinceForgotten (t : ThreadId) (past : List Remark) : List Remark := past.rtakeWhile (· ≠ .forgot t)

/-- The verdict on the first info of `t`, since it was last forgotten, that was told and
    was not volatile. -/
def settled (r : ThreadRegister) (t : ThreadId) (past : List Remark) : Option Bool :=
  (sinceForgotten t past).findSome? (Remark.verdict? r t)

section

variable (r : ThreadRegister) (t : ThreadId) (past : List Remark)

theorem settled_forgot (t' : ThreadId) :
    settled r t (past ++ [.forgot t']) = if t' = t then none else settled r t past := by
  unfold settled sinceForgotten
  by_cases h : t' = t
  · rw [if_pos h, List.rtakeWhile_concat_neg _ _ _ (by simp [h])]
    rfl
  · rw [if_neg h, List.rtakeWhile_concat_pos _ _ _ (by simp [h]), List.findSome?_append]
    exact Option.or_none

theorem settled_queried (t' : ThreadId) (info : Except Fault ThreadInfo) :
    settled r t (past ++ [.queried t' info]) =
      (settled r t past).or (Remark.verdict? r t (.queried t' info)) := by
  unfold settled sinceForgotten
  rw [List.rtakeWhile_concat_pos _ _ _ (by simp), List.findSome?_append, List.findSome?_singleton]

end

/-! ## What is kept -/

namespace Monitor.Asked

variable {m m' : Monitor} {t : ThreadId} {info : Except Fault ThreadInfo} {b : Bool} {log : List Exchange}

theorem restricts_eq (ha : Asked m t info b log m') : m'.register.restricts = m.register.restricts := by
  cases ha <;> rfl

theorem volatile_eq (ha : Asked m t info b log m') : m'.register.volatile = m.register.volatile := by
  cases ha <;> rfl

/-- A query keeps the verdict that it settles, if none was kept before. -/
theorem get?_verdicts (ha : Asked m t info b log m') (t' : ThreadId) :
    m'.register.verdicts.get? t' =
      (m.register.verdicts.get? t').or (Remark.verdict? m.register t' (.queried t info)) := by
  by_cases ht : t = t'
  · subst ht
    cases ha with
    | kept hkept => rw [hkept, Option.some_or]
    | refused hkept hinfo => rw [hinfo]; exact Option.or_none.symm
    | volatile hkept hinfo hvol => rw [hkept, hinfo, Remark.verdict?, hvol, if_neg (by simp)]; rfl
    | lasting hkept hinfo hvol =>
      rw [hkept, hinfo, Remark.verdict?, hvol, if_pos ⟨rfl, rfl⟩, Option.none_or]
      exact (Table.get?_insert _ _ _ _).trans (if_pos rfl)
  · have hother : Remark.verdict? m.register t' (.queried t info) = none := by
      cases info with
      | error f => rfl
      | ok i => exact if_neg fun hc => ht hc.1
    rw [hother, Option.or_none]
    cases ha with
    | lasting => exact (Table.get?_insert _ _ _ _).trans (if_neg (Ne.symm ht))
    | _ => rfl

/-- A kept verdict is the answer; without one the predicate is. -/
theorem answer_eq (ha : Asked m t info b log m') {i : ThreadInfo} (hi : info = .ok i) :
    b = (m.register.verdicts.get? t).getD (m.register.restricts i) := by
  subst hi
  cases ha with
  | kept hkept => rw [hkept]; rfl
  | refused _ hinfo => cases hinfo
  | volatile hkept hinfo => cases hinfo; rw [hkept]; rfl
  | lasting hkept hinfo => cases hinfo; rw [hkept]; rfl

/-- Nothing is kept of a thread that is volatile now. -/
theorem register_eq (ha : Asked m t info b log m') {i : ThreadInfo} (hi : info = .ok i)
    (hvol : m.register.isVolatile i = true) : m'.register = m.register := by
  subst hi
  cases ha with
  | lasting _ hinfo hsteady =>
    cases hinfo
    rw [hvol] at hsteady
    cases hsteady
  | _ => rfl

end Monitor.Asked

/-- The monitor has the predicates of `r`, and keeps exactly the verdicts that are settled. -/
structure Monitor.Recalls (r : ThreadRegister) (past : List Remark) (m : Monitor) : Prop where
  restricts : m.register.restricts = r.restricts
  volatile : m.register.volatile = r.volatile
  verdicts : ∀ t, m.register.verdicts.get? t = settled r t past

variable {r : ThreadRegister} {past : List Remark}

theorem Monitor.Recalls.verdict?_eq {m : Monitor} (hm : m.Recalls r past) (t : ThreadId) (k : Remark) :
    k.verdict? m.register t = k.verdict? r t := by
  unfold Remark.verdict? ThreadRegister.isVolatile
  rw [hm.restricts, hm.volatile]

/-- One occasion keeps and drops as the remark on it says. -/
theorem Occasion.play_recalls (h : Host σ) (o : Occasion σ) {x : Scene Monitor σ} (hx : x.own.Recalls r past) :
    (o.play h x).2.own.Recalls r (past ++ (o.play h x).1) := by
  cases o with
  | query t =>
    obtain ⟨log, -, ha⟩ := isRestricted_asked h t x
    refine ⟨ha.restricts_eq.trans hx.restricts, ha.volatile_eq.trans hx.volatile, fun t' => ?_⟩
    exact (ha.get?_verdicts t').trans (by rw [hx.verdict?_eq, hx.verdicts]; exact (settled_queried ..).symm)
  | forget t =>
    refine ⟨hx.restricts, hx.volatile, fun t' => ?_⟩
    show (x.own.register.verdicts.erase t).get? t' = settled r t' (past ++ [.forgot t])
    rw [Table.get?_erase, hx.verdicts, settled_forgot]
    simp only [eq_comm]
  | change f =>
    show x.own.Recalls r (past ++ [])
    rwa [List.append_nil]

/-- After any history the verdicts kept are exactly the settled ones. -/
theorem Occasion.playAll_recalls (h : Host σ) (past : List Remark) (history : List (Occasion σ)) {x : Scene Monitor σ}
    (hx : x.own.Recalls r past) :
    (playAll h history x).2.own.Recalls r (past ++ (playAll h history x).1) := by
  induction history generalizing past x with
  | nil =>
    show x.own.Recalls r (past ++ [])
    rwa [List.append_nil]
  | cons o os ih =>
    have hos := ih _ (o.play_recalls h hx)
    rw [List.append_assoc] at hos
    exact hos

theorem after_recalls (h : Host σ) (restricts : ThreadPredicate) (volatile : Option ThreadPredicate) (w : Window)
    (history : List (Occasion σ)) (s : σ) (ns : List Notice) :
    (Occasion.playAll h history ⟨.ofPredicates restricts volatile w, s, ns⟩).2.own.Recalls { restricts, volatile }
      (Occasion.playAll h history ⟨.ofPredicates restricts volatile w, s, ns⟩).1 :=
  Occasion.playAll_recalls h [] history ⟨rfl, rfl, fun _ => rfl⟩

/-! ## Queries of volatile threads -/

/-- After any history of queries, forgets and changes of the host, a query of a thread that
    is volatile now keeps nothing, and is answered by the verdict settled before, if there
    is one. So its info as it is now decides exactly if no verdict was settled since the
    thread was last forgotten, or one that says the same. -/
theorem volatile_answer (h : Host σ) (restricts : ThreadPredicate) (volatile : Option ThreadPredicate) (w : Window)
    (history : List (Occasion σ)) (s : σ) (ns : List Notice) (t : ThreadId) (i : ThreadInfo) :
    let r : ThreadRegister := { restricts, volatile }
    let run := Occasion.playAll h history ⟨.ofPredicates restricts volatile w, s, ns⟩
    (h.threadInfo t run.2.host).1 = .ok i → r.isVolatile i = true →
      (isRestricted h t run.2).2.own.register = run.2.own.register ∧
      (isRestricted h t run.2).1 = (settled r t run.1).getD (restricts i) ∧
      ((isRestricted h t run.2).1 = restricts i ↔ ∀ b, settled r t run.1 = some b → b = restricts i) := by
  intro r run hi hvol
  have hm : run.2.own.Recalls r run.1 := after_recalls h restricts volatile w history s ns
  obtain ⟨log, -, ha⟩ := isRestricted_asked h t run.2
  have hvol' : run.2.own.register.isVolatile i = true := by rwa [ThreadRegister.isVolatile, hm.volatile]
  have hanswer : (isRestricted h t run.2).1 = (settled r t run.1).getD (restricts i) := by
    rw [ha.answer_eq hi, hm.verdicts, hm.restricts]
  refine ⟨ha.register_eq hi hvol', hanswer, ?_⟩
  rw [hanswer]
  cases settled r t run.1 with
  | none => simp
  | some b => simp

/-- A thread is queried before it declares the mark that makes it volatile and restricted,
    forgotten, and queried again. -/
theorem volatile_answer_once_forgotten :
    let marked : ThreadPredicate := markerPredicate "x"
    let r : ThreadRegister := { restricts := marked, volatile := some marked }
    let run := Occasion.playAll (Process.host ⟨"r"⟩ ⟨1⟩)
      [.query ⟨1⟩, .change fun p => (p.holdCapability ⟨1⟩ "x").2, .forget ⟨1⟩]
      ⟨.ofPredicates marked (some marked) ⟨1, 1, by decide, by decide⟩, .fresh, []⟩
    settled r ⟨1⟩ run.1 = none ∧ (isRestricted (Process.host ⟨"r"⟩ ⟨1⟩) ⟨1⟩ run.2).1 = true := by
  intro marked r run
  have h := volatile_answer (Process.host ⟨"r"⟩ ⟨1⟩) marked (some marked) ⟨1, 1, by decide, by decide⟩
    [.query ⟨1⟩, .change fun p => (p.holdCapability ⟨1⟩ "x").2, .forget ⟨1⟩] .fresh [] ⟨1⟩ ⟨⟨1⟩, none, ["x"]⟩
    (by decide +kernel) (by decide +kernel)
  have hsettled : settled r ⟨1⟩ run.1 = none := by decide +kernel
  refine ⟨hsettled, h.2.2.2 fun b hb => ?_⟩
  cases hsettled.symm.trans hb

/-- A thread is queried before it declares the mark that makes it volatile and restricted,
    and then again: the kept verdict is the answer. -/
theorem settled_answer_outlives_volatility :
    let marked : ThreadPredicate := markerPredicate "x"
    let run := Occasion.playAll (Process.host ⟨"r"⟩ ⟨1⟩)
      [.query ⟨1⟩, .change fun p => (p.holdCapability ⟨1⟩ "x").2]
      ⟨.ofPredicates marked (some marked) ⟨1, 1, by decide, by decide⟩, .fresh, []⟩
    ∃ i, ((Process.host ⟨"r"⟩ ⟨1⟩).threadInfo ⟨1⟩ run.2.host).1 = .ok i ∧
      run.2.own.register.isVolatile i = true ∧ marked i = true ∧
      (isRestricted (Process.host ⟨"r"⟩ ⟨1⟩) ⟨1⟩ run.2).1 = false :=
  ⟨⟨⟨1⟩, none, ["x"]⟩, by decide +kernel, by decide +kernel, by decide +kernel, by decide +kernel⟩

end StallGuard
