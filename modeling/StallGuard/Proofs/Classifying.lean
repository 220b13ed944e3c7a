/-
  StallGuard.Proofs.Classifying — a thread is classified once.

  The histories are those of Keeping: queries and forgets of any threads, with the host
  changing as it likes in between. Here every query is written down with all that shows of
  it: what the host was asked, the answer, the counters before and after, and the verdict
  kept then (`Query`).
  - `period`: the queries of a thread since it was last forgotten. A period that has ended
    is the period of the history up to the forget that ended it.
  - `Classified`: how the queries of a period can go. Some may be refused; the first that is
    not is told the thread's info and settles the verdict; the rest are answered from it.

  Proved, for every host:
  - `classified_once`: unless an info fetched in it is volatile, every period goes this way,
    its queries count one thread classified, or none if all were refused, and what is done
    about other threads makes no difference to the answer.
-/

import StallGuard.Proofs.Keeping
import StallGuard.Stage

namespace StallGuard

open Act Monitor

variable {σ : Type}

/-! ## Queries written down -/

def Exchange.info? : Exchange → Option ThreadInfo
  | threadInfo _ (.ok i) => some i
  | _ => none

structure Query where
  thread : ThreadId
  asked : List Exchange
  answer : Bool
  before : Counters
  after : Counters
  /-- The verdict on the thread that is kept after the query. -/
  kept : Option Bool

inductive Incident
  | queried (q : Query)
  | forgot (t : ThreadId)

namespace Incident

def isForgot (t : ThreadId) : Incident → Bool
  | forgot t' => t' = t
  | queried _ => false

def query? : Incident → Option Query
  | queried q => some q
  | forgot _ => none

/-- The query, if it is one of `t`. -/
def queryOf? (t : ThreadId) : Incident → Option Query
  | queried q => if q.thread = t then some q else none
  | forgot _ => none

end Incident

/-- A query of `t` that found the monitor as `m` and left it as `m'`. -/
def Query.between (t : ThreadId) (m : Monitor) (log : List Exchange) (b : Bool) (m' : Monitor) : Query :=
  ⟨t, log, b, m.counters, m'.counters, m'.register.verdicts.get? t⟩

/-- The query of `t` in this scene. -/
def Query.made (h : Host σ) (t : ThreadId) (x : Scene Monitor σ) : Query :=
  .between t x.own ((isRestricted h.logged t).asks x) (isRestricted h t x).1 (isRestricted h t x).2.own

def Occasion.incidents (h : Host σ) (x : Scene Monitor σ) : Occasion σ → List Incident
  | query t => [.queried (.made h t x)]
  | forget t => [.forgot t]
  | change _ => []

/-- All that happens in a history, in order. -/
def transcript (h : Host σ) : List (Occasion σ) → Scene Monitor σ → List Incident
  | [], _ => []
  | o :: os, x => o.incidents h x ++ transcript h os (o.play h x).2

/-- The queries of `t` since it was last forgotten. -/
def period (t : ThreadId) (past : List Incident) : List Query :=
  (past.rtakeWhile fun i => !i.isForgot t).filterMap (Incident.queryOf? t)

section

variable (t : ThreadId) (past : List Incident)

theorem period_forgot (t' : ThreadId) :
    period t (past ++ [.forgot t']) = if t' = t then [] else period t past := by
  unfold period
  by_cases h : t' = t
  · rw [if_pos h, List.rtakeWhile_concat_neg _ _ _ (by simp [Incident.isForgot, h])]
    rfl
  · rw [if_neg h, List.rtakeWhile_concat_pos _ _ _ (by simp [Incident.isForgot, h])]
    simp [Incident.queryOf?]

theorem period_queried (q : Query) :
    period t (past ++ [.queried q]) = period t past ++ if q.thread = t then [q] else [] := by
  unfold period
  rw [List.rtakeWhile_concat_pos _ _ _ (by simp [Incident.isForgot]), List.filterMap_append]
  by_cases h : q.thread = t <;> simp [Incident.queryOf?, h]

end

/-! ## How a period goes -/

namespace Query

/-- The host refused the info; that counts as no and as a fault, and nothing is kept. -/
def Refused (t : ThreadId) (q : Query) : Prop :=
  ∃ f, q.asked = [.threadInfo t (.error f)] ∧ q.answer = false ∧ q.after = q.before.mark (.fault f) ∧ q.kept = none

/-- The host told the info; the predicate's answer is given, counted and kept. -/
def Told (r : ThreadRegister) (t : ThreadId) (i : ThreadInfo) (q : Query) : Prop :=
  q.asked = [.threadInfo t (.ok i)] ∧ q.answer = r.restricts i ∧
    q.after = q.before.mark (.classified (r.restricts i)) ∧ q.kept = some (r.restricts i)

/-- The verdict kept is the answer; nothing is asked or counted. -/
def Recalled (b : Bool) (q : Query) : Prop := q.asked = [] ∧ q.answer = b ∧ q.after = q.before ∧ q.kept = some b

/-- None of the infos fetched is volatile. -/
def Steady (r : ThreadRegister) (q : Query) : Prop := ∀ i ∈ q.asked.filterMap Exchange.info?, r.isVolatile i = false

instance (r : ThreadRegister) (q : Query) : Decidable (q.Steady r) :=
  inferInstanceAs (Decidable (∀ i ∈ q.asked.filterMap Exchange.info?, r.isVolatile i = false))

/-- How much these queries add to the counter `c`. -/
def total (c : Counters → Nat) : List Query → Nat
  | [] => 0
  | q :: qs => c q.after - c q.before + total c qs

theorem total_append (c : Counters → Nat) (qs qs' : List Query) : total c (qs ++ qs') = total c qs + total c qs' := by
  induction qs with
  | nil => simp [total]
  | cons q qs ih => simp [total, ih, Nat.add_assoc]

theorem total_of_same {c : Counters → Nat} {qs : List Query} (h : ∀ q ∈ qs, c q.after = c q.before) :
    total c qs = 0 := by
  induction qs with
  | nil => rfl
  | cons q qs ih =>
    obtain ⟨hq, hqs⟩ := List.forall_mem_cons.1 h
    simp [total, hq, ih hqs]

end Query

/-- These are the queries of `t` in one period, and this is the verdict kept then. -/
inductive Classified (r : ThreadRegister) (t : ThreadId) : List Query → Option Bool → Prop
  | refused {qs : List Query} : (∀ q ∈ qs, q.Refused t) → Classified r t qs none
  | told {qs rest : List Query} {q : Query} {i : ThreadInfo} : (∀ q ∈ qs, q.Refused t) → q.Told r t i →
      (∀ q ∈ rest, q.Recalled (r.restricts i)) → Classified r t (qs ++ q :: rest) (some (r.restricts i))

/-! ## A query goes on with its period -/

namespace Monitor.Asked

variable {m m' : Monitor} {t : ThreadId} {info : Except Fault ThreadInfo} {b : Bool} {log : List Exchange}
  {r : ThreadRegister}

theorem get?_other (ha : Asked m t info b log m') {t' : ThreadId} (ht : t' ≠ t) :
    m'.register.verdicts.get? t' = m.register.verdicts.get? t' := by
  cases ha with
  | lasting => simp [judged, Table.get?_insert, ht]
  | _ => rfl

theorem classified_le (ha : Asked m t info b log m') : m.counters.classified ≤ m'.counters.classified := by
  cases ha with
  | lasting => simp [judged, Counters.mark]
  | _ => exact Nat.le_refl _

theorem recalled (ha : Asked m t info b log m') {c : Bool} (hkept : m.register.verdicts.get? t = some c) :
    (Query.between t m log b m').Recalled c := by
  cases ha with
  | kept hb => simp_all [Query.between, Query.Recalled]
  | _ hnone => simp [hnone] at hkept

theorem refused_or_told (ha : Asked m t info b log m') (hr : m.register.restricts = r.restricts)
    (hv : m.register.volatile = r.volatile) (hnone : m.register.verdicts.get? t = none)
    (hsteady : (Query.between t m log b m').Steady r) :
    (Query.between t m log b m').Refused t ∨ ∃ i, (Query.between t m log b m').Told r t i := by
  cases ha with
  | kept hb => simp [hnone] at hb
  | refused => exact .inl ⟨_, rfl, rfl, rfl, hnone⟩
  | @volatile i _ hi hvol =>
    -- Its info was fetched and is volatile.
    have hnot : r.isVolatile i = false := hsteady i (by simp [Query.between, Exchange.info?])
    simp [ThreadRegister.isVolatile, hv] at hvol hnot
    simp [hnot] at hvol
  | @lasting i _ hi hvol =>
    refine .inr ⟨i, rfl, ?_, ?_, ?_⟩ <;> simp [Query.between, judged, hr, Table.get?_insert]

/-- Unless the thread is volatile the period goes on with the query. -/
theorem classified (ha : Asked m t info b log m') (hr : m.register.restricts = r.restricts)
    (hv : m.register.volatile = r.volatile) {qs : List Query}
    (hc : Classified r t qs (m.register.verdicts.get? t)) (hsteady : (Query.between t m log b m').Steady r) :
    Classified r t (qs ++ [.between t m log b m']) (m'.register.verdicts.get? t) := by
  have hend : m'.register.verdicts.get? t = (Query.between t m log b m').kept := rfl
  rw [hend]
  generalize hkept : m.register.verdicts.get? t = kept at hc
  cases hc with
  | refused hqs =>
    rcases ha.refused_or_told hr hv hkept hsteady with hq | ⟨i, hq⟩
    · obtain ⟨f, hf⟩ := hq
      rw [hf.2.2.2]
      refine .refused fun q hmem => ?_
      rcases List.mem_append.1 hmem with hmem | hmem
      · exact hqs q hmem
      · exact List.mem_singleton.1 hmem ▸ ⟨f, hf⟩
    · rw [hq.2.2.2]
      exact .told hqs hq nofun
  | told hqs htold hrest =>
    have hq := ha.recalled hkept
    rw [hq.2.2.2, List.append_assoc, List.cons_append]
    refine .told hqs htold fun q hmem => ?_
    rcases List.mem_append.1 hmem with hmem | hmem
    · exact hrest q hmem
    · exact List.mem_singleton.1 hmem ▸ hq

end Monitor.Asked

/-! ## Histories -/

/-- The monitor has the predicates of `r`, and what it keeps of any thread is what the
    thread's period came to, if no info fetched in it was volatile. -/
structure Monitor.Classifies (r : ThreadRegister) (past : List Incident) (m : Monitor) : Prop where
  restricts : m.register.restricts = r.restricts
  volatile : m.register.volatile = r.volatile
  periods : ∀ t, (∀ q ∈ period t past, q.Steady r) → Classified r t (period t past) (m.register.verdicts.get? t)

variable {r : ThreadRegister} {past : List Incident}

theorem Occasion.play_classifies (h : Host σ) (o : Occasion σ) {x : Scene Monitor σ} (hx : x.own.Classifies r past) :
    (o.play h x).2.own.Classifies r (past ++ o.incidents h x) := by
  cases o with
  | query t =>
    have ha := (isRestricted_asked h t x).asks.2
    refine ⟨ha.restricts_eq.trans hx.restricts, ha.volatile_eq.trans hx.volatile, fun t' hsteady => ?_⟩
    have hperiod : period t' (past ++ (Occasion.query t).incidents h x) =
        period t' past ++ if t = t' then [.made h t x] else [] := period_queried ..
    rw [hperiod] at hsteady ⊢
    by_cases ht : t = t'
    · subst ht
      simp only [if_true] at hsteady ⊢
      have hpast := hx.periods t fun q hq => hsteady q (List.mem_append_left _ hq)
      exact ha.classified hx.restricts hx.volatile hpast (hsteady (.made h t x) (by simp))
    · simp only [if_neg ht, List.append_nil] at hsteady ⊢
      have hother : (isRestricted h t x).2.own.register.verdicts.get? t' = x.own.register.verdicts.get? t' :=
        ha.get?_other (Ne.symm ht)
      show Classified r t' _ ((isRestricted h t x).2.own.register.verdicts.get? t')
      rw [hother]
      exact hx.periods t' hsteady
  | forget t =>
    refine ⟨hx.restricts, hx.volatile, fun t' hsteady => ?_⟩
    show Classified r t' (period t' (past ++ [.forgot t])) ((x.own.register.verdicts.erase t).get? t')
    have hperiod : period t' (past ++ [.forgot t]) = if t = t' then [] else period t' past := period_forgot ..
    have hsteady' : ∀ q ∈ period t' (past ++ [.forgot t]), q.Steady r := hsteady
    rw [hperiod] at hsteady' ⊢
    by_cases ht : t = t'
    · simp only [Table.get?_erase, if_pos ht, if_pos ht.symm]
      exact .refused fun q hq => absurd hq List.not_mem_nil
    · simp only [if_neg ht] at hsteady'
      simp only [Table.get?_erase, if_neg ht, if_neg (Ne.symm ht)]
      exact hx.periods t' hsteady'
  | change f =>
    show x.own.Classifies r (past ++ [])
    rwa [List.append_nil]

theorem transcript_classifies (h : Host σ) (history : List (Occasion σ)) {x : Scene Monitor σ}
    (hx : x.own.Classifies r past) :
    (Occasion.playAll h history x).2.own.Classifies r (past ++ transcript h history x) := by
  induction history generalizing past x with
  | nil =>
    show x.own.Classifies r (past ++ [])
    rwa [List.append_nil]
  | cons o os ih =>
    have hos := ih (o.play_classifies h hx)
    rw [List.append_assoc] at hos
    exact hos

/-! ### What the queries count -/

section

variable {t : ThreadId} {q : Query}

theorem Query.Refused.counts (hq : q.Refused t) :
    q.after.classified = q.before.classified ∧ q.after.restricted = q.before.restricted := by
  obtain ⟨f, -, -, hafter, -⟩ := hq
  simp [hafter, Counters.mark]

theorem Query.Told.counts {i : ThreadInfo} (hq : q.Told r t i) :
    q.after.classified = q.before.classified + 1 ∧
      q.after.restricted = q.before.restricted + (r.restricts i).toNat := by
  obtain ⟨-, -, hafter, -⟩ := hq
  simp [hafter, Counters.mark]

theorem Query.Recalled.counts {b : Bool} (hq : q.Recalled b) :
    q.after.classified = q.before.classified ∧ q.after.restricted = q.before.restricted := by
  obtain ⟨-, -, hafter, -⟩ := hq
  simp [hafter]

theorem Classified.counts {qs : List Query} {kept : Option Bool} (hc : Classified r t qs kept) :
    Query.total (·.classified) qs = kept.toList.length ∧
      Query.total (·.restricted) qs = (kept.getD false).toNat := by
  cases hc with
  | refused hqs =>
    exact ⟨Query.total_of_same fun q hq => (hqs q hq).counts.1, Query.total_of_same fun q hq => (hqs q hq).counts.2⟩
  | told hqs hq hrest =>
    have hbefore := Query.total_of_same fun q hq => (hqs q hq).counts.1
    have hbefore' := Query.total_of_same fun q hq => (hqs q hq).counts.2
    have hlater := Query.total_of_same fun q hq => (hrest q hq).counts.1
    have hlater' := Query.total_of_same fun q hq => (hrest q hq).counts.2
    simp [Query.total_append, Query.total, hbefore, hbefore', hlater, hlater', hq.counts]

end

/-- Only queries classify. -/
theorem classified_total (h : Host σ) (history : List (Occasion σ)) (x : Scene Monitor σ) :
    (Occasion.playAll h history x).2.own.counters.classified = x.own.counters.classified +
      Query.total (·.classified) ((transcript h history x).filterMap Incident.query?) := by
  induction history generalizing x with
  | nil => rfl
  | cons o os ih =>
    have hlater := ih (o.play h x).2
    have hnow : (o.play h x).2.own.counters.classified = x.own.counters.classified +
        Query.total (·.classified) ((o.incidents h x).filterMap Incident.query?) := by
      cases o with
      | query t =>
        have hle := (isRestricted_asked h t x).asks.2.classified_le
        show (isRestricted h t x).2.own.counters.classified = _
        simp [Occasion.incidents, Incident.query?, Query.total, Query.made, Query.between]
        omega
      | _ => rfl
    show (Occasion.playAll h os (o.play h x).2).2.own.counters.classified = _
    simp only [transcript, List.filterMap_append, Query.total_append]
    omega

/-! ## Other threads -/

def Occasion.thread? : Occasion σ → Option ThreadId
  | query t => some t
  | forget t => some t
  | change _ => none

/-- Two monitors that agree on `t` answer a query of it alike if the host does. -/
theorem Monitor.Asked.agree {m m' n n' : Monitor} {t : ThreadId} {info : Except Fault ThreadInfo} {b c : Bool}
    {log log' : List Exchange} (hm : Asked m t info b log m') (hn : Asked n t info c log' n')
    (hkept : n.register.verdicts.get? t = m.register.verdicts.get? t)
    (hr : n.register.restricts = m.register.restricts) (hv : n.register.volatile = m.register.volatile) :
    c = b ∧ log' = log := by
  cases hm <;> cases hn <;> simp_all [ThreadRegister.isVolatile]

theorem playAll_elsewhere (h : Host σ) {t : ThreadId} {others : List (Occasion σ)}
    (hothers : ∀ o ∈ others, o.thread? ≠ some t) (x : Scene Monitor σ) :
    let m := (Occasion.playAll h others x).2.own.register
    m.verdicts.get? t = x.own.register.verdicts.get? t ∧ m.restricts = x.own.register.restricts ∧
      m.volatile = x.own.register.volatile := by
  induction others generalizing x with
  | nil => exact ⟨rfl, rfl, rfl⟩
  | cons o os ih =>
    obtain ⟨hk, hr, hv⟩ := ih (fun o ho => hothers o (List.mem_cons_of_mem _ ho)) (o.play h x).2
    have hne := hothers o List.mem_cons_self
    cases o with
    | query t' =>
      have ha := (isRestricted_asked h t' x).asks.2
      have ht : t ≠ t' := by
        rintro rfl
        simp [Occasion.thread?] at hne
      exact ⟨hk.trans (ha.get?_other ht), hr.trans ha.restricts_eq, hv.trans ha.volatile_eq⟩
    | forget t' =>
      have ht : t ≠ t' := by
        rintro rfl
        simp [Occasion.thread?] at hne
      have herase : (x.own.register.verdicts.erase t').get? t = x.own.register.verdicts.get? t := by
        simp [Table.get?_erase, ht]
      exact ⟨hk.trans herase, hr, hv⟩
    | change f => exact ⟨hk, hr, hv⟩

/-! ## Classified once -/

/-- After any history, the queries of a thread since it was last forgotten went as
    `Classified` says if no info fetched in them is volatile, and they count the thread as
    classified at most once, as restricted if the verdict is so. What is then done about
    other threads changes nothing for this one, and nothing else counts threads. -/
theorem classified_once (h : Host σ) (restricts : ThreadPredicate) (volatile : Option ThreadPredicate) (w : Window)
    (history : List (Occasion σ)) (s : σ) (ns : List Notice) (t : ThreadId) :
    let r : ThreadRegister := { restricts, volatile }
    let start : Scene Monitor σ := ⟨.ofPredicates restricts volatile w, s, ns⟩
    let log := transcript h history start
    let x := (Occasion.playAll h history start).2
    let kept := x.own.register.verdicts.get? t
    ((∀ q ∈ period t log, q.Steady r) →
      Classified r t (period t log) kept ∧
        Query.total (·.classified) (period t log) = kept.toList.length ∧
        Query.total (·.restricted) (period t log) = (kept.getD false).toNat) ∧
      (∀ others : List (Occasion σ), (∀ o ∈ others, o.thread? ≠ some t) → ∀ now,
        let y := { (Occasion.playAll h others x).2 with host := now }
        (isRestricted h t y).1 = (isRestricted h t { x with host := now }).1 ∧
          (isRestricted h.logged t).asks y = (isRestricted h.logged t).asks { x with host := now }) ∧
      x.own.counters.classified = Query.total (·.classified) (log.filterMap Incident.query?) := by
  intro r start log x kept
  have hstart : start.own.Classifies r [] := ⟨rfl, rfl, fun _ _ => .refused (by simp [period])⟩
  have hx : x.own.Classifies r log := transcript_classifies h history hstart
  refine ⟨fun hsteady => ?_, fun others hothers now => ?_, ?_⟩
  · have hc := hx.periods t hsteady
    exact ⟨hc, hc.counts⟩
  · intro y
    obtain ⟨hkept, hr, hv⟩ := playAll_elsewhere h hothers x
    have hthen := (isRestricted_asked h t { x with host := now }).asks.2
    have hnow := (isRestricted_asked h t y).asks.2
    exact hthen.agree hnow hkept hr hv
  · have htotal := classified_total h history start
    rw [htotal]
    exact Nat.zero_add _

/-- The info of thread 2 is refused, told, and then changed; another thread is forgotten
    meanwhile. -/
theorem classified_once_after_a_refusal :
    let marked : ThreadPredicate := markerPredicate "x"
    let tells (caps : List String) : Occasion Stage := .change fun s =>
      { s with threadFault := none, threads := s.threads.insert ⟨2⟩ ⟨⟨2⟩, none, caps⟩ }
    let history : List (Occasion Stage) := [.query ⟨2⟩, tells ["x"], .query ⟨2⟩, .forget ⟨3⟩, tells [], .query ⟨2⟩]
    let start : Scene Monitor Stage := ⟨.ofPredicates marked (some (markerPredicate "y")) ⟨1, 1, by decide, by decide⟩,
      { threadFault := some (.threadNotAccessible ⟨2⟩) }, []⟩
    let queries := period ⟨2⟩ (transcript Stage.host history start)
    let kept := (Occasion.playAll Stage.host history start).2.own.register.verdicts.get? ⟨2⟩
    (queries.map (·.answer) = [false, true, true] ∧ queries.map (·.asked.length) = [1, 1, 0] ∧ kept = some true) ∧
      Classified { restricts := marked, volatile := some (markerPredicate "y") } ⟨2⟩ queries kept ∧
      Query.total (·.classified) queries = kept.toList.length := by
  intro marked tells history
  have h := classified_once Stage.host marked (some (markerPredicate "y")) ⟨1, 1, by decide, by decide⟩ history
    { threadFault := some (.threadNotAccessible ⟨2⟩) } [] ⟨2⟩
  exact ⟨by decide +kernel, (h.1 (by decide +kernel)).1, (h.1 (by decide +kernel)).2.1⟩

end StallGuard
