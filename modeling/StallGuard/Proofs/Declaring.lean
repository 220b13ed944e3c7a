/-
  StallGuard.Proofs.Declaring — declarations keep the kept verdicts current.

  An engine keeps the verdict that its predicate gave on a thread when it was classified.
  What a thread declares on a runtime is announced there, and every engine that is alive on
  the runtime drops what it had kept of the thread. A `Life` of a thread is a run in which
  it does nothing until it is started, and from its first move on its name stays and its
  capabilities change by declarations on one runtime only; other threads, engines and
  runtimes do as they like.

  Proved, for any number of runtimes, engines and threads:
  - `kept_declare`: which kept verdicts a declaration drops, and that it touches no other.
  - `declared_verdicts_current`: throughout a life, what an engine on that runtime keeps of
    the thread is what its predicate says of the thread as it is now, so a query is never
    answered from what the thread was before.
-/

import StallGuard.Proofs.Polling

namespace StallGuard

open Site

variable {π α : Type} {s : Site π α} {t t' : ThreadId} {rt : RuntimeId} {id : EngineId} {past : List Event}
  {stage : Stage} {extra : α} {b : Bool}

/-! ## What a declaration drops -/

/-- The verdict on the thread that the engine keeps. -/
def Site.kept (s : Site π α) (id : EngineId) (t : ThreadId) : Option Bool :=
  (s.slots.get? id).bind fun slot => slot.engine.monitor.register.verdicts.get? t

/-- A declaration drops the verdict on the thread from every engine that is alive on the
    runtime, and changes none of another thread or another engine. -/
theorem kept_declare (h : Run (bare stage extra) past s) (t : ThreadId) (rt : RuntimeId) (cs : List String)
    (id : EngineId) (t' : ThreadId) :
    (declare t rt cs s).2.kept id t' =
      if s.host? id = some (.runtime rt) ∧ s.alive id = true ∧ t' = t then none else s.kept id t' := by
  unfold kept
  rw [declare_slots h]
  cases hf : s.slots.get? id with
  | none => simp
  | some slot =>
    simp only [Option.map_some, Option.bind_some, host?, hf, alive_iff hf, Option.some.injEq]
    by_cases hon : slot.host = .runtime rt ∧ slot.alive = true
    · simp [hon, Slot.forgetting, Table.get?_erase]
    · have hoff : ¬(slot.host = .runtime rt ∧ slot.alive = true ∧ t' = t) := fun h => hon ⟨h.1, h.2.1⟩
      simp [hon, hoff]

/-! ## Lives -/

/-- The thread that makes the move. -/
def Move.by? : Move π α → Option ThreadId
  | openRuntime t .. | define t .. | defineAll t .. | push t .. | cut t .. | declare t .. | hold t .. | letGo t ..
  | checking t .. | build t .. | use t .. | give t .. => some t
  | _ => none

/-- What the process says of the thread. -/
def Site.info (s : Site π α) (t : ThreadId) : ThreadInfo := (s.process.thread t).info t

/-- A run as far as `t` goes, which declares capabilities on `rt` only, and where it has come
    to; `false` as long as the thread has done nothing. -/
inductive Life (t : ThreadId) (rt : RuntimeId) (stage : Stage) (extra : α) : Bool → Site π α → Prop
  | start : Life t rt stage extra false (bare stage extra)
  /-- Before the thread does anything; it may be started. -/
  | apart {s : Site π α} (m : Move π α) : Life t rt stage extra false s → m.Allowed s → m.by? ≠ some t →
      Life t rt stage extra false (m.play s).2
  /-- Anything, by this thread or another, that leaves its name and capabilities alone. -/
  | other {b : Bool} {s : Site π α} (m : Move π α) : Life t rt stage extra b s → m.Allowed s →
      (m.play s).2.info t = s.info t → Life t rt stage extra true (m.play s).2
  | declare {b : Bool} {s : Site π α} (cs : List String) : Life t rt stage extra b s →
      Life t rt stage extra true (Site.declare t rt cs s).2

theorem Life.run (h : Life t rt stage extra b s) : ∃ past, Run (bare stage extra) past s := by
  induction h with
  | start => exact ⟨_, .start⟩
  | apart m _ ha _ ih => exact ih.imp' _ fun _ hr => hr.step m ha
  | other m _ ha _ ih => exact ih.imp' _ fun _ hr => hr.step m ha
  | declare cs _ ih => exact ih.imp' _ fun _ hr => hr.step (.declare t rt cs) trivial

/-- Moves that are written out, none of them by the thread. -/
theorem Life.apart_moves {ms : List (Move π α)} (h : Life t rt stage extra false s) (ha : Move.AllAllowed s ms)
    (hby : ∀ m ∈ ms, m.by? ≠ some t) : Life t rt stage extra false (Move.playAll s ms).2 := by
  induction ms generalizing s with
  | nil => exact h
  | cons m ms ih =>
    exact ih (h.apart m ha.1 (hby m List.mem_cons_self)) ha.2 fun m' hm' => hby m' (List.mem_cons_of_mem _ hm')

/-! ## Kept verdicts are current -/

/-- The verdict on the thread, if one is kept, is what the predicate says of it now. -/
def ThreadRegister.Current (i : ThreadInfo) (r : ThreadRegister) : Prop :=
  ∀ b, r.verdicts.get? i.thread = some b → b = r.restricts i

namespace ThreadRegister

theorem current_upheld (i : ThreadInfo) : Upheld (Current i) fun i' => i'.thread = i.thread → i' = i where
  none_kept r hr b hb := by simp [hr] at hb
  forgets r t h b hb := by
    rw [Table.get?_erase] at hb
    split at hb
    · cases hb
    · exact h b hb
  keeps r i' htold _ h b hb := by
    rw [Table.get?_insert] at hb
    split at hb
    · rename_i hself
      rw [htold hself.symm] at hb
      exact (Option.some.inj hb).symm
    · exact h b hb

/-- No verdict is kept of a thread that never asks. -/
theorem absent_upheld (t : ThreadId) : Upheld (fun r => r.verdicts.get? t = none) fun i => i.thread ≠ t where
  none_kept r hr := by simp [hr]
  forgets r t' h := by simp [Table.get?_erase, h]
  keeps r i hne _ h := by simp [Table.get?_insert, hne.symm, h]

theorem Current.finds {r : ThreadRegister} {i : ThreadInfo} (h : r.Current i) : r.finds i = r.restricts i := by
  unfold ThreadRegister.finds
  cases hk : r.verdicts.get? i.thread with
  | none => rfl
  | some b => exact h b hk

end ThreadRegister

namespace Life

/-- As long as the thread has done nothing no engine on a runtime keeps a verdict of it. -/
theorem absent (h : Life t rt stage extra b s) (hb : b = false) : s.Forgotten rt t := by
  induction h with
  | start => exact fun _ _ hf => by cases hf
  | apart m _ ha hby ih =>
    refine m.upholds (ThreadRegister.absent_upheld t) (fun t' j u hm => ?_) ha (ih rfl)
    rintro rfl
    exact hby (hm ▸ rfl)
  | other => cases hb
  | declare => cases hb

theorem current (h : Life t rt stage extra b s) : s.Upholds rt (ThreadRegister.Current (s.info t)) := by
  have hnone {r : ThreadRegister} {i : ThreadInfo} (hr : r.verdicts.get? i.thread = none) : r.Current i := by
    intro b hb
    rw [hr] at hb
    cases hb
  induction h with
  | start => exact fun _ _ hf => by cases hf
  | apart m h ha hby _ => exact ((h.apart m ha hby).absent rfl).imp fun _ hr => hnone hr
  | other m _ ha hsame ih =>
    rw [hsame]
    exact m.upholds (ThreadRegister.current_upheld _) (fun t' _ _ _ => World.Tells.tellsOf (by rfl) t') ha ih
  | declare cs h _ =>
    obtain ⟨past, hrun⟩ := h.run
    exact (declare_forgets hrun t rt cs).imp fun _ hr => hnone hr

end Life

/-- A declaration drops the verdict on the thread from every engine that is alive on the
    runtime and touches no other. So throughout a life, what an engine that is alive on the
    runtime keeps of the thread is what its predicate says of the thread's name and
    capabilities as they are now; that is its answer now, and after any declaration that
    comes next. -/
theorem declared_verdicts_current {stage : Stage} {extra : α} :
    (∀ past (s : Site π α), Run (bare stage extra) past s → ∀ t rt cs id t', (declare t rt cs s).2.kept id t' =
        if s.host? id = some (.runtime rt) ∧ s.alive id = true ∧ t' = t then none else s.kept id t') ∧
      ∀ t rt b (s : Site π α), Life t rt stage extra b s → ∀ id slot, s.slots.get? id = some slot →
        slot.host = .runtime rt → slot.alive = true →
        let restricts := slot.engine.monitor.register.restricts
        let th := s.process.thread t
        (∀ v, s.kept id t = some v → v = restricts ⟨t, th.name, th.capabilities⟩) ∧
          (askRestricted t id s).1 = restricts ⟨t, th.name, th.capabilities⟩ ∧
          ∀ cs, (askRestricted t id (declare t rt cs s).2).1 = restricts ⟨t, th.name, th.capabilities ++ cs⟩ := by
  refine ⟨fun past s h t rt cs id t' => kept_declare h t rt cs id t', ?_⟩
  intro t rt b s h id slot hf hh ha restricts th
  have hcurrent := h.current id slot hf hh ha
  refine ⟨fun v hv => ?_, ?_, fun cs => ?_⟩
  · simp only [kept, hf, Option.bind_some] at hv
    exact hcurrent v hv
  · exact (askRestricted_at hf hh).trans hcurrent.finds
  · obtain ⟨past, hrun⟩ := h.run
    have hf' : (declare t rt cs s).2.slots.get? id = some (slot.forgetting t) := by
      simp [declare_slots hrun, hf, hh, ha]
    have hafter := (h.declare cs).current id _ hf' hh ha
    have hthread : (declare t rt cs s).2.process.thread t = th.declare cs :=
      Move.play_thread_self (m := .declare t rt cs) rfl
    have hask := (askRestricted_at hf' hh).trans hafter.finds
    rw [Site.info, hthread] at hask
    exact hask

/-- A thread is started beside two engines on two runtimes and found free by both. When it
    declares the mark of threads that must not block, only the engine on that runtime drops
    its verdict. -/
theorem declared_verdicts_current_on_one_of_two_runtimes :
    let r : RuntimeId := ⟨"r"⟩
    let t : ThreadId := ⟨firstNumber⟩
    let plan : Plan Unit := { settings := {}, policy := .empty }
    let started : Site Unit Unit := (Move.playAll (bare {} ()) [.openRuntime ⟨1⟩ r [], .openRuntime ⟨1⟩ ⟨"q"⟩ [],
      .build ⟨1⟩ (.runtime r) plan, .build ⟨1⟩ (.runtime ⟨"q"⟩) plan, .newThread (some "worker")]).2
    let asked := (Move.play (.use t ⟨0⟩ (.isRestricted t)) started).2
    let s := (Move.play (.use t ⟨1⟩ (.isRestricted t)) asked).2
    let s' := (declare t r [defaultMarker] s).2
    (s.kept ⟨0⟩ t = some false ∧ s.kept ⟨1⟩ t = some false) ∧
      (s'.kept ⟨0⟩ t = none ∧ s'.kept ⟨1⟩ t = some false) ∧ (askRestricted t ⟨0⟩ s').1 = true := by
  intro r t plan started asked s s'
  have hstarted : Life t r {} () false started := Life.start.apart_moves (by decide +kernel) (by decide +kernel)
  have hasked : Life t r {} () true asked :=
    hstarted.other (.use t ⟨0⟩ (.isRestricted t)) (by decide +kernel) (by decide +kernel)
  have hs : Life t r {} () true s :=
    hasked.other (.use t ⟨1⟩ (.isRestricted t)) (by decide +kernel) (by decide +kernel)
  obtain ⟨past, hrun⟩ := hs.run
  obtain ⟨hdrops, hcurrent⟩ := @declared_verdicts_current Unit Unit {} ()
  -- The engine on the first runtime, and what its predicate says of the thread after the declaration.
  have hhost : s.host? ⟨0⟩ = some (.runtime r) := by decide +kernel
  obtain ⟨slot, hf, hh⟩ := Option.map_eq_some_iff.1 hhost
  have ha : slot.alive = true := (alive_iff hf).symm.trans (by decide +kernel)
  have hsays : (s.slots.get? ⟨0⟩).map (fun slot => slot.engine.monitor.register.restricts
      ⟨t, (s.process.thread t).name, (s.process.thread t).capabilities ++ [defaultMarker]⟩) = some true := by
    decide +kernel
  have hkept : s.kept ⟨0⟩ t = some false ∧ s.kept ⟨1⟩ t = some false := by decide +kernel
  refine ⟨hkept, ⟨?_, ?_⟩, ?_⟩
  · rw [hdrops past s hrun t r, if_pos (by decide +kernel)]
  · rw [hdrops past s hrun t r, if_neg (by decide +kernel)]
    exact hkept.2
  · rw [(hcurrent t r true s hs ⟨0⟩ slot hf hh ha).2.2 [defaultMarker]]
    simpa [hf] using hsays

end StallGuard
