/-
  StallGuard.Proofs.Learning — what engines come to know by a definition, and nothing else.

  When a type is looked at again, an engine may gain hooks and targets, and it counts the
  breakpoints set and the requests refused (`Engine.Learns`). It is the same engine in every
  other respect: what it kept of threads, what it was asked, whom it has to call, and how
  many checks, violations and hits it counted. So of all that goes on while a member is
  defined, with every engine on the runtime told, this is all that comes of it for engines.
  An engine with nothing to break on that it has no target for gains hooks at most
  (`Engine.Rehooked`), and one that is not told learns nothing.
  - `resolveType_learns`, `resolveType_rehooks`: a type looked at again.
  - `define_teaches`, `define_rehooks`, `define_untold`: a member defined.
-/

import StallGuard.Proofs.Acting

namespace StallGuard

open Act Engine Site

variable {σ π α β : Type} {h : Host σ} {m₀ : Monitor} {e₀ : Engine π}

/-- Hooks, targets, faults counted and breakpoints counted may differ. -/
def Monitor.Learns (m m' : Monitor) : Prop :=
  ∃ hooks targets faults breakpointsSet,
    m' = { m with hooks, targets, counters := { m.counters with faults, breakpointsSet } }

/-- Its monitor has learned something, and nothing else happened to the engine. -/
def Engine.Learns (e e' : Engine π) : Prop := ∃ m', e.monitor.Learns m' ∧ e' = { e with monitor := m' }

theorem Monitor.Learns.refl (m : Monitor) : m.Learns m := ⟨_, _, _, _, rfl⟩

theorem Monitor.Learns.trans {m m' m'' : Monitor} (h : m.Learns m') (h' : m'.Learns m'') : m.Learns m'' := by
  obtain ⟨_, _, _, _, rfl⟩ := h
  obtain ⟨hooks, targets, f, b, rfl⟩ := h'
  exact ⟨hooks, targets, f, b, rfl⟩

theorem Engine.Learns.refl (e : Engine π) : e.Learns e := ⟨e.monitor, .refl _, rfl⟩

theorem Engine.Learns.trans {e e' e'' : Engine π} (h : e.Learns e') (h' : e'.Learns e'') : e.Learns e'' := by
  obtain ⟨m', hm, rfl⟩ := h
  obtain ⟨m'', hm', rfl⟩ := h'
  exact ⟨m'', hm.trans hm', rfl⟩

/-! ## Acts -/

namespace Monitor

/-- The act teaches the monitor something, at most. -/
abbrev Teaching (a : Act Monitor σ β) : Prop := ∀ m₀ : Monitor, Keeps (fun x => m₀.Learns x.own) a

theorem mark_fault_teaching (f : Fault) : Teaching (mark (.fault f) : Act Monitor σ Unit) :=
  fun _ _ hx => hx.trans ⟨_, _, _, _, rfl⟩

theorem setHook_teaching (op : OperationId) (k : Hook) : Teaching (setHook op k : Act Monitor σ Unit) :=
  fun _ _ hx => hx.trans ⟨_, _, _, _, rfl⟩

theorem setBreakpoint_teaching (m : Member) : Teaching (setBreakpoint h m) := by
  refine fun m₀ => Keeps.bind (fun _ hx => hx) fun w => ?_
  cases w.targets.get? m.id with
  | some target => exact Keeps.pure _
  | none =>
    refine Keeps.bind (fun _ hx => hx) fun r => ?_
    cases r with
    | error f => exact Keeps.pure _
    | ok u =>
      refine Keeps.bind (fun _ hx => hx.trans ⟨_, _, _, _, rfl⟩) fun _ => ?_
      exact Keeps.bind (fun _ hx => hx.trans ⟨_, _, _, _, rfl⟩) fun _ => Keeps.pure _

end Monitor

namespace Engine

theorem watch_learns {a : Act Monitor σ β} (ha : Monitor.Teaching a) :
    Keeps (fun x => e₀.Learns x.own) (watch a : Act (Engine π) σ β) := fun x hx =>
  hx.trans ⟨_, ha x.own.monitor ⟨x.own.monitor, x.host, x.notices⟩ (.refl _), rfl⟩

theorem placeBreakpoint_learns (m : Member) :
    Keeps (fun x => e₀.Learns x.own) (placeBreakpoint h m : Act (Engine π) σ Unit) := by
  refine Keeps.bind (watch_learns (Monitor.setBreakpoint_teaching m)) fun r => ?_
  match r with
  | .ok true => exact fun _ hx => hx
  | .ok false => exact Keeps.pure _
  | .error f => exact watch_learns (Monitor.mark_fault_teaching f)

theorem adopt_learns (owner : String) (m : Member) :
    Keeps (fun x => e₀.Learns x.own) (adopt h owner m : Act (Engine π) σ Unit) := by
  have hplace : Keeps (fun x => e₀.Learns x.own) (do
      if (← own).policy.isBlocking (owner, m.name) && !m.native then placeBreakpoint h m else pure () :
      Act (Engine π) σ Unit) :=
    Keeps.bind (fun _ hx => hx) fun _ => Keeps.ite (fun _ => placeBreakpoint_learns m) fun _ => Keeps.pure _
  refine Keeps.bind (fun _ hx => hx) fun e => ?_
  cases e.requests.get? (owner, m.name) with
  | none => exact hplace
  | some a => exact Keeps.bind (watch_learns (Monitor.setHook_teaching _ _)) fun _ => hplace

/-- What an engine learns by looking at a type again. -/
theorem resolveType_learns (owner : String) :
    Keeps (fun x => e₀.Learns x.own) (resolveType h owner : Act (Engine π) σ Unit) := by
  refine Keeps.bind (fun _ hx => hx) fun e => Keeps.ite (fun _ => ?_) fun _ => Keeps.pure _
  refine Keeps.bind (fun _ hx => hx) fun r => ?_
  split
  · exact Keeps.forM fun m _ => adopt_learns owner m
  · exact Keeps.pure _
  · exact watch_learns (Monitor.mark_fault_teaching _)

end Engine

/-! ## Sites -/

/-- The engines are those there were, and they have learned something, at most. -/
structure Site.Teaches (s s' : Site π α) : Prop where
  known : ∀ id slot, s.slots.get? id = some slot →
    ∃ e, slot.engine.Learns e ∧ s'.slots.get? id = some { slot with engine := e }
  unknown : ∀ id, s.slots.get? id = none → s'.slots.get? id = none

namespace Site

variable {s s₀ s' s'' : Site π α}

theorem Teaches.of_same (h : s'.slots = s.slots) : s.Teaches s' :=
  ⟨fun _ slot hf => ⟨slot.engine, .refl _, h ▸ hf⟩, fun _ hf => h ▸ hf⟩

theorem Teaches.trans (h : s.Teaches s') (h' : s'.Teaches s'') : s.Teaches s'' := by
  refine ⟨fun id slot hf => ?_, fun id hf => h'.unknown id (h.unknown id hf)⟩
  obtain ⟨e, he, hf'⟩ := h.known id slot hf
  obtain ⟨e', he', hf''⟩ := h'.known id _ hf'
  exact ⟨e', he.trans he', hf''⟩

/-- An engine that is there now was there before. -/
theorem Teaches.before (h : s.Teaches s') {id : EngineId} {slot' : Slot π} (hf : s'.slots.get? id = some slot') :
    ∃ slot e, s.slots.get? id = some slot ∧ slot.engine.Learns e ∧ slot' = { slot with engine := e } := by
  cases hs : s.slots.get? id with
  | none => rw [h.unknown id hs] at hf; cases hf
  | some slot =>
    obtain ⟨e, he, hf'⟩ := h.known id slot hs
    rw [hf] at hf'
    cases hf'
    exact ⟨slot, e, rfl, he, rfl⟩

theorem acting_teaches (t : ThreadId) (id : EngineId) (fallback : β) {act : Host World → Act (Engine π) World β}
    (ha : ∀ h (e : Engine π), Keeps (fun x => e.Learns x.own) (act h)) : Keeps s₀.Teaches (acting t id fallback act) := by
  intro s hs
  cases hf : s.slots.get? id with
  | none => rw [acting_none hf]; exact hs
  | some slot =>
    rw [acting_at hf]
    refine hs.trans ⟨fun j old hj => ?_, fun j hj => ?_⟩
    · by_cases hji : j = id
      · subst hji
        obtain rfl : slot = old := Option.some.inj (hf.symm.trans hj)
        exact ⟨_, ha _ slot.engine ⟨slot.engine, s.world, []⟩ (.refl _), acted_found ..⟩
      · exact ⟨old.engine, .refl _, (acted_other hji _ _ _).trans hj⟩
    · have hji : j ≠ id := by
        rintro rfl
        rw [hf] at hj
        cases hj
      exact (acted_other hji _ _ _).trans hj

theorem tellTypeLoaded_teaches (t : ThreadId) (owner : String) (l : Listener) :
    Keeps s₀.Teaches (tellTypeLoaded t owner l : Play π α Unit) := by
  intro s hs
  cases l with
  | recorder id => exact hs.trans (.of_same rfl)
  | engine id =>
    rw [tellTypeLoaded_engine]
    split
    · exact acting_teaches t id () (fun _ _ => resolveType_learns owner) s hs
    · exact hs

theorem announceType_teaches (t : ThreadId) (rt : RuntimeId) (owner : String) :
    Keeps s₀.Teaches (announceType t rt owner : Play π α Unit) :=
  Keeps.bind (fun _ hs => hs.trans (.of_same rfl)) fun _ => Keeps.bind (fun _ hs => hs.trans (.of_same rfl)) fun _ =>
    Keeps.forM fun l _ => tellTypeLoaded_teaches t owner l

/-- What engines learn by a definition. -/
theorem define_teaches (t : ThreadId) (rt : RuntimeId) (m : MemberRef) (s : Site π α) :
    s.Teaches (define t rt m s).2 := by
  refine Keeps.bind (I := s.Teaches) (fun _ hs => hs.trans (.of_same rfl)) (fun r => Keeps.ite (fun _ => ?_) fun _ =>
    Keeps.pure _) s (.of_same rfl)
  exact Keeps.bind (announceType_teaches t rt m.owner) fun _ => Keeps.pure _

theorem catalogueAll_slots (rt : RuntimeId) (ms : List MemberRef) (s : Site π α) :
    (catalogueAll rt ms s).2.slots = s.slots := by
  induction ms generalizing s with
  | nil => rfl
  | cons m ms ih => exact ih _

theorem defineAll_teaches (t : ThreadId) (rt : RuntimeId) (ms : List MemberRef) (s : Site π α) :
    s.Teaches (defineAll t rt ms s).2 :=
  Keeps.forM (fun owner _ => announceType_teaches t rt owner) _ (.of_same (catalogueAll_slots rt ms s))

end Site

/-! ## Engines that have their targets -/

namespace Engine

/-- Only hooks differ. -/
def Rehooked (e e' : Engine π) : Prop := ∃ hooks, e' = { e with monitor := { e.monitor with hooks } }

/-- Of these members, all that the engine has to break on have a target already. -/
def Placed (e : Engine π) (ms : List Member) : Prop :=
  ∀ m ∈ ms, e.breaksOn m = true → (e.monitor.targets.get? m.id).isSome = true

theorem Rehooked.refl (e : Engine π) : e.Rehooked e := ⟨_, rfl⟩

theorem Rehooked.learns {e e' : Engine π} (h : e.Rehooked e') : e.Learns e' := by
  obtain ⟨hooks, rfl⟩ := h
  exact ⟨_, ⟨hooks, _, _, _, rfl⟩, rfl⟩

theorem hooked_rehooked (owner : String) (m : Member) {e : Engine π} (h : e₀.Rehooked e) :
    e₀.Rehooked (hooked e owner m) := by
  obtain ⟨hooks, rfl⟩ := h
  unfold hooked
  split
  · exact ⟨_, rfl⟩
  · exact ⟨hooks, rfl⟩

variable {ms : List Member} {owner : String}

theorem adopt_rehooks (hp : e₀.Placed ms) {m : Member} (hm : m ∈ ms) (ho : m.owner = owner) :
    Keeps (fun x => e₀.Rehooked x.own) (adopt h owner m : Act (Engine π) σ Unit) := by
  intro x hx
  have hhooked := hooked_rehooked owner m hx
  rw [adopt_at]
  split
  · rename_i hb
    have hbreaks : e₀.breaksOn m = true := by
      obtain ⟨hooks, hown⟩ := hx
      rw [hown, ← ho] at hb
      exact hb
    have htarget : ((hooked x.own owner m).monitor.targets.get? m.id).isSome = true := by
      obtain ⟨hooks, hown⟩ := hhooked
      rw [hown]
      exact hp m hm hbreaks
    obtain ⟨_, -, hsame⟩ | ⟨hnone, -⟩ | ⟨hnone, -⟩ := placeBreakpoint_cases h m { x with own := hooked x.own owner m }
    · rw [hsame]
      exact hhooked
    all_goals
      have hnone : (hooked x.own owner m).monitor.targets.get? m.id = none := hnone
      rw [hnone] at htarget
      cases htarget
  · exact hhooked

theorem resolveType_rehooks {rt : RuntimeId} {t : ThreadId} {x : Scene (Engine π) World}
    (hp : e₀.Placed (watched rt x).members) (hx : e₀.Rehooked x.own) :
    e₀.Rehooked (resolveType (World.host (.runtime rt) t) owner x).2.own := by
  rw [resolveType_at]
  split
  · refine Keeps.forM (I := fun x => e₀.Rehooked x.own) (fun m hm => ?_) x hx
    obtain ⟨hin, ho⟩ := Runtime.mem_membersOf.1 hm
    exact adopt_rehooks hp hin ho
  · exact hx

end Engine

namespace Site

variable {s : Site π α} {t : ThreadId} {rt rt' : RuntimeId} {id : EngineId} {slot : Slot π} {owner : String}

theorem acting_members (t : ThreadId) (id : EngineId) (fallback : β) {act : Host World → Act (Engine π) World β}
    (ht : Tame act) (rt : RuntimeId) :
    ((acting t id fallback act s).2.process.runtime rt).members = (s.process.runtime rt).members :=
  (acting_steady t id fallback ht s (.refl s)).alike.members rt

/-- While a type is announced, an engine that has its targets gains hooks at most. -/
theorem announceType_rehooks (hf : s.slots.get? id = some slot) (hh : slot.host = .runtime rt')
    (hp : slot.engine.Placed (s.process.runtime rt').members) :
    ∃ e, slot.engine.Rehooked e ∧
      (announceType t rt owner s).2.slots.get? id = some { slot with engine := e } := by
  let I : Site π α → Prop := fun s' => (s'.process.runtime rt').members = (s.process.runtime rt').members ∧
    ∃ e, slot.engine.Rehooked e ∧ s'.slots.get? id = some { slot with engine := e }
  have hgive : Keeps I (give t (.typeLoaded owner) : Play π α Unit) := fun _ hs => hs
  have hprune : Keeps I (listeners rt : Play π α (List Listener)) := fun s' hs =>
    ⟨((listeners_quiet rt s').alike.members rt').trans hs.1, hs.2⟩
  have htell : ∀ l, Keeps I (tellTypeLoaded t owner l : Play π α Unit) := by
    rintro l s' ⟨hm, e, he, hf'⟩
    cases l with
    | recorder j => exact ⟨hm, e, he, hf'⟩
    | engine j =>
      rw [tellTypeLoaded_engine]
      split
      · refine ⟨(acting_members t j () (resolveType_tame owner) rt').trans hm, ?_⟩
        by_cases hj : j = id
        · subst hj
          rw [acting_at hf']
          refine ⟨_, ?_, acted_found ..⟩
          rw [show World.host _ t = World.host (.runtime rt') t from congrArg (World.host · t) hh]
          exact resolveType_rehooks (show slot.engine.Placed (s'.process.runtime rt').members by rw [hm]; exact hp) he
        · refine ⟨e, he, ?_⟩
          cases hj' : s'.slots.get? j with
          | none => rw [acting_none hj']; exact hf'
          | some other => rw [acting_at hj']; exact (acted_other (Ne.symm hj) ..).trans hf'
      · exact ⟨hm, e, he, hf'⟩
  exact (Keeps.bind hgive (fun _ => Keeps.bind hprune fun ls => Keeps.forM fun l _ => htell l) s
    ⟨rfl, slot.engine, .refl _, hf⟩).2

/-- An engine that is not told does not act. -/
theorem announceType_untold (h : .engine id ∉ (listeners rt s).1) :
    (announceType t rt owner s).2.slots.get? id = s.slots.get? id := by
  refine Keeps.forM (I := fun s' : Site π α => s'.slots.get? id = s.slots.get? id) (fun l hl s' hs => ?_) _ rfl
  cases l with
  | recorder j => exact hs
  | engine j =>
    have hj : j ≠ id := by
      rintro rfl
      exact h hl
    rw [tellTypeLoaded_engine]
    split
    · cases hj' : s'.slots.get? j with
      | none => rw [acting_none hj']; exact hs
      | some other => rw [acting_at hj']; exact (acted_other (Ne.symm hj) ..).trans hs
    · exact hs

/-- A definition announces the type if it adds the member, and does nothing else. -/
theorem define_at (t : ThreadId) (rt : RuntimeId) (m : MemberRef) (s : Site π α) :
    define t rt m s = ((s.process.catalogue rt m).1.1,
      if (s.process.catalogue rt m).1.2 = true then (announceType t rt m.owner (changeProcess (·.catalogue rt m |>.2) s).2).2
      else (changeProcess (·.catalogue rt m |>.2) s).2) := by
  unfold define
  rw [bind_at]
  show (if (s.process.catalogue rt m).1.2 = true then _ else _ : Play π α OperationId) _ = _
  split <;> rfl

theorem define_rehooks {m : MemberRef} (hf : s.slots.get? id = some slot) (hh : slot.host = .runtime rt')
    (hp : slot.engine.Placed ((s.process.catalogue rt m).2.runtime rt').members) :
    ∃ e, slot.engine.Rehooked e ∧ (define t rt m s).2.slots.get? id = some { slot with engine := e } := by
  rw [define_at]
  dsimp only
  split
  · exact announceType_rehooks (s := (changeProcess (·.catalogue rt m |>.2) s).2) hf hh hp
  · exact ⟨slot.engine, .refl _, hf⟩

theorem define_untold {m : MemberRef} (h : .engine id ∉ (listeners rt s).1) :
    (define t rt m s).2.slots.get? id = s.slots.get? id := by
  rw [define_at]
  dsimp only
  split
  · refine announceType_untold (s := (changeProcess (·.catalogue rt m |>.2) s).2) fun hin => h ?_
    have hlisteners : ((s.process.catalogue rt m).2.runtime rt).listeners = (s.process.runtime rt).listeners := by
      rw [Process.runtime_catalogue]
      split <;> rfl
    obtain ⟨hl, hd⟩ := mem_listeners.1 hin
    exact mem_listeners.2 ⟨hlisteners ▸ hl, hd⟩
  · rfl

end Site

end StallGuard
