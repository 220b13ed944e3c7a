/-
  StallGuard.Proofs.Roster — which engines a runtime tells, and in what order.

  An engine keeps the host that it was built on. It subscribes there once, behind all that
  were built before it, and nobody strikes it off while it is alive. So whatever a runtime
  has to tell, it tells the engines that are alive on it, in the order of their builds.
  - `Move.retains`: a move that builds nothing moves no engine, and adds none to a roster.
  - `Run.rostered`: along runs, rosters are in the order of the builds.
  - `Run.built`: an engine of a site that a run has reached was built in that run.
  - `Run.told`: the engines that are told, exactly.
-/

import StallGuard.Proofs.Lasting

namespace StallGuard

open Engine Site

variable {π α β : Type} {s s₀ s' : Site π α} {t : ThreadId} {rt : RuntimeId} {id : EngineId} {past : List Event}

def Listener.engine? : Listener → Option EngineId
  | engine id => some id
  | recorder _ => none

namespace Site

/-- The host that an engine was built on. -/
def host? (s : Site π α) (id : EngineId) : Option HostId := (s.slots.get? id).map Slot.host

/-- The engines among the listeners of a runtime, in the order of subscription. -/
def roster (s : Site π α) (rt : RuntimeId) : List EngineId :=
  (s.process.runtime rt).listeners.filterMap Listener.engine?

/-- The engines that a runtime tells, in the order in which it does. -/
def told (rt : RuntimeId) (s : Site π α) : List EngineId := (listeners rt s).1.filterMap Listener.engine?

/-- Engines keep their hosts, and rosters lose engines only. -/
structure Retains (s s' : Site π α) : Prop where
  hosts : s'.host? = s.host?
  rosters : ∀ rt, (s'.roster rt).Sublist (s.roster rt)

/-- Engines are told on their own host, and in the order of their builds. -/
structure Rostered (s : Site π α) : Prop where
  housed : ∀ rt, ∀ id ∈ s.roster rt, s.host? id = some (.runtime rt)
  ordered : ∀ rt, (s.roster rt).Pairwise fun j k => j.val < k.val

theorem mem_engines {ls : List Listener} : id ∈ ls.filterMap Listener.engine? ↔ .engine id ∈ ls := by
  refine List.mem_filterMap.trans ⟨?_, fun h => ⟨_, h, rfl⟩⟩
  rintro ⟨l, hl, he⟩
  cases l with
  | engine j => cases he; exact hl
  | recorder j => cases he

/-! ## Plays that move no engine -/

namespace Retains

theorem refl (s : Site π α) : s.Retains s := ⟨rfl, fun _ => List.Sublist.refl _⟩

theorem trans {s'' : Site π α} (h : s.Retains s') (h' : s'.Retains s'') : s.Retains s'' :=
  ⟨h'.hosts.trans h.hosts, fun rt => (h'.rosters rt).trans (h.rosters rt)⟩

theorem of_listeners (hh : s'.host? = s.host?)
    (hl : ∀ rt, (s'.process.runtime rt).listeners = (s.process.runtime rt).listeners) : s.Retains s' := by
  refine ⟨hh, fun rt => ?_⟩
  rw [roster, hl]
  exact List.Sublist.refl _

theorem of_same (hs : s'.slots = s.slots) (hr : s'.process.runtimes = s.process.runtimes) : s.Retains s' := by
  refine .of_listeners (funext fun id => by rw [host?, hs]; rfl) fun rt => ?_
  rw [Process.runtime, hr]
  rfl

theorem of_runtime (s : Site π α) (rt : RuntimeId) (f : Runtime → Runtime)
    (hf : ((f (s.process.runtime rt)).listeners.filterMap Listener.engine?).Sublist (s.roster rt)) :
    s.Retains (changeProcess (·.changeRuntime rt f) s).2 := by
  refine ⟨rfl, fun rt' => ?_⟩
  have hrt : (changeProcess (·.changeRuntime rt f) s).2.process.runtime rt' =
      if rt' = rt then f (s.process.runtime rt) else s.process.runtime rt' :=
    Process.runtime_changeRuntime s.process rt rt' f
  rw [roster, hrt]
  split
  · rename_i e
    rw [e]
    exact hf
  · exact List.Sublist.refl _

theorem rostered (h : s.Retains s') (hs : s.Rostered) : s'.Rostered where
  housed rt id hid := by
    rw [h.hosts]
    exact hs.housed rt id ((h.rosters rt).subset hid)
  ordered rt := (hs.ordered rt).sublist (h.rosters rt)

end Retains

theorem changeSlot_retains (id : EngineId) {f : Slot π → Slot π} (hf : ∀ slot, (f slot).host = slot.host) :
    Keeps s₀.Retains (changeSlot id f : Play π α Unit) := by
  refine fun s hs => hs.trans ⟨funext fun j => ?_, fun _ => List.Sublist.refl _⟩
  show ((s.slots.modify id f).get? j).map Slot.host = (s.slots.get? j).map Slot.host
  rw [Table.get?_modify]
  split
  · rename_i e
    rw [e, Option.map_map]
    exact congrArg (fun g => (s.slots.get? id).map g) (funext hf)
  · rfl

theorem listeners_retains (rt : RuntimeId) : Keeps s₀.Retains (listeners rt : Play π α (List Listener)) :=
  fun s hs => hs.trans (.of_runtime s rt _ (List.filter_sublist.filterMap _))

theorem acting_retains (t : ThreadId) (id : EngineId) (fallback : β) {act : Host World → Act (Engine π) World β}
    (ht : Tame act) : Keeps s₀.Retains (acting t id fallback act) := by
  intro s hs
  cases hf : s.slots.get? id with
  | none => rw [acting_none hf]; exact hs
  | some slot =>
    rw [acting_at hf]
    have hw := ht slot.host t slot.engine s.world
    refine hs.trans (.of_listeners (funext fun j => ?_) hw.listeners)
    by_cases h : j = id
    · rw [h, host?, acted_found, host?, hf]
      rfl
    · rw [host?, acted_other h]
      rfl

theorem tellTypeLoaded_retains (t : ThreadId) (owner : String) (l : Listener) :
    Keeps s₀.Retains (tellTypeLoaded t owner l : Play π α Unit) := by
  intro s hs
  cases l with
  | recorder id => exact hs.trans (.of_same rfl rfl)
  | engine id =>
    rw [tellTypeLoaded_engine]
    split
    · exact acting_retains t id () (resolveType_tame owner) s hs
    · exact hs

theorem tellThreadDeclared_retains (t thread : ThreadId) (l : Listener) :
    Keeps s₀.Retains (tellThreadDeclared t thread l : Play π α Unit) := by
  intro s hs
  cases l with
  | recorder id => exact hs.trans (.of_same rfl rfl)
  | engine id =>
    rw [tellThreadDeclared_engine]
    split
    · exact acting_retains t id () (threadDeclared_tame thread) s hs
    · exact hs

theorem announceType_retains (t : ThreadId) (rt : RuntimeId) (owner : String) :
    Keeps s₀.Retains (announceType t rt owner : Play π α Unit) :=
  Keeps.bind (fun _ hs => hs.trans (.of_same rfl rfl)) fun _ => Keeps.bind (listeners_retains rt) fun _ =>
    Keeps.forM fun l _ => tellTypeLoaded_retains t owner l

theorem announceThread_retains (t : ThreadId) (rt : RuntimeId) :
    Keeps s₀.Retains (announceThread t rt : Play π α Unit) :=
  Keeps.bind (listeners_retains rt) fun _ => Keeps.forM fun l _ => tellThreadDeclared_retains t t l

theorem catalogue_retains (rt : RuntimeId) (m : MemberRef) :
    Keeps s₀.Retains (inProcess (·.catalogue rt m) : Play π α (OperationId × Bool)) := by
  refine fun s hs => hs.trans (.of_listeners rfl fun rt' => ?_)
  show ((s.process.catalogue rt m).2.runtime rt').listeners = _
  rw [Process.runtime_catalogue]
  split <;> rfl

theorem define_retains (t : ThreadId) (rt : RuntimeId) (m : MemberRef) :
    Keeps s₀.Retains (define t rt m : Play π α OperationId) := by
  refine Keeps.bind (catalogue_retains rt m) fun r => Keeps.ite (fun _ => ?_) fun _ => Keeps.pure _
  exact Keeps.bind (announceType_retains t rt m.owner) fun _ => Keeps.pure _

theorem catalogueAll_retains (rt : RuntimeId) (ms : List MemberRef) :
    Keeps s₀.Retains (catalogueAll rt ms : Play π α (List String)) := by
  induction ms with
  | nil => exact Keeps.pure _
  | cons m ms ih => exact Keeps.bind (catalogue_retains rt m) fun _ => Keeps.bind ih fun _ => Keeps.pure _

theorem defineAll_retains (t : ThreadId) (rt : RuntimeId) (ms : List MemberRef) :
    Keeps s₀.Retains (defineAll t rt ms : Play π α Unit) :=
  Keeps.bind (catalogueAll_retains rt ms) fun _ => Keeps.forM fun owner _ => announceType_retains t rt owner

theorem subscribe_recorder_retains (rt : RuntimeId) (id : RecorderId) :
    Keeps s₀.Retains (subscribe (.runtime rt) (.recorder id) : Play π α Unit) := by
  intro s hs
  rw [subscribe_runtime]
  refine hs.trans (Retains.trans (listeners_retains rt s (.refl s)) (.of_runtime _ rt _ ?_))
  have he : ((listeners rt s).2.process.runtime rt).listeners = (listeners rt s).1 :=
    congrArg Runtime.listeners
      (Process.runtime_changeRuntime_self s.process rt fun r => { r with listeners := (listeners rt s).1 })
  rw [roster, he, List.filterMap_append]
  exact (List.append_nil _).symm ▸ List.Sublist.refl _

end Site

/-! ## Moves -/

/-- A move that builds nothing moves no engine. -/
theorem Move.retains (m : Move π α) (hm : ∀ t h plan, m ≠ .build t h plan) : s.Retains (m.play s).2 := by
  cases m with
  | build t h plan => exact absurd rfl (hm t h plan)
  | openRuntime t rt ms =>
    have hopen : s.Retains (changeProcess (·.changeRuntime rt fun _ => {}) s).2 :=
      .of_runtime s rt (fun _ => {}) (List.nil_sublist _)
    exact defineAll_retains t rt ms _ hopen
  | define t rt m => exact define_retains t rt m s (.refl s)
  | defineAll t rt ms => exact defineAll_retains t rt ms s (.refl s)
  | push t rt m => exact (define_retains t rt m s (.refl s)).trans (.of_same rfl rfl)
  | declare t rt cs => exact announceThread_retains t rt _ (Retains.of_same rfl rfl)
  | setBreakpoint rt op =>
    have hb := Process.changeRuntime_breakpoints s.process rt op
    exact .of_listeners rfl hb.listeners
  | prune rt => exact listeners_retains rt s (.refl s)
  | listen rt id => exact subscribe_recorder_retains rt id s (.refl s)
  | disown id => exact changeSlot_retains id (f := fun slot => { slot with owned := false }) (fun _ => rfl) s (.refl s)
  | retain id => exact changeSlot_retains id (f := fun slot => { slot with uses := slot.uses + 1 }) (fun _ => rfl) s (.refl s)
  | release id => exact changeSlot_retains id (f := fun slot => { slot with uses := slot.uses - 1 }) (fun _ => rfl) s (.refl s)
  | use t id u => exact acting_retains t id [] u.tame s (.refl s)
  | _ => exact .of_same rfl rfl

/-! ### Builds -/

theorem host?_gained (slot : Slot π) (id : EngineId) :
    (s.gained slot).host? id = if id = ⟨s.slots.size⟩ then some slot.host else s.host? id := by
  show ((s.slots.insert _ slot).get? id).map Slot.host = _
  rw [Table.get?_insert]
  split <;> rfl

theorem Site.Orderly.lt (ho : s.Orderly) {h : HostId} (hid : s.host? id = some h) : id.val < s.slots.size := by
  obtain ⟨slot, hf, -⟩ := Option.map_eq_some_iff.1 hid
  exact ho.numbered id (by rw [Table.contains, hf]; rfl)

theorem Site.Rostered.gained (hs : s.Rostered) (ho : s.Orderly) (slot : Slot π) : (s.gained slot).Rostered := by
  refine ⟨fun rt id hid => ?_, hs.ordered⟩
  have hhost := hs.housed rt id hid
  have hold : id ≠ ⟨s.slots.size⟩ := by
    rintro rfl
    exact Nat.lt_irrefl _ (ho.lt hhost)
  rw [host?_gained, if_neg hold]
  exact hhost

/-- The latest engine is the last on the roster of its host. -/
theorem Site.Rostered.subscribe (hs : s.Rostered) (h : HostId) (hid : s.host? id = some h)
    (hlast : ∀ rt, ∀ j ∈ s.roster rt, j.val < id.val) : (subscribe h (.engine id) s).2.Rostered := by
  cases h with
  | stage => exact Retains.rostered (s := s) (.of_same rfl rfl) hs
  | runtime rt =>
    have hpruned : s.Retains (listeners rt s).2 := listeners_retains rt s (.refl s)
    have hr : ∀ rt', (Site.subscribe (.runtime rt) (.engine id) s).2.roster rt' =
        if rt' = rt then ((listeners rt s).1.filterMap Listener.engine?) ++ [id]
        else (listeners rt s).2.roster rt' := by
      intro rt'
      have hrt : (Site.subscribe (.runtime rt) (.engine id) s).2.process.runtime rt' = _ :=
        Process.runtime_changeRuntime (listeners rt s).2.process rt rt'
          fun r => { r with listeners := (listeners rt s).1 ++ [.engine id] }
      rw [roster, hrt]
      split
      · exact List.filterMap_append
      · rfl
    have hkept : ((listeners rt s).1.filterMap Listener.engine?).Sublist (s.roster rt) :=
      List.filter_sublist.filterMap _
    refine ⟨fun rt' j hj => ?_, fun rt' => ?_⟩ <;> rw [hr] at *
    · show s.host? j = _
      split at hj
      · rename_i e
        obtain hj | hj := List.mem_append.1 hj
        · exact e ▸ hs.housed rt j (hkept.subset hj)
        · rw [List.mem_singleton.1 hj, e]
          exact hid
      · exact hs.housed rt' j ((hpruned.rosters rt').subset hj)
    · split
      · refine List.pairwise_append.2 ⟨(hs.ordered rt).sublist hkept, List.pairwise_singleton _ _, fun j hj k hk => ?_⟩
        rw [List.mem_singleton.1 hk]
        exact hlast rt j (hkept.subset hj)
      · exact (hs.ordered rt').sublist (hpruned.rosters rt')

theorem build_rostered (ho : s.Orderly) (hs : s.Rostered) (t : ThreadId) (h : HostId) (plan : Plan π) :
    (build t h plan s).2.Rostered := by
  cases hb : plan.build.1 with
  | error f => rw [build_error hb]; exact hs
  | ok e =>
    rw [build_ok hb]
    refine Retains.rostered (acting_retains t _ () start_tame _ (.refl _)) ?_
    refine (hs.gained ho _).subscribe h (by rw [host?_gained, if_pos rfl]) fun rt j hj => ?_
    exact ho.lt (hs.housed rt j hj)

theorem build_host? (t : ThreadId) (h : HostId) (plan : Plan π) (id : EngineId) :
    (build t h plan s).2.host? id =
      if (build t h plan s).1.1 = .ok id then some h else s.host? id := by
  cases hb : plan.build.1 with
  | error f =>
    rw [build_error hb, if_neg nofun]
  | ok e =>
    rw [build_ok hb, (acting_retains t _ () start_tame _ (.refl _)).hosts]
    show (subscribe h _ _).2.host? id = _
    rw [host?, (subscribe_quiet h _ _).slots]
    refine (host?_gained _ id).trans ?_
    simp only [Except.ok.injEq, eq_comm]

/-! ## Runs -/

theorem Run.rostered (h : Run s past s') (ho : s.Orderly) (hs : s.Rostered) : s'.Rostered := by
  induction h with
  | start => exact hs
  | step m hrun _ ih =>
    by_cases hm : ∃ t h plan, m = .build t h plan
    · obtain ⟨t, h, plan, rfl⟩ := hm
      exact build_rostered (hrun.catalogues ho).1 ih t h plan
    · exact (m.retains fun t h plan e => hm ⟨t, h, plan, e⟩).rostered ih

theorem bare_rostered (stage : Stage) (extra : α) : (bare stage extra : Site π α).Rostered :=
  have hempty : ∀ rt, (bare stage extra : Site π α).roster rt = [] := fun _ => rfl
  ⟨fun rt _ hid => (List.not_mem_nil (hempty rt ▸ hid)).elim, fun _ => List.Pairwise.nil⟩

theorem Built.step {plan : Plan π} {since : List Event} (h : Built rt plan id past since s) (m : Move π α)
    (ha : m.Allowed s) : Built rt plan id past (since ++ (m.play s).1) (m.play s).2 := by
  obtain ⟨t, hpast, hb, hsince⟩ := h
  exact .intro t hpast hb (hsince.step m ha)

/-- Whatever engine watches a runtime was built on it in the run. -/
theorem Run.built {stage : Stage} {extra : α} (h : Run (bare stage extra) past s)
    (hid : s.host? id = some (.runtime rt)) : ∃ (plan : Plan π) (before since : _), Built rt plan id before since s := by
  induction h with
  | start => cases hid
  | @step past s m hrun ha ih =>
    by_cases hm : ∃ t h plan, m = .build t h plan
    · obtain ⟨t, h, plan, rfl⟩ := hm
      have hhost : (build t h plan s).2.host? id = some (.runtime rt) := hid
      rw [build_host?] at hhost
      split at hhost
      · rename_i hb
        cases hhost
        exact ⟨plan, past, [], .intro t hrun hb .start⟩
      · obtain ⟨plan', before, since, hbuilt⟩ := ih hhost
        exact ⟨plan', before, _, hbuilt.step _ ha⟩
    · rw [(m.retains fun t h plan e => hm ⟨t, h, plan, e⟩).hosts] at hid
      obtain ⟨plan', before, since, hbuilt⟩ := ih hid
      exact ⟨plan', before, _, hbuilt.step m ha⟩

/-- Along a run, a runtime tells the engines that are alive on it, in the order of their
    builds, and no other engines. -/
theorem Run.told {stage : Stage} {extra : α} (h : Run (bare stage extra) past s) (rt : RuntimeId) :
    (told rt s).Pairwise (fun j k => j.val < k.val) ∧
      ∀ id, id ∈ told rt s ↔ s.host? id = some (.runtime rt) ∧ s.alive id = true := by
  have hs := h.rostered (bare_orderly stage extra) (bare_rostered stage extra)
  refine ⟨(hs.ordered rt).sublist (List.filter_sublist.filterMap _), fun id => ?_⟩
  rw [Site.told, mem_engines, mem_listeners, isDetached, Bool.not_eq_false']
  refine and_congr_left fun ha => ⟨fun hl => hs.housed rt id (mem_engines.2 hl), fun hhost => ?_⟩
  obtain ⟨plan, before, since, hbuilt⟩ := h.built hhost
  obtain ⟨-, slot, hstands⟩ := hbuilt.attends
  exact hstands.listens (by rw [← alive_iff hstands.found]; exact ha)

end StallGuard
