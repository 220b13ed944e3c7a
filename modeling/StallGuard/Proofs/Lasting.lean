/-
  StallGuard.Proofs.Lasting — good standing lasts, from the build to the end of every run.

  The record says all that an engine's knowledge hangs on, and every move keeps the two in
  accord:
  - `Minds.use`: what the engine itself is asked to do.
  - `build_attends`: a build leaves the new engine in good standing.
  - `Move.attends`, `Move.catalogues`: one move, whatever it is.
  - `Built.attends`, `Built.catalogues`: so a whole run, by induction over its moves.
-/

import StallGuard.Proofs.Announcing
import StallGuard.Proofs.Binding

namespace StallGuard

open Engine Site

variable {π α : Type} {rt : RuntimeId} {plan : Plan π} {id : EngineId} {past : List Event} {P : Member → Prop}
  {s : Site π α}

/-! ## What an engine is asked to do -/

/-- What a use records is about the engine used. -/
theorem Use.subject (u : Use) (h : Host World) (s : Scene (Engine π) World) :
    ∀ ev ∈ (u.act id h s).1, ev.subject? = some id := by
  cases u with
  | request owner name a => intro ev hev; rw [List.mem_singleton.1 hev]; rfl
  | bind m f =>
    intro ev hev
    obtain ⟨b, -, rfl⟩ := Option.map_eq_some_iff.1 (Option.mem_toList.1 hev)
    rfl
  | hook op k => intro ev hev; rw [List.mem_singleton.1 hev]; rfl
  | reached op =>
    intro ev hev
    have hnil : (Use.act id h (.reached op) s).1 = [] := by
      show ((if _ then _ else _ : Act (Engine π) World (List Event)) s).1 = []
      split <;> rfl
    rw [hnil] at hev
    cases hev
  | _ => intro ev hev; cases hev

theorem Use.tame (u : Use) : Tame fun h => (u.act id h : Act (Engine π) World (List Event)) := by
  refine .of_keeps fun h w hk => ?_
  have haside : Aside fun _ : Engine π => True := aside_true
  cases u with
  | request owner name a =>
    exact Keeps.bind (registerHook_keeps haside (fun _ _ _ => trivial) hk owner name a) fun _ => Keeps.pure _
  | resolve owner => exact Keeps.bind (resolveType_keeps haside hk owner) fun _ => Keeps.pure _
  | isRestricted t =>
    refine Keeps.bind (watch_keeps fun e => ?_) fun _ => Keeps.pure _
    exact Monitor.isRestricted_keeps (indifferent_true.monitor e) hk.toReads t
  | forget t =>
    exact Keeps.bind (watch_keeps fun e => Monitor.forget_keeps (indifferent_true.monitor e) t) fun _ => Keeps.pure _
  | classify t start =>
    refine Keeps.bind (watch_keeps fun e => ?_) fun _ => Keeps.pure _
    exact Monitor.classify_keeps (indifferent_true.monitor e) hk.toReads t start
  | check t op start =>
    refine Keeps.bind (watch_keeps fun e => ?_) fun _ => Keeps.pure _
    exact Monitor.check_keeps (indifferent_true.monitor e) hk.toReads t op start
  | reached op =>
    refine Keeps.bind Act.own_keeps fun e => Keeps.ite (fun _ => ?_) fun _ => Keeps.pure _
    exact Keeps.bind (mark_keeps haside _) fun _ => Keeps.pure _
  | bind m f =>
    exact Keeps.bind (Engine.bindNative_keeps haside (fun _ _ _ => trivial) hk m f) fun _ => Keeps.pure _
  | hook op k => exact Keeps.bind (setHook_keeps haside op k) fun _ => Keeps.pure _

section

variable {t : ThreadId} {x : Scene (Engine π) World} {told : Member → Prop}

namespace Engine

theorem Minds.request (h : Minds plan id past (watched rt x) told x.own) (hd : (watched rt x).Distinct)
    (owner name : String) (a : Bool) :
    Minds plan id (past ++ [.requested id (owner, name) a])
      (watched rt (registerHook (World.host (.runtime rt) t) owner name a x).2) told
      (registerHook (World.host (.runtime rt) t) owner name a x).2.own := by
  obtain ⟨hooks, he, -⟩ := registerHook_at rt t owner name a x
  have hhooks := fun hc => registerHook_hooks (t := t) owner name a rfl hd (h.hooks hc)
  rw [he] at hhooks ⊢
  refine ⟨h.follows.aside rfl rfl rfl rfl rfl, fun key => ?_, fun hc => ?_, ?_⟩
  · rw [lastRequest_requested, Table.get?_insert]
    split
    · rfl
    · exact h.requests key
  · exact hhooks fun ev hev => hc ev (List.mem_append_left _ hev)
  · rw [firstBound_append_of_none past fun ev hev op => by rw [List.mem_singleton.1 hev]; rfl]
    exact h.targets.congr rfl (fun _ h => h) rfl rfl rfl

/-- A bind, and what it adds to the record if it succeeds. -/
theorem Minds.bind (h : Minds plan id past (watched rt x) (fun _ => True) x.own) (hd : (watched rt x).Distinct)
    (m : MemberRef) (f : EntryPoint) :
    Minds plan id (past ++ ((bindNative (World.host (.runtime rt) t) m f x).1.map fun b => Event.bound id b.1 f).toList)
      (watched rt (bindNative (World.host (.runtime rt) t) m f x).2) (fun _ => True)
      (bindNative (World.host (.runtime rt) t) m f x).2.own := by
  obtain ⟨hhost, htargets⟩ := bindNative_targets (t := t) hd h.targets m f
  obtain ⟨hf, hh, hr⟩ : Follows plan (bindNative (World.host (.runtime rt) t) m f x).2.own ∧
      (bindNative (World.host (.runtime rt) t) m f x).2.own.monitor.hooks = x.own.monitor.hooks ∧
      (bindNative (World.host (.runtime rt) t) m f x).2.own.requests = x.own.requests := by
    have hb := bindNative_binds (t := t) hd h.targets m f
    generalize bindNative (World.host (.runtime rt) t) m f x = y at hb ⊢
    cases hb <;> exact ⟨h.follows.aside rfl rfl rfl rfl rfl, rfl, rfl⟩
  have hbound : ∀ ev ∈ ((bindNative (World.host (.runtime rt) t) m f x).1.map fun b => Event.bound id b.1 f).toList,
      ∃ op, ev = .bound id op f := by
    intro ev hev
    obtain ⟨b, -, rfl⟩ := Option.map_eq_some_iff.1 (Option.mem_toList.1 hev)
    exact ⟨b.1, rfl⟩
  rw [watched, hhost]
  refine ⟨hf, fun key => ?_, fun hc => ?_, ?_⟩
  · rw [hr, h.requests key, lastRequest_append_of_none]
    intro ev hev
    obtain ⟨op, rfl⟩ := hbound ev hev
    rfl
  · exact (h.hooks fun ev hev => hc ev (List.mem_append_left _ hev)).congr hh hr
  · convert htargets using 1
    funext op
    cases (bindNative (World.host (.runtime rt) t) m f x).1 with
    | none => simp
    | some b => exact firstBound_bound past b.1 op f

/-- A hook set by other means: from then on the record does not say what the hooks are. -/
theorem Minds.hook (h : Minds plan id past (watched rt x) told x.own) (op : OperationId) (k : Hook) :
    Minds plan id (past ++ [.hooked id]) (watched rt x) told (watch (Monitor.setHook op k) x).2.own := by
  refine ⟨h.follows.aside rfl rfl rfl rfl rfl, fun key => ?_, fun hc => ?_, ?_⟩
  · rw [lastRequest_append_of_none past fun ev hev => by rw [List.mem_singleton.1 hev]; rfl]
    exact h.requests key
  · exact absurd rfl (hc (.hooked id) (List.mem_append_right _ (List.mem_singleton.2 rfl)))
  · rw [firstBound_append_of_none past fun ev hev op => by rw [List.mem_singleton.1 hev]; rfl]
    exact h.targets.congr rfl (fun _ h => h) rfl rfl rfl

/-- An engine that knows every member does so after whatever it is asked to do. -/
theorem Minds.use (u : Use) (h : Minds plan id past (watched rt x) (fun _ => True) x.own)
    (hd : (watched rt x).Distinct) :
    Minds plan id (past ++ (u.act id (World.host (.runtime rt) t) x).1)
      (watched rt (u.act id (World.host (.runtime rt) t) x).2) (fun _ => True)
      (u.act id (World.host (.runtime rt) t) x).2.own := by
  have hk := fun w => World.host_keeps (.runtime rt) t w
  -- Acts that only count and keep verdicts record nothing.
  have hkept : ∀ {β : Type} (a : Act Monitor World β),
      (∀ (J : Engine π → Prop) (w : World), Engine.Indifferent J →
        Keeps (Scene.Within J fun w' => w.process.MoreBreakpoints w'.process) (watch a : Act (Engine π) World β)) →
      Minds plan id (past ++ []) (watched rt (watch a x).2) (fun _ => True) (watch a x).2.own := by
    intro β a ha
    rw [List.append_nil]
    exact h.kept ha
  cases u with
  | request owner name a => exact h.request hd owner name a
  | resolve owner =>
    show Minds plan id (past ++ []) (watched rt (resolveType (World.host (.runtime rt) t) owner x).2) _ _
    rw [List.append_nil]
    exact (h.resolve hd owner).mono fun _ _ _ => Or.inl trivial
  | isRestricted a => exact hkept _ fun J w hJ => watch_keeps fun e =>
      Monitor.isRestricted_keeps (hJ.monitor e) (hk w).toReads a
  | forget a => exact hkept _ fun J w hJ => watch_keeps fun e => Monitor.forget_keeps (hJ.monitor e) a
  | classify a start =>
    exact hkept _ fun J w hJ => watch_keeps fun e => Monitor.classify_keeps (hJ.monitor e) (hk w).toReads a start
  | check a op start =>
    exact hkept _ fun J w hJ => watch_keeps fun e => Monitor.check_keeps (hJ.monitor e) (hk w).toReads a op start
  | reached op =>
    show Minds plan id (past ++ ((if _ then _ else _ : Act (Engine π) World (List Event)) x).1)
      (watched rt ((if _ then _ else _ : Act (Engine π) World (List Event)) x).2) _
      ((if _ then _ else _ : Act (Engine π) World (List Event)) x).2.own
    split
    · exact hkept _ fun J w hJ => watch_keeps fun e => Monitor.mark_keeps (hJ.monitor e).counters _
    · exact (List.append_nil past).symm ▸ h
  | bind m f => exact h.bind hd m f
  | hook op k => exact h.hook op k

end Engine

end

/-! ## Engines taken up, disowned and used -/

/-- A change of who keeps an engine: none comes back to life by it. -/
theorem Attends.slot (hs : Attends rt plan id past P s) (j : EngineId) (f : Slot π → Slot π)
    (he : ∀ slot, (f slot).engine = slot.engine ∧ (f slot).host = slot.host)
    (ha : ∀ slot, s.slots.get? j = some slot → (f slot).alive = true → slot.alive = true) :
    Attends rt plan id past P (changeSlot j f s).2 := by
  cases hj : s.slots.get? j with
  | none => rw [changeSlot_none hj]; exact hs
  | some old =>
    rw [changeSlot_at hj]
    obtain ⟨ho, slot, hs⟩ := hs
    have ho' := (Steady.of_insert hj (f old) (.refl _) s.notices).orderly ho
    by_cases e : j = id
    · subst e
      obtain rfl : slot = old := Option.some.inj (hs.found.symm.trans hj)
      refine ⟨ho', f slot, ?_, (he slot).2.trans hs.host, hs.opened, fun h => hs.listens (ha slot hj h), ?_⟩
      · show (s.slots.insert j (f slot)).get? j = _
        rw [Table.get?_insert, if_pos rfl]
      · rw [(he slot).1]
        exact hs.minds.mono fun m _ hm => ⟨ha slot hj hm.1, hm.2⟩
    · refine ⟨ho', slot, ?_, hs.host, hs.opened, hs.listens, hs.minds⟩
      show (s.slots.insert j (f old)).get? id = _
      rw [Table.get?_insert, if_neg (Ne.symm e)]
      exact hs.found

theorem Attends.record (hs : Attends rt plan id past P s) {evs : List Event} (he : ∀ ev ∈ evs, ev.subject? ≠ some id) :
    Attends rt plan id (past ++ evs) P s := by
  obtain ⟨ho, slot, hs⟩ := hs
  exact ⟨ho, slot, hs.found, hs.host, hs.opened, hs.listens, hs.minds.record he⟩

theorem Attends.use (hs : Attends rt plan id past (fun _ => True) s) (t : ThreadId) (j : EngineId) (u : Use)
    (ha : s.alive j = true) :
    Attends rt plan id (past ++ (acting t j [] (fun h => u.act j h) s).1) (fun _ => True)
      (acting t j [] (fun h => u.act j h) s).2 := by
  by_cases hj : j = id
  · subst hj
    obtain ⟨ho, slot, hs⟩ := hs
    rw [alive_iff hs.found] at ha
    have hhost : World.host slot.host t = World.host (.runtime rt) t := by rw [hs.host]
    have hev : (acting t j [] (fun h => u.act j h) s).1 =
        (u.act j (World.host (.runtime rt) t) ⟨slot.engine, s.world, []⟩).1 := by
      rw [acting_at hs.found, hhost]
    rw [hev]
    refine Attends.self ho hs u.tame ?_
    have hm : Minds plan j past (watched rt ⟨slot.engine, s.world, []⟩) (fun _ => True) slot.engine :=
      hs.minds.mono fun _ _ _ => ⟨ha, trivial⟩
    exact (hm.use (x := ⟨slot.engine, s.world, []⟩) u (ho.catalogued.distinct rt)).mono fun _ _ _ => trivial
  · refine (hs.other hj u.tame).record fun ev hev => ?_
    cases hf : s.slots.get? j with
    | none => rw [acting_none hf] at hev; cases hev
    | some slot =>
      rw [acting_at hf] at hev
      rw [u.subject _ _ ev hev]
      exact fun e => hj (Option.some.inj e)

/-! ## Builds -/

namespace Engine

variable {t : ThreadId} {x : Scene (Engine π) World} {told : Member → Prop}

theorem mem_startingTypes {e : Engine π} {owner : String} : owner ∈ e.startingTypes ↔ e.concerns owner = true := by
  simp only [startingTypes, Names.mem_ofList, concerns, List.mem_append, List.mem_map, Bool.or_eq_true,
    List.any_eq_true, decide_eq_true_eq]

/-- Of a type that does not concern it an engine has nothing to know. -/
theorem Minds.unconcerned {r : Runtime} {e : Engine π} (h : Minds plan id past r told e) :
    Minds plan id past r (fun m => told m ∨ e.concerns m.owner = false) e := by
  refine ⟨h.follows, h.requests, fun hc => ⟨(h.hooks hc).sound, ?_⟩, h.targets.callSite, h.targets.native, ?_,
    h.targets.natives, h.targets.entries⟩
  · rintro m hm (ht | hno) k hk
    · exact (h.hooks hc).complete m hm ht k hk
    · rw [(not_concerned hno rfl).1] at hk; cases hk
  · rintro m hm (ht | hno) hb
    · exact h.targets.complete m hm ht hb
    · rw [(not_concerned hno rfl).2] at hb; cases hb

theorem Minds.forM_resolve (h : Minds plan id past (watched rt x) told x.own) (hd : (watched rt x).Distinct)
    (owners : List String) :
    Minds plan id past (watched rt (owners.forM (resolveType (World.host (.runtime rt) t)) x).2)
      (fun m => told m ∨ m.owner ∈ owners) (owners.forM (resolveType (World.host (.runtime rt) t)) x).2.own := by
  induction owners generalizing x told with
  | nil => exact h.mono fun m _ hm => hm.resolve_right (List.not_mem_nil)
  | cons owner owners ih =>
    rw [forM_cons_at]
    have hm := (resolveType_more (t := t) owner x (.runtime rt)).members rt
    have hd' : (watched rt (resolveType (World.host (.runtime rt) t) owner x).2).Distinct :=
      ⟨by rw [watched, hm]; exact hd.keys, by rw [watched, hm]; exact hd.ids⟩
    refine (ih (h.resolve hd owner) hd').mono fun m _ hm => ?_
    rcases hm with ht | ho
    · exact Or.inl (Or.inl ht)
    · rcases List.mem_cons.1 ho with ho | ho
      · exact Or.inl (Or.inr ho)
      · exact Or.inr ho

/-- What a new engine has looked at when it is ready is all there is to know. -/
theorem Minds.start (h : Minds plan id past (watched rt x) (fun _ => False) x.own) (hd : (watched rt x).Distinct) :
    Minds plan id past (watched rt (start (World.host (.runtime rt) t) x).2) (fun _ => True)
      (start (World.host (.runtime rt) t) x).2.own := by
  have hall := (h.forM_resolve (t := t) hd x.own.startingTypes).unconcerned
  have hJ : Aside fun e : Engine π => e.requests = x.own.requests ∧ e.policy = x.own.policy := fun _ _ _ _ h => h
  have hkeep := Keeps.forM (fun owner (_ : owner ∈ x.own.startingTypes) =>
    resolveType_keeps hJ (Host.keeps_true (World.host (.runtime rt) t)) owner)
  obtain ⟨⟨hr, hp⟩, -⟩ := hkeep x ⟨⟨rfl, rfl⟩, trivial⟩
  refine Minds.mono hall fun m _ _ => ?_
  cases hc : x.own.concerns m.owner with
  | true => exact Or.inl (Or.inr (mem_startingTypes.2 hc))
  | false => exact Or.inr (by rw [concerns, hr, hp]; exact hc)

/-- An engine as its plan makes it knows nothing, and nothing wrong. -/
theorem minds_unresolved {e : Engine π} (h : plan.build.1 = .ok e) (r : Runtime) :
    Minds plan id [] r (fun _ => False) e := by
  unfold Plan.build at h
  cases hw : plan.settings.window with
  | error f => rw [hw] at h; cases h
  | ok w =>
    rw [hw] at h
    cases h
    refine ⟨⟨rfl, rfl, rfl, hw, rfl, rfl⟩, fun key => ?_, fun _ => ⟨nofun, fun _ _ h => h.elim⟩, nofun, nofun,
      fun _ _ h => h.elim, nofun, fun _ => rfl⟩
    show plan.policy.allowances.get? key = ((plan.policy.allowances.get? key).toList ++ []).getLast?
    cases plan.policy.allowances.get? key <;> rfl

end Engine

theorem start_tame : Tame fun h => (start h : Act (Engine π) World Unit) :=
  .of_keeps fun _ _ hk => start_keeps aside_true hk

theorem subscribe_runtime (rt : RuntimeId) (l : Listener) (s : Site π α) : (subscribe (.runtime rt) l s).2 =
    (changeProcess (·.changeRuntime rt fun r => { r with listeners := (listeners rt s).1 ++ [l] })
        (listeners rt s).2).2 := rfl

theorem subscribe_quiet (h : HostId) (l : Listener) (s : Site π α) : s.Quiet (subscribe h l s).2 := by
  match h, l with
  | .stage, .engine _ => exact .of_same rfl rfl rfl
  | .stage, .recorder _ => exact .of_same rfl rfl rfl
  | .runtime rt, l =>
    have he : ((listeners rt s).2.process.runtime rt).listeners = (listeners rt s).1 :=
      congrArg Runtime.listeners
        (Process.runtime_changeRuntime_self s.process rt fun r => { r with listeners := (listeners rt s).1 })
    rw [subscribe_runtime]
    refine (listeners_quiet rt s).trans (.of_runtime _ rt _ rfl (fun _ h => h) fun id _ hl => ?_)
    rw [he] at hl
    exact List.mem_append_left _ hl

theorem mem_subscribe (rt : RuntimeId) (l : Listener) (s : Site π α) :
    l ∈ ((subscribe (.runtime rt) l s).2.process.runtime rt).listeners ∧
      (subscribe (.runtime rt) l s).2.process.runtimes.contains rt = true := by
  have he : (subscribe (.runtime rt) l s).2.process.runtime rt = _ :=
    Process.runtime_changeRuntime_self (listeners rt s).2.process rt
      fun r => { r with listeners := (listeners rt s).1 ++ [l] }
  constructor
  · rw [he]
    exact List.mem_append_right _ (List.mem_singleton.2 rfl)
  · show (Table.insert _ rt _).contains rt = true
    rw [Table.contains_insert, decide_eq_true rfl, Bool.true_or]

/-- The site with one more engine. -/
def Site.gained (s : Site π α) (slot : Slot π) : Site π α := { s with slots := s.slots.insert ⟨s.slots.size⟩ slot }

theorem Site.Orderly.fresh (ho : s.Orderly) : s.slots.contains ⟨s.slots.size⟩ = false := by
  cases h : s.slots.contains ⟨s.slots.size⟩ with
  | false => rfl
  | true => exact absurd (ho.numbered _ h) (Nat.lt_irrefl _)

theorem Site.Orderly.gained (ho : s.Orderly) (slot : Slot π) : (s.gained slot).Orderly := by
  refine ⟨ho.catalogued, fun k hk => ?_⟩
  show k.val < (s.slots.insert ⟨s.slots.size⟩ slot).size
  have hk' : (s.slots.insert ⟨s.slots.size⟩ slot).contains k = true := hk
  rw [Table.size_insert, ho.fresh]
  rw [Table.contains_insert, Bool.or_eq_true, decide_eq_true_eq] at hk'
  rcases hk' with rfl | hk'
  · exact Nat.lt_succ_self _
  · exact Nat.lt_succ_of_lt (ho.numbered k hk')

/-- A plan that cannot be built leaves everything as it was. -/
theorem build_error {t : ThreadId} {h : HostId} {f : SetupError} (hb : plan.build.1 = .error f) :
    build t h plan s = ((.error f, plan.build.2), s) := by
  unfold build
  generalize plan.build = b at hb
  obtain ⟨r, plan'⟩ := b
  cases hb
  rfl

theorem build_ok {t : ThreadId} {h : HostId} {e : Engine π} (hb : plan.build.1 = .ok e) :
    build t h plan s = ((.ok ⟨s.slots.size⟩, plan.build.2),
      (acting t ⟨s.slots.size⟩ () (fun host => start host)
        (subscribe h (.engine ⟨s.slots.size⟩) (s.gained { engine := e, host := h })).2).2) := by
  unfold build
  generalize plan.build = b at hb
  obtain ⟨r, plan'⟩ := b
  cases hb
  rfl

theorem build_orderly (ho : s.Orderly) (t : ThreadId) (h : HostId) (plan : Plan π) :
    (build t h plan s).2.Orderly ∧ s.process.Alike (build t h plan s).2.process := by
  cases hb : plan.build.1 with
  | error f => rw [build_error hb]; exact ⟨ho, .refl _⟩
  | ok e =>
    rw [build_ok hb]
    have hq := subscribe_quiet h (.engine ⟨s.slots.size⟩) (s.gained { engine := e, host := h })
    have hs := acting_steady t ⟨s.slots.size⟩ () start_tame _ hq.steady
    exact ⟨hs.orderly (ho.gained _), hs.alike⟩

theorem Attends.build (hs : Attends rt plan id past P s) (t : ThreadId) (h : HostId) (plan' : Plan π) :
    Attends rt plan id past P (build t h plan' s).2 := by
  cases hb : plan'.build.1 with
  | error f => rw [build_error hb]; exact hs
  | ok e =>
    rw [build_ok hb]
    have hne : (⟨s.slots.size⟩ : EngineId) ≠ id := by
      rintro rfl
      obtain ⟨ho, slot, hs⟩ := hs
      have := ho.fresh
      rw [Table.contains, hs.found] at this
      cases this
    have hgain : Attends rt plan id past P (s.gained { engine := e, host := h }) := by
      obtain ⟨ho, slot, hs⟩ := hs
      refine ⟨ho.gained _, slot, ?_, hs.host, hs.opened, hs.listens, hs.minds⟩
      show (s.slots.insert _ _).get? id = some slot
      rw [Table.get?_insert, if_neg (Ne.symm hne)]
      exact hs.found
    exact (hgain.quiet (subscribe_quiet h _ _)).other hne start_tame

/-- An engine that was just built stands well. -/
theorem build_attends (ho : s.Orderly) {t : ThreadId} (hb : (build t (.runtime rt) plan s).1.1 = .ok id) :
    Attends rt plan id [] (fun _ => True) (build t (.runtime rt) plan s).2 := by
  cases he : plan.build.1 with
  | error f => rw [build_error he] at hb; cases hb
  | ok e =>
    rw [build_ok he] at hb ⊢
    obtain rfl : (⟨s.slots.size⟩ : EngineId) = id := Except.ok.inj hb
    let slot : Slot π := { engine := e, host := .runtime rt }
    have hq := subscribe_quiet (.runtime rt) (.engine ⟨s.slots.size⟩) (s.gained slot)
    obtain ⟨hl, ho'⟩ := mem_subscribe rt (.engine ⟨s.slots.size⟩) (s.gained slot)
    generalize (subscribe (.runtime rt) (.engine ⟨s.slots.size⟩) (s.gained slot)).2 = s' at hq hl ho'
    have horder := hq.steady.orderly (ho.gained slot)
    have hs : Stands rt plan ⟨s.slots.size⟩ [] (fun _ => False) s' slot := by
      refine ⟨?_, rfl, ho', fun _ => hl, (minds_unresolved he _).mono fun _ _ h => h.2⟩
      rw [hq.slots]
      show (s.slots.insert _ slot).get? _ = some slot
      rw [Table.get?_insert, if_pos rfl]
    refine Attends.self horder hs start_tame ?_
    refine Minds.mono ?_ fun _ _ _ => trivial
    exact (minds_unresolved he _).start (x := ⟨e, s'.world, []⟩) (horder.catalogued.distinct rt)

/-! ## Moves -/

theorem setBreakpoint_quiet (rt : RuntimeId) (op : OperationId) (s : Site π α) :
    s.Quiet (changeProcess (·.changeRuntime rt fun r => (r.setBreakpoint op).2) s).2 := by
  have h := Process.changeRuntime_breakpoints s.process rt op
  exact ⟨rfl, h.alike, h.opened, h.breaks, fun rt' id _ hl => (h.listeners rt').symm ▸ hl⟩

/-- Definitions are about no engine. -/
theorem subject_defined (rt : RuntimeId) (ms : List MemberRef) :
    ∀ ev ∈ ms.map (Event.defined rt), ev.subject? ≠ some id := by
  intro ev hev
  obtain ⟨m, -, rfl⟩ := List.mem_map.1 hev
  exact nofun

/-- Whatever move is made, the engine stands after it as the record then says. -/
theorem Move.attends (m : Move π α) (hs : Attends rt plan id past (fun _ => True) s) (ha : m.Allowed s) :
    Attends rt plan id (past ++ (m.play s).1) (fun _ => True) (m.play s).2 := by
  have hquiet : ∀ {s' : Site π α}, s.Quiet s' → Attends rt plan id (past ++ []) (fun _ => True) s' := fun h =>
    (hs.quiet h).record fun _ hev => nomatch hev
  have hslot : ∀ (j : EngineId) (f : Slot π → Slot π),
      (∀ slot, (f slot).engine = slot.engine ∧ (f slot).host = slot.host) →
      (∀ slot, s.slots.get? j = some slot → (f slot).alive = true → slot.alive = true) →
      Attends rt plan id (past ++ []) (fun _ => True) (changeSlot j f s).2 := fun j f he hl =>
    (hs.slot j f he hl).record fun _ hev => nomatch hev
  cases m with
  | openRuntime t rt' ms => exact (openRuntime_attends hs t rt' ms ha).record (subject_defined rt' ms)
  | define t rt' m => exact (define_attends hs t rt' m).record (subject_defined rt' [m])
  | defineAll t rt' ms => exact (defineAll_attends hs t rt' ms).record (subject_defined rt' ms)
  | push t rt' m => exact (pushFrame_attends hs t rt' m).record (subject_defined rt' [m])
  | declare t rt' cs => exact (declare_attends hs t rt' cs).record fun _ hev => nomatch hev
  | build t h plan' => exact (hs.build t h plan').record fun _ hev => nomatch hev
  | setBreakpoint rt' op => exact hquiet (setBreakpoint_quiet rt' op s)
  | prune rt' => exact hquiet (listeners_quiet rt' s)
  | listen rt' j => exact hquiet (subscribe_quiet (.runtime rt') (.recorder j) s)
  | disown j =>
    refine hslot j _ (fun _ => ⟨rfl, rfl⟩) fun slot _ h => ?_
    simp only [Slot.alive, Bool.false_or] at h ⊢
    rw [h, Bool.or_true]
  | retain j =>
    refine hslot j _ (fun _ => ⟨rfl, rfl⟩) fun slot hj _ => ?_
    rw [← alive_iff hj]
    exact ha
  | release j =>
    refine hslot j _ (fun _ => ⟨rfl, rfl⟩) fun slot _ h => ?_
    have h' : slot.owned = true ∨ 0 < slot.uses - 1 := by simpa [Slot.alive] using h
    rw [Slot.alive, Bool.or_eq_true, decide_eq_true_eq]
    exact h'.imp_right fun h => by omega
  | use t j u => exact hs.use t j u ha
  | _ => exact hquiet (.of_same rfl rfl rfl)

/-- A move keeps the site in order and does to the catalogues what its record says. -/
theorem Move.catalogues (m : Move π α) (ho : s.Orderly) (ha : m.Allowed s) :
    (m.play s).2.Orderly ∧ (s.process.catalogueEach (definitions (m.play s).1)).Alike (m.play s).2.process := by
  have hdef : ∀ {ds : List (RuntimeId × MemberRef)} {s' : Site π α}, s.Defines ds s' →
      s'.Orderly ∧ (s.process.catalogueEach ds).Alike s'.process := fun h => ⟨h.orderly ho, h.alike⟩
  have hquiet : ∀ {s' : Site π α}, s.Quiet s' → s'.Orderly ∧ s.process.Alike s'.process := fun h => hdef h.steady
  have hall : ∀ (rt : RuntimeId) (ms : List MemberRef), definitions (ms.map (Event.defined rt)) = ms.map (rt, ·) := by
    intro rt ms
    rw [definitions, List.filterMap_map]
    show ms.filterMap (some ∘ fun m => (rt, m)) = _
    rw [List.filterMap_eq_map]
  cases m with
  | openRuntime t rt' ms =>
    show _ ∧ (s.process.catalogueEach (definitions (ms.map (Event.defined rt')))).Alike _
    rw [hall]
    exact hdef ((open_quiet rt' s ha).steady.trans (defineAll_defines t rt' ms _))
  | define t rt' m => exact hdef (define_defines t rt' m s)
  | defineAll t rt' ms =>
    show _ ∧ (s.process.catalogueEach (definitions (ms.map (Event.defined rt')))).Alike _
    rw [hall]
    exact hdef (defineAll_defines t rt' ms s)
  | push t rt' m =>
    have hq : (Site.define t rt' m s).2.Quiet (pushFrame t rt' m s).2 := .of_same rfl rfl rfl
    exact hdef ((define_defines t rt' m s).steady hq.steady)
  | declare t rt' cs =>
    have hq : s.Quiet (changeProcess (·.changeThread t (·.declare cs)) s).2 := .of_same rfl rfl rfl
    exact hdef (announceThread_steady t rt' _ hq.steady)
  | build t h plan' => exact build_orderly ho t h plan'
  | setBreakpoint rt' op => exact hquiet (setBreakpoint_quiet rt' op s)
  | prune rt' => exact hquiet (listeners_quiet rt' s)
  | listen rt' j => exact hquiet (subscribe_quiet (.runtime rt') (.recorder j) s)
  | disown j => exact hdef (changeSlot_steady j _ s (.refl s))
  | retain j => exact hdef (changeSlot_steady j _ s (.refl s))
  | release j => exact hdef (changeSlot_steady j _ s (.refl s))
  | use t j u =>
    have hnil : definitions (acting t j [] (fun h => u.act j h) s).1 = [] := by
      refine List.filterMap_eq_nil_iff.2 fun ev hev => ?_
      have hsub : ev.subject? = some j := by
        cases hf : s.slots.get? j with
        | none => rw [acting_none hf] at hev; cases hev
        | some slot => rw [acting_at hf] at hev; exact u.subject _ _ ev hev
      cases ev <;> first | rfl | cases hsub
    show _ ∧ (s.process.catalogueEach (definitions (acting t j [] (fun h => u.act j h) s).1)).Alike _
    rw [hnil]
    exact hdef (acting_steady t j [] u.tame s (.refl s))
  | _ => exact hquiet (.of_same rfl rfl rfl)

/-! ## Runs -/

theorem bare_orderly (stage : Stage) (extra : α) : (bare stage extra : Site π α).Orderly :=
  ⟨Process.fresh_catalogued, nofun⟩

theorem Run.catalogues {s' : Site π α} (h : Run s past s') (ho : s.Orderly) :
    s'.Orderly ∧ (s.process.catalogueEach (definitions past)).Alike s'.process := by
  induction h with
  | start => exact ⟨ho, .refl _⟩
  | step m _ ha ih =>
    obtain ⟨ho', hc⟩ := m.catalogues ih.1 ha
    refine ⟨ho', ?_⟩
    rw [definitions, List.filterMap_append, Process.catalogueEach_append]
    exact (ih.2.catalogueEach _).trans hc

theorem Run.attends {since : List Event} {s' : Site π α} (h : Run s since s')
    (hs : Attends rt plan id past (fun _ => True) s) : Attends rt plan id (past ++ since) (fun _ => True) s' := by
  induction h with
  | start => rw [List.append_nil]; exact hs
  | step m _ ha ih => rw [← List.append_assoc]; exact m.attends ih ha

/-- An engine stands well for as long as it is alive, whatever happens. -/
theorem Built.attends {since : List Event} (h : Built rt plan id past since s) :
    Attends rt plan id since (fun _ => True) s := by
  obtain ⟨t, hpast, hb, hsince⟩ := h
  exact hsince.attends (build_attends (hpast.catalogues (bare_orderly _ _)).1 hb)

/-- The catalogues are those that the definitions make of none. -/
theorem Built.catalogues {since : List Event} (h : Built rt plan id past since s) :
    (Process.fresh.catalogueEach (definitions (past ++ since))).Alike s.process := by
  obtain ⟨t, hpast, hb, hsince⟩ := h
  obtain ⟨ho, hc⟩ := hpast.catalogues (bare_orderly _ _)
  obtain ⟨ho', hc'⟩ := build_orderly ho t (.runtime rt) plan
  rw [definitions, List.filterMap_append, Process.catalogueEach_append]
  exact ((hc.trans hc').catalogueEach _).trans (hsince.catalogues ho').2

end StallGuard
