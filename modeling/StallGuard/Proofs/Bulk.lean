/-
  StallGuard.Proofs.Bulk — many members defined at once, and one by one.

  Defined at once, members are catalogued first, and then each type that gained one is
  announced, ascending. Defined one by one, each new member has its type announced before
  the next is catalogued, so engines look at the types in another order, more often, and
  with fewer members in them. What they have seen in the end is the same.
  - `Site.Announces`: what announcements on a runtime do to the rest of the site, given the
    members that each engine has looked at and the signals that each recorder heard. It is
    closed under composition, as looking is (`Looked.trans`).
  - `defineEach_announces`, `defineAll_announces`: either way the engines that are told have
    seen the members of the types that gained one, and no others.

  Proved:
  - `bulk_definition`: from every reachable site both ways lead to the same catalogues, the
    same breakpoints and the same engines but for the order of their tables; and the members
    defined at once are announced once for each type that gained one, after all of them are
    catalogued.
-/

import StallGuard.Proofs.Learning
import StallGuard.Proofs.Looking
import StallGuard.Proofs.Roster

namespace StallGuard

open Engine Site

variable {π α : Type} {t : ThreadId} {rt : RuntimeId} {id : EngineId} {slot : Slot π} {owner : String}
  {s s' s'' : Site π α}

/-- The members that engine `id` looks at when these listeners are told, `ms` being listed. -/
def shown (ls : List Listener) (ms : List Member) (id : EngineId) : List Member :=
  ls.flatMap fun l => if l = .engine id then ms else []

/-- What recorder `id` writes down when these listeners are told of a type: that, once for
    each time it was subscribed. -/
def signalled (ls : List Listener) (owner : String) (id : RecorderId) : List Signal :=
  List.replicate (ls.count (.recorder id)) (.typeLoaded owner)

theorem shown_cons (l : Listener) (ls : List Listener) (ms : List Member) :
    shown (l :: ls) ms = fun id => shown [l] ms id ++ shown ls ms id := by
  funext id
  simp [shown]

theorem signalled_cons (l : Listener) (ls : List Listener) (owner : String) :
    signalled (l :: ls) owner = fun id => signalled [l] owner id ++ signalled ls owner id := by
  funext id
  rw [signalled, signalled, signalled, ← List.replicate_add, ← List.count_append]
  rfl

theorem mem_shown {ls : List Listener} {ms : List Member} {m : Member} :
    m ∈ shown ls ms id ↔ .engine id ∈ ls ∧ m ∈ ms := by
  simp only [shown, List.mem_flatMap]
  constructor
  · rintro ⟨l, hl, hm⟩
    split at hm
    · rename_i e
      exact ⟨e ▸ hl, hm⟩
    · cases hm
  · rintro ⟨hl, hm⟩
    exact ⟨_, hl, by rw [if_pos rfl]; exact hm⟩

theorem Process.Alike.membersOf {p q : Process} (h : p.Alike q) (rt : RuntimeId) (owner : String) :
    (q.runtime rt).membersOf owner = (p.runtime rt).membersOf owner :=
  congrArg (List.filter _) (h.members rt)

namespace Site

/-- The target that an engine has on an operation. -/
def target? (s : Site π α) (id : EngineId) (op : OperationId) : Option Target :=
  (s.slots.get? id).bind fun slot => slot.engine.monitor.targets.get? op

/-- Definitions and announcements on the runtime led from `s` to `s'`: the engines looked at
    these members, the recorders heard these signals, and breakpoints were set where engines
    have new targets. Nobody was subscribed or struck off. -/
structure Announces (rt : RuntimeId) (seen : EngineId → List Member) (heard : RecorderId → List Signal)
    (s s' : Site π α) : Prop where
  audience : (listeners rt s').1 = (listeners rt s).1
  engines : ∀ id slot, s.slots.get? id = some slot →
    ∃ e, slot.engine.Looked (seen id) e ∧ s'.slots.get? id = some { slot with engine := e }
  unknown : ∀ id, s.slots.get? id = none → s'.slots.get? id = none
  recorders : ∀ id, s'.recorders.get? id =
    (s.recorders.get? id).map fun r => { r with heard := r.heard ++ heard id }
  breaks : ∀ rt' op, (s'.process.runtime rt').breaksAt op = true ↔ (s.process.runtime rt').breaksAt op = true ∨
    rt' = rt ∧ ∃ id, s.target? id op = none ∧ s'.target? id op ≠ none
  grows : ∀ m ∈ (s.process.runtime rt).members, m ∈ (s'.process.runtime rt).members
  catalogued : ∀ id, ∀ m ∈ seen id, m ∈ (s'.process.runtime rt).members

/-- The engines among the listeners are alive and watch the runtime. -/
def Hosts (rt : RuntimeId) (ls : List Listener) (s : Site π α) : Prop :=
  ∀ id, .engine id ∈ ls → ∃ slot, s.slots.get? id = some slot ∧ slot.host = .runtime rt ∧ slot.alive = true

variable {seen seen' : EngineId → List Member} {heard heard' : RecorderId → List Signal} {ls : List Listener}

theorem audience_congr (hl : (s'.process.runtime rt).listeners = (s.process.runtime rt).listeners)
    (hd : ∀ l, s'.isDetached l = s.isDetached l) : (listeners rt s').1 = (listeners rt s).1 := by
  show (s'.process.runtime rt).listeners.filter _ = (s.process.runtime rt).listeners.filter _
  rw [hl]
  exact List.filter_congr fun l _ => by rw [hd]

namespace Announces

theorem hosts (h : s.Announces rt seen heard s') (hs : s.Hosts rt ls) : s'.Hosts rt ls := by
  intro id hid
  obtain ⟨slot, hf, hh, ha⟩ := hs id hid
  obtain ⟨e, -, hf'⟩ := h.engines id slot hf
  exact ⟨_, hf', hh, ha⟩

/-- Of two announcements, an engine's target is new by the first or by the second. -/
theorem new_iff (h : s.Announces rt seen heard s') (h' : s'.Announces rt seen' heard' s'') (id : EngineId)
    (op : OperationId) : (s.target? id op = none ∧ s''.target? id op ≠ none) ↔
      (s.target? id op = none ∧ s'.target? id op ≠ none) ∨
        (s'.target? id op = none ∧ s''.target? id op ≠ none) := by
  unfold target?
  cases hf : s.slots.get? id with
  | none => simp [h.unknown id hf, h'.unknown id (h.unknown id hf)]
  | some slot =>
    obtain ⟨e, hlook, hf'⟩ := h.engines id slot hf
    obtain ⟨e', hlook', hf''⟩ := h'.engines id _ hf'
    rw [hf', hf'']
    exact hlook.new_iff hlook' op

theorem trans (h : s.Announces rt seen heard s') (h' : s'.Announces rt seen' heard' s'')
    (hd : (s''.process.runtime rt).Distinct) :
    s.Announces rt (fun id => seen id ++ seen' id) (fun id => heard id ++ heard' id) s'' where
  audience := h'.audience.trans h.audience
  engines id slot hf := by
    obtain ⟨e, hlook, hf'⟩ := h.engines id slot hf
    obtain ⟨e', hlook', hf''⟩ := h'.engines id _ hf'
    have hin : ∀ m ∈ seen id ++ seen' id, m ∈ (s''.process.runtime rt).members := fun m hm =>
      (List.mem_append.1 hm).elim (fun hm => h'.grows m (h.catalogued id m hm)) (h'.catalogued id m)
    exact ⟨e', hlook.trans hlook' fun m hm n hn => hd.eq_of_id (hin m hm) (hin n hn), hf''⟩
  unknown id hf := h'.unknown id (h.unknown id hf)
  recorders id := by
    rw [h'.recorders, h.recorders, Option.map_map]
    simp only [Function.comp_def, List.append_assoc]
  breaks rt' op := by
    rw [h'.breaks, h.breaks, or_assoc, ← and_or_left, ← exists_or]
    simp only [h.new_iff h' _ op]
  grows m hm := h'.grows m (h.grows m hm)
  catalogued id m hm :=
    (List.mem_append.1 hm).elim (fun hm => h'.grows m (h.catalogued id m hm)) (h'.catalogued id m)

/-- What engines and recorders do not notice, and sets no breakpoint. -/
theorem unnoticed (ha : (listeners rt s').1 = (listeners rt s).1) (hs : s'.slots = s.slots)
    (hr : s'.recorders = s.recorders)
    (hb : ∀ rt' op, (s'.process.runtime rt').breaksAt op = (s.process.runtime rt').breaksAt op)
    (hg : ∀ m ∈ (s.process.runtime rt).members, m ∈ (s'.process.runtime rt).members) :
    s.Announces rt (fun _ => []) (fun _ => []) s' where
  audience := ha
  engines id slot hf := ⟨slot.engine, .refl _, hs ▸ hf⟩
  unknown id hf := hs ▸ hf
  recorders id := by simp [hr]
  breaks rt' op := by
    have htarget : ∀ id, s'.target? id op = s.target? id op := fun id => by rw [target?, hs]; rfl
    rw [hb]
    refine ⟨.inl, ?_⟩
    rintro (h | ⟨-, id, hnone, hsome⟩)
    · exact h
    · exact absurd (htarget id ▸ hnone) hsome
  grows := hg
  catalogued := nofun

end Announces

/-! ## Announcing a type -/

/-- An engine has looked at members of the runtime, and everybody else has heard nothing. -/
theorem acted_announces {ms : List Member} {y : Scene (Engine π) World} (hf : s.slots.get? id = some slot)
    (hlook : Looks rt ms ⟨slot.engine, s.world, []⟩ y) (hmore : s.process.MoreBreakpoints y.host.process)
    (hms : ∀ m ∈ ms, m ∈ (s.process.runtime rt).members) (owner : String) (ns : List (ThreadId × Notice)) :
    s.Announces rt (shown [.engine id] ms) (signalled [.engine id] owner) (s.acted id slot y.own y.host ns) := by
  have hshown : ∀ j, shown [.engine id] ms j = if id = j then ms else [] := fun j => by simp [shown]
  have hbefore : ∀ op, s.target? id op = slot.engine.monitor.targets.get? op := fun op => by rw [target?, hf]; rfl
  have hafter : ∀ op, (s.acted id slot y.own y.host ns).target? id op = y.own.monitor.targets.get? op := fun op => by
    rw [target?, acted_found]
    rfl
  exact {
    audience := by
      refine audience_congr (hmore.listeners rt) fun l => ?_
      cases l with
      | recorder j => rfl
      | engine j =>
        show (!(s.acted id slot y.own y.host ns).alive j) = !s.alive j
        by_cases hj : j = id
        · rw [hj, alive_iff (acted_found ..), alive_iff hf]
          rfl
        · rw [Site.alive, acted_other hj]
          rfl
    engines := fun j old hj => by
      by_cases hji : j = id
      · subst hji
        obtain rfl : slot = old := Option.some.inj (hf.symm.trans hj)
        exact ⟨y.own, by rw [hshown, if_pos rfl]; exact hlook.engine, acted_found ..⟩
      · exact ⟨old.engine, by rw [hshown, if_neg (Ne.symm hji)]; exact .refl _, (acted_other hji ..).trans hj⟩
    unknown := fun j hj => by
      have hji : j ≠ id := by
        rintro rfl
        rw [hf] at hj
        cases hj
      exact (acted_other hji ..).trans hj
    recorders := fun j => by simp [signalled, acted]
    breaks := fun rt' op => by
      refine (hlook.breaks rt' op).trans (or_congr Iff.rfl (and_congr_right fun _ => ?_))
      constructor
      · exact fun hnew => ⟨id, by rw [hbefore]; exact hnew.1, by rw [hafter]; exact hnew.2⟩
      · rintro ⟨j, hnone, hsome⟩
        by_cases hj : j = id
        · subst hj
          exact ⟨hbefore op ▸ hnone, hafter op ▸ hsome⟩
        · refine absurd ?_ hsome
          rw [target?, acted_other hj]
          exact hnone
    grows := fun m hm => (hmore.members rt).symm ▸ hm
    catalogued := fun j m hm => (hmore.members rt).symm ▸ hms m (mem_shown.1 hm).2 }

theorem tell_engine_announces (hd : (s.process.runtime rt).Distinct) (hf : s.slots.get? id = some slot)
    (hh : slot.host = .runtime rt) (ha : slot.alive = true) (owner : String) :
    s.Announces rt (shown [.engine id] ((s.process.runtime rt).membersOf owner)) (signalled [.engine id] owner)
      (tellTypeLoaded t owner (.engine id) s).2 := by
  rw [tellTypeLoaded_engine, if_pos ((alive_iff hf).trans ha), acting_at hf, hh]
  exact acted_announces hf (resolveType_looks owner hd)
    (resolveType_more (t := t) owner ⟨slot.engine, s.world, []⟩ (.runtime rt))
    (fun m hm => (Runtime.mem_membersOf.1 hm).1) owner _

theorem hear_announces (id : RecorderId) (owner : String) (ms : List Member) :
    s.Announces rt (shown [.recorder id] ms) (signalled [.recorder id] owner)
      (hear id (.typeLoaded owner) s).2 where
  audience := by
    refine audience_congr rfl fun l => ?_
    cases l with
    | engine j => rfl
    | recorder j =>
      show ((s.recorders.modify id _).get? j).all _ = (s.recorders.get? j).all _
      rw [Table.get?_modify]
      split
      · rename_i e
        rw [e]
        cases s.recorders.get? id <;> rfl
      · rfl
  engines j old hj := ⟨old.engine, by simpa [shown] using Looked.refl old.engine, hj⟩
  unknown _ hj := hj
  recorders j := by
    show (s.recorders.modify id _).get? j = _
    rw [Table.get?_modify]
    by_cases hj : j = id
    · subst hj
      simp [signalled]
    · simp [signalled, hj, Ne.symm hj]
  breaks _ _ := by
    refine ⟨.inl, ?_⟩
    rintro (h | ⟨-, _, hnone, hsome⟩)
    · exact h
    · exact absurd hnone hsome
  grows _ hm := hm
  catalogued j m hm := by simp [shown] at hm

/-- A round over listeners that are alive: each engine looks at the type's members, each
    recorder writes the type down. -/
theorem forM_tell_announces (t : ThreadId) (owner : String) (ls : List Listener) (hc : s.process.Catalogued)
    (hs : s.Hosts rt ls) :
    s.Announces rt (shown ls ((s.process.runtime rt).membersOf owner)) (signalled ls owner)
      (ls.forM (tellTypeLoaded t owner) s).2 := by
  induction ls generalizing s with
  | nil => exact .unnoticed rfl rfl rfl (fun _ _ => rfl) fun _ hm => hm
  | cons l ls ih =>
    have hone : s.Announces rt (shown [l] ((s.process.runtime rt).membersOf owner)) (signalled [l] owner)
        (tellTypeLoaded t owner l s).2 := by
      cases l with
      | recorder id => exact hear_announces id owner _
      | engine id =>
        obtain ⟨slot, hf, hh, ha⟩ := hs id List.mem_cons_self
        exact tell_engine_announces (hc.distinct rt) hf hh ha owner
    have halike := (tellTypeLoaded_steady t owner l s (.refl s)).alike
    have hrest := ih (hc.alike halike) fun id hid => hone.hosts hs id (List.mem_cons_of_mem _ hid)
    have hfinal := (Keeps.forM (fun l _ => tellTypeLoaded_steady t owner l) _ (.refl _) :
      (tellTypeLoaded t owner l s).2.Steady (ls.forM (tellTypeLoaded t owner) _).2).alike
    rw [forM_cons_at]
    rw [halike.membersOf] at hrest
    rw [shown_cons, signalled_cons]
    exact hone.trans hrest (((hc.alike halike).alike hfinal).distinct rt)

/-- Whoever is detached is struck off unnoticed. -/
theorem listeners_announces (rt : RuntimeId) (s : Site π α) :
    s.Announces rt (fun _ => []) (fun _ => []) (listeners rt s).2 := by
  have hrt : ∀ rt', (listeners rt s).2.process.runtime rt' =
      if rt' = rt then { s.process.runtime rt with listeners := (listeners rt s).1 } else s.process.runtime rt' :=
    fun rt' => Process.runtime_changeRuntime s.process rt rt' fun r => { r with listeners := (listeners rt s).1 }
  refine .unnoticed ?_ rfl rfl (fun rt' op => ?_) fun m hm => ?_
  · show ((listeners rt s).2.process.runtime rt).listeners.filter (fun l => !s.isDetached l) = _
    rw [hrt, if_pos rfl]
    refine List.filter_eq_self.2 fun l hl => ?_
    rw [(mem_listeners.1 hl).2]
    rfl
  · rw [hrt]
    split
    · rename_i e
      rw [e]
      rfl
    · rfl
  · rw [hrt, if_pos rfl]
    exact hm

/-- Every listener that is not detached is told of the type once for each subscription. -/
theorem announceType_announces (t : ThreadId) (owner : String) (hc : s.process.Catalogued)
    (hs : s.Hosts rt (listeners rt s).1) :
    s.Announces rt (shown (listeners rt s).1 ((s.process.runtime rt).membersOf owner))
      (signalled (listeners rt s).1 owner) (announceType t rt owner s).2 := by
  have hpruned : s.Announces rt (fun _ => []) (fun _ => []) (listeners rt (give t (.typeLoaded owner) s).2).2 :=
    { listeners_announces rt (give t (.typeLoaded owner) s).2 with }
  have halike := (listeners_quiet rt (give t (.typeLoaded owner) s).2).alike
  have hmembers : ((listeners rt (give t (.typeLoaded owner) s).2).2.process.runtime rt).membersOf owner =
      (s.process.runtime rt).membersOf owner := halike.membersOf rt owner
  have htold := forM_tell_announces t owner (listeners rt s).1 (hc.alike halike) (hpruned.hosts hs)
  rw [hmembers] at htold
  have hfinal := (announceType_steady t rt owner s (.refl s)).alike
  exact hpruned.trans htold ((hc.alike hfinal).distinct rt)

/-- Announcing types, one after the other, changes no catalogue. -/
theorem forM_announce_alike (t : ThreadId) (rt : RuntimeId) (owners : List String) (s : Site π α) :
    s.process.Alike (owners.forM (announceType t rt) s).2.process :=
  (Keeps.forM (fun owner _ => announceType_steady t rt owner) s (.refl s) :
    s.Steady (owners.forM (announceType t rt) s).2).alike

theorem forM_announce_announces (t : ThreadId) (owners : List String) (hc : s.process.Catalogued)
    (hs : s.Hosts rt (listeners rt s).1) :
    s.Announces rt (fun id => owners.flatMap fun o => shown (listeners rt s).1 ((s.process.runtime rt).membersOf o) id)
      (fun id => owners.flatMap fun o => signalled (listeners rt s).1 o id) (owners.forM (announceType t rt) s).2 := by
  induction owners generalizing s with
  | nil => exact .unnoticed rfl rfl rfl (fun _ _ => rfl) fun _ hm => hm
  | cons owner owners ih =>
    have hone := announceType_announces t owner hc hs
    have halike := (announceType_steady t rt owner s (.refl s)).alike
    have hrest := ih (hc.alike halike) (by rw [hone.audience]; exact hone.hosts hs)
    have hfinal := forM_announce_alike t rt owners (announceType t rt owner s).2
    simp only [halike.membersOf, hone.audience] at hrest
    rw [forM_cons_at]
    exact hone.trans hrest (((hc.alike halike).alike hfinal).distinct rt)

end Site

/-! ## Defining -/

/-- Some of the members is new on the runtime and of this type. -/
def Process.Gains (p : Process) (rt : RuntimeId) (ms : List MemberRef) (owner : String) : Prop :=
  ∃ m ∈ ms, m.owner = owner ∧ (p.runtime rt).find? m.key = none

namespace Process

variable {p q : Process} {m : MemberRef} {ms : List MemberRef}

theorem catalogue_added_iff : (p.catalogue rt m).1.2 = true ↔ (p.runtime rt).find? m.key = none := by
  obtain ⟨i, hi, e⟩ | ⟨hnone, e, -⟩ := catalogue_cases p rt m
  · rw [e, hi]
    simp
  · rw [e, hnone]
    simp

theorem Alike.gains (h : p.Alike q) : q.Gains rt ms owner ↔ p.Gains rt ms owner := by
  simp only [Gains, Runtime.find?, h.members]

/-- A type gains by the first definition, or by the others after it. -/
theorem gains_cons : p.Gains rt (m :: ms) owner ↔
    ((p.runtime rt).find? m.key = none ∧ m.owner = owner) ∨ (p.catalogue rt m).2.Gains rt ms owner := by
  simp only [Gains, find?_catalogue, List.mem_cons, Option.or_eq_none_iff]
  constructor
  · rintro ⟨n, rfl | hn, ho, hnone⟩
    · exact .inl ⟨hnone, ho⟩
    · by_cases hkey : m.key = n.key
      · exact .inl ⟨hkey ▸ hnone, (congrArg Prod.fst hkey).trans ho⟩
      · exact .inr ⟨n, hn, ho, hnone, if_neg fun h => hkey h.2⟩
  · rintro (⟨hnone, ho⟩ | ⟨n, hn, ho, hnone, -⟩)
    · exact ⟨m, .inl rfl, ho, hnone⟩
    · exact ⟨n, .inr hn, ho, hnone⟩

theorem defined_catalogueEach (p : Process) (rt : RuntimeId) (hm : m ∈ ms) :
    (((p.catalogueEach (ms.map (rt, ·))).runtime rt).find? m.key).isSome = true := by
  have hfirst : (firstDefinition (ms.map (rt, ·)) rt m.key).isSome = true :=
    List.findSome?_isSome_iff.2 ⟨(rt, m), List.mem_map_of_mem hm, by simp⟩
  rw [← Option.isSome_map (f := Member.ref), find?_catalogueEach, Option.isSome_or, hfirst, Bool.or_true]

/-- Whatever is in the catalogue was there before or is of a type that gained. -/
theorem mem_catalogueEach {n : Member} (hn : n ∈ ((p.catalogueEach (ms.map (rt, ·))).runtime rt).members) :
    n ∈ (p.runtime rt).members ∨ p.Gains rt ms n.owner := by
  induction ms generalizing p with
  | nil => exact .inl hn
  | cons m ms ih =>
    rw [gains_cons]
    obtain hn | hn := ih (p := (p.catalogue rt m).2) hn
    · rw [runtime_catalogue] at hn
      split at hn
      · rename_i hadd
        obtain hn | hn := List.mem_append.1 hn
        · exact .inl hn
        · rw [List.mem_singleton.1 hn]
          exact .inr (.inl ⟨catalogue_added_iff.1 hadd.1, rfl⟩)
      · exact .inl hn
    · exact .inr (.inr hn)

end Process

namespace Site

variable {ms : List MemberRef}

/-- Defines the members one after another. -/
def defineEach (t : ThreadId) (rt : RuntimeId) (ms : List MemberRef) : Play π α Unit :=
  ms.forM fun m => discard (define t rt m)

theorem defineEach_cons (t : ThreadId) (rt : RuntimeId) (m : MemberRef) (ms : List MemberRef) (s : Site π α) :
    (defineEach t rt (m :: ms) s).2 = (defineEach t rt ms (define t rt m s).2).2 := rfl

theorem defineEach_defines (t : ThreadId) (rt : RuntimeId) (ms : List MemberRef) (s : Site π α) :
    s.Defines (ms.map (rt, ·)) (defineEach t rt ms s).2 := by
  induction ms generalizing s with
  | nil => exact .refl s
  | cons m ms ih => exact (define_defines t rt m s).trans (ih _)

theorem Defines.catalogued {ds : List (RuntimeId × MemberRef)} (h : s.Defines ds s') (hc : s.process.Catalogued) :
    s'.process.Catalogued := (Process.catalogueEach_catalogued hc ds).alike h.alike

/-- A definition by itself goes unnoticed. -/
theorem catalogue_announces (rt : RuntimeId) (m : MemberRef) (s : Site π α) :
    s.Announces rt (fun _ => []) (fun _ => []) (changeProcess (·.catalogue rt m |>.2) s).2 := by
  have hrt : ∀ rt', (changeProcess (·.catalogue rt m |>.2) s).2.process.runtime rt' = _ := fun rt' =>
    Process.runtime_catalogue s.process rt rt' m
  refine .unnoticed (audience_congr ?_ fun l => by cases l <;> rfl) rfl rfl (fun rt' op => ?_) fun n hn => ?_
  · rw [hrt]
    split <;> rfl
  · rw [hrt]
    split <;> rfl
  · rw [hrt]
    split
    · exact List.mem_append_left _ hn
    · exact hn

/-- The site with the members catalogued and nobody told. -/
def knowing (rt : RuntimeId) (ms : List MemberRef) (s : Site π α) : Site π α :=
  { s with world := { s.world with process := s.process.catalogueEach (ms.map (rt, ·)) } }

theorem catalogueAll_at (rt : RuntimeId) (ms : List MemberRef) (s : Site π α) :
    (catalogueAll rt ms s).2 = s.knowing rt ms := by
  induction ms generalizing s with
  | nil => rfl
  | cons m ms ih => exact ih _

theorem catalogueAll_announces (rt : RuntimeId) (ms : List MemberRef) (hc : s.process.Catalogued) :
    s.Announces rt (fun _ => []) (fun _ => []) (catalogueAll rt ms s).2 := by
  induction ms generalizing s with
  | nil => exact .unnoticed rfl rfl rfl (fun _ _ => rfl) fun _ hm => hm
  | cons m ms ih =>
    have hc' := Process.catalogue_catalogued hc rt m
    have hfinal := (catalogueAll_defines rt ms (changeProcess (·.catalogue rt m |>.2) s).2).catalogued hc'
    exact (catalogue_announces rt m s).trans (ih (s := (changeProcess (·.catalogue rt m |>.2) s).2) hc')
      (hfinal.distinct rt)

theorem mem_catalogueAll {owner : String} : owner ∈ (catalogueAll rt ms s).1 ↔ s.process.Gains rt ms owner := by
  induction ms generalizing s with
  | nil => exact ⟨nofun, nofun⟩
  | cons m ms ih =>
    show owner ∈ (if (s.process.catalogue rt m).1.2 = true then m.owner :: (catalogueAll rt ms _).1
      else (catalogueAll rt ms _).1) ↔ _
    rw [Process.gains_cons, ← Process.catalogue_added_iff]
    have hrest := ih (s := (changeProcess (·.catalogue rt m |>.2) s).2)
    split
    · rename_i hadd
      rw [List.mem_cons]
      refine or_congr ⟨fun h => ⟨hadd, h.symm⟩, fun h => h.2.symm⟩ hrest
    · rename_i hadd
      refine hrest.trans ⟨.inr, fun h => h.resolve_left fun h => hadd h.1⟩

/-! ### What has been seen -/

/-- A definition shows the engines that are told the members of its type, if it is new. -/
theorem define_announces (t : ThreadId) (m : MemberRef) (hc : s.process.Catalogued)
    (hs : s.Hosts rt (listeners rt s).1) :
    ∃ seen heard, s.Announces rt seen heard (define t rt m s).2 ∧
      ∀ id n, n ∈ seen id ↔ .engine id ∈ (listeners rt s).1 ∧
        n ∈ ((define t rt m s).2.process.runtime rt).members ∧
        (s.process.runtime rt).find? m.key = none ∧ m.owner = n.owner := by
  have hquiet := catalogue_announces rt m s
  rw [define_at]
  dsimp only
  by_cases hadd : (s.process.catalogue rt m).1.2 = true
  · rw [if_pos hadd]
    have hc' : (changeProcess (·.catalogue rt m |>.2) s).2.process.Catalogued :=
      Process.catalogue_catalogued hc rt m
    have htold := announceType_announces t m.owner hc' (by rw [hquiet.audience]; exact hquiet.hosts hs)
    have halike : (changeProcess (·.catalogue rt m |>.2) s).2.process.Alike
        (announceType t rt m.owner (changeProcess (·.catalogue rt m |>.2) s).2).2.process :=
      (announceType_steady t rt m.owner _ (.refl _)).alike
    refine ⟨_, _, hquiet.trans htold ((hc'.alike halike).distinct rt), fun id n => ?_⟩
    rw [List.nil_append, mem_shown, hquiet.audience, Runtime.mem_membersOf, halike.members]
    simp only [Process.catalogue_added_iff.1 hadd, true_and, eq_comm]
  · rw [if_neg hadd]
    refine ⟨_, _, hquiet, fun id n => ⟨nofun, fun h => absurd (Process.catalogue_added_iff.2 h.2.2.1) hadd⟩⟩

/-- One by one: the engines that are told have seen the members of the types that gained. -/
theorem defineEach_announces (t : ThreadId) (ms : List MemberRef) (hc : s.process.Catalogued)
    (hs : s.Hosts rt (listeners rt s).1) :
    ∃ seen heard, s.Announces rt seen heard (defineEach t rt ms s).2 ∧
      ∀ id n, n ∈ seen id ↔ .engine id ∈ (listeners rt s).1 ∧
        n ∈ ((defineEach t rt ms s).2.process.runtime rt).members ∧ s.process.Gains rt ms n.owner := by
  induction ms generalizing s with
  | nil =>
    refine ⟨_, _, .unnoticed rfl rfl rfl (fun _ _ => rfl) fun _ hm => hm, fun id n => ⟨nofun, ?_⟩⟩
    rintro ⟨-, -, m, hm, -⟩
    cases hm
  | cons m ms ih =>
    obtain ⟨seen, heard, hfirst, hseen⟩ := define_announces t m hc hs
    have hdef := define_defines t rt m s
    have hc' := hdef.catalogued hc
    obtain ⟨seen', heard', hrest, hseen'⟩ := ih hc' (by rw [hfirst.audience]; exact hfirst.hosts hs)
    have hdefs := defineEach_defines t rt ms (define t rt m s).2
    rw [defineEach_cons]
    refine ⟨_, _, hfirst.trans hrest ((hdefs.catalogued hc').distinct rt), fun id n => ?_⟩
    have hgains : (define t rt m s).2.process.Gains rt ms n.owner ↔
        (s.process.catalogue rt m).2.Gains rt ms n.owner := hdef.alike.gains
    rw [List.mem_append, hseen, hseen', hfirst.audience, Process.gains_cons, hgains]
    constructor
    · rintro (⟨hl, hn, hnew⟩ | ⟨hl, hn, hg⟩)
      · exact ⟨hl, hrest.grows n hn, .inl hnew⟩
      · exact ⟨hl, hn, .inr hg⟩
    · rintro ⟨hl, hn, hnew | hg⟩
      -- A member of the type that came later made the type gain once more.
      · rw [hdefs.alike.members] at hn
        obtain hold | hg := Process.mem_catalogueEach hn
        · exact .inl ⟨hl, hold, hnew⟩
        · exact .inr ⟨hl, by rw [hdefs.alike.members]; exact hn, hgains.1 hg⟩
      · exact .inr ⟨hl, hn, hg⟩

/-- All at once: they have seen the same. -/
theorem defineAll_announces (t : ThreadId) (ms : List MemberRef) (hc : s.process.Catalogued)
    (hs : s.Hosts rt (listeners rt s).1) :
    ∃ seen, s.Announces rt seen
        (fun id => (Names.ofList (catalogueAll rt ms s).1).flatMap fun o => signalled (listeners rt s).1 o id)
        (defineAll t rt ms s).2 ∧
      ∀ id n, n ∈ seen id ↔ .engine id ∈ (listeners rt s).1 ∧
        n ∈ ((defineAll t rt ms s).2.process.runtime rt).members ∧ s.process.Gains rt ms n.owner := by
  have hquiet := catalogueAll_announces rt ms hc
  have hc' := (catalogueAll_defines rt ms s).catalogued hc
  have htold := forM_announce_announces t (Names.ofList (catalogueAll rt ms s).1) hc'
    (by rw [hquiet.audience]; exact hquiet.hosts hs)
  have halike : (catalogueAll rt ms s).2.process.Alike (defineAll t rt ms s).2.process :=
    forM_announce_alike t rt _ _
  simp only [hquiet.audience] at htold
  refine ⟨_, hquiet.trans htold ((hc'.alike halike).distinct rt), fun id n => ?_⟩
  simp only [List.nil_append, List.mem_flatMap, mem_shown, Runtime.mem_membersOf, Names.mem_ofList, mem_catalogueAll,
    halike.members]
  constructor
  · rintro ⟨o, hg, hl, hn, rfl⟩
    exact ⟨hl, hn, hg⟩
  · rintro ⟨hl, hn, hg⟩
    exact ⟨n.owner, hg, hl, hn, rfl⟩

/-! ## Both ways -/

/-- Two sites that were reached from `s` agree on catalogues, breakpoints and engines. -/
structure AgreeSince (s s' s'' : Site π α) : Prop where
  members : ∀ rt, (s''.process.runtime rt).members = (s'.process.runtime rt).members
  nextOperation : s''.process.nextOperation = s'.process.nextOperation
  breaks : ∀ rt op, (s''.process.runtime rt).breaksAt op = (s'.process.runtime rt).breaksAt op
  /-- Hooks, targets and counters of every engine are the same, and so is all else. -/
  engines : ∀ id slot, s.slots.get? id = some slot →
    ∃ e e', s'.slots.get? id = some { slot with engine := e } ∧
      s''.slots.get? id = some { slot with engine := e' } ∧ e.Same e'

/-- Whatever the order of the announcements, who has seen the same agrees. -/
theorem Announces.agree (h : s.Announces rt seen heard s') (h' : s.Announces rt seen' heard' s'')
    (hseen : ∀ id m, m ∈ seen' id ↔ m ∈ seen id) (halike : s'.process.Alike s''.process) : AgreeSince s s' s'' where
  members := halike.members
  nextOperation := halike.nextOperation
  breaks rt' op := by
    have htarget : ∀ id, s''.target? id op = s'.target? id op := by
      intro id
      unfold target?
      cases hf : s.slots.get? id with
      | none => rw [h.unknown id hf, h'.unknown id hf]
      | some slot =>
        obtain ⟨e, hlook, hf'⟩ := h.engines id slot hf
        obtain ⟨e', hlook', hf''⟩ := h'.engines id slot hf
        rw [hf', hf'']
        exact (hlook.unique hlook' (hseen id)).targets op
    rw [Bool.eq_iff_iff, h.breaks, h'.breaks]
    simp only [htarget]
  engines id slot hf := by
    obtain ⟨e, hlook, hf'⟩ := h.engines id slot hf
    obtain ⟨e', hlook', hf''⟩ := h'.engines id slot hf
    exact ⟨e, e', hf', hf'', hlook.unique hlook' (hseen id)⟩

/-- Defined at once, the members are announced once for each type in `gained`, when all of
    them are catalogued. -/
structure AnnouncesOnce (t : ThreadId) (rt : RuntimeId) (ms : List MemberRef) (s : Site π α) (gained : List String) :
    Prop where
  ascending : gained.Pairwise (· < ·)
  /-- The types are those of the members that were new. -/
  types : ∀ o, o ∈ gained ↔ s.process.Gains rt ms o
  /-- There is one round of notifications for each. -/
  rounds : (defineAll t rt ms s).2 = (gained.forM (announceType t rt) (s.knowing rt ms)).2
  /-- Whenever a round begins, every member of the list is known. -/
  late : ∀ before after, gained = before ++ after → ∀ m ∈ ms,
    (((before.forM (announceType t rt) (s.knowing rt ms)).2.process.runtime rt).find? m.key).isSome = true
  /-- A recorder that is not detached is told of each of them once for each subscription. -/
  delivered : ∀ id r, s.recorders.get? id = some r →
    (defineAll t rt ms s).2.recorders.get? id = some { r with
      heard := r.heard ++ (gained.flatMap fun o =>
        List.replicate ((listeners rt s).1.count (.recorder id)) (.typeLoaded o)) }

end Site

theorem Run.hosts {stage : Stage} {extra : α} {past : List Event} (h : Run (bare stage extra) past s) (rt : RuntimeId) :
    s.Hosts rt (listeners rt s).1 := by
  intro id hid
  obtain ⟨hhost, ha⟩ := ((h.told rt).2 id).1 (mem_engines.2 hid)
  obtain ⟨slot, hf, hh⟩ := Option.map_eq_some_iff.1 hhost
  exact ⟨slot, hf, hh, (alive_iff hf).symm.trans ha⟩

/-- In every reachable site, whatever engines are alive and whatever was requested of them,
    members defined at once come to the same as the same members defined one by one: the
    same operations for the same members, the same breakpoints, and in every engine the same
    hooks, targets and counters. Only that each type that gained members is announced once,
    in ascending order, when all members are known. -/
theorem bulk_definition {stage : Stage} {extra : α} {past : List Event} (h : Run (bare stage extra) past s)
    (t : ThreadId) (rt : RuntimeId) (ms : List MemberRef) :
    AgreeSince s (defineAll t rt ms s).2 (defineEach t rt ms s).2 ∧ ∃ gained, AnnouncesOnce t rt ms s gained := by
  have hc := (h.catalogues (bare_orderly stage extra)).1.catalogued
  obtain ⟨seen, hall, hseen⟩ := defineAll_announces t ms hc (h.hosts rt)
  obtain ⟨seen', heard', heach, hseen'⟩ := defineEach_announces t ms hc (h.hosts rt)
  have hone := (defineAll_defines t rt ms s).alike
  have htwo := (defineEach_defines t rt ms s).alike
  have halike : (defineAll t rt ms s).2.process.Alike (defineEach t rt ms s).2.process :=
    ⟨fun rt' => (htwo.members rt').trans (hone.members rt').symm, htwo.nextOperation.trans hone.nextOperation.symm⟩
  refine ⟨hall.agree heach (fun id m => ?_) halike, Names.ofList (catalogueAll rt ms s).1, ?_⟩
  · rw [hseen, hseen', halike.members]
  have hrounds : (defineAll t rt ms s).2 =
      ((Names.ofList (catalogueAll rt ms s).1).forM (announceType t rt) (catalogueAll rt ms s).2).2 := rfl
  rw [catalogueAll_at] at hrounds
  exact {
    ascending := Names.sorted_ofList _
    types := fun o => Names.mem_ofList.trans mem_catalogueAll
    rounds := hrounds
    late := fun before after _ m hm => by
      rw [Runtime.find?, (forM_announce_alike t rt before _).members]
      exact Process.defined_catalogueEach s.process rt hm
    delivered := fun id r hr => by
      rw [hall.recorders, hr]
      rfl }

/-- Members of two types in turns, one of them twice and one known already: a recorder hears
    of each type once, where it hears of one twice if they are defined one by one. -/
theorem bulk_definition_of_two_types :
    let r : RuntimeId := ⟨"r"⟩
    let plan : Plan Unit := { policy := (Policy.empty.markBlocking ("a::B", "g")).setAllowance ("c::D", "h") true }
    let moves : List (Move Unit Unit) := [.openRuntime ⟨1⟩ r [⟨"a::B", "f", false, false⟩],
      .build ⟨1⟩ (.runtime r) plan, .recorders (·.insert ⟨0⟩ {}), .listen r ⟨0⟩]
    let s := (Move.playAll (bare {} ()) moves).2
    let ms : List MemberRef := [⟨"c::D", "h", false, false⟩, ⟨"a::B", "g", false, false⟩, ⟨"c::D", "h", false, false⟩,
      ⟨"a::B", "f", false, false⟩, ⟨"c::D", "i", false, false⟩]
    AgreeSince s (defineAll ⟨1⟩ r ms s).2 (defineEach ⟨1⟩ r ms s).2 ∧
      (∀ o, s.process.Gains r ms o ↔ o = "a::B" ∨ o = "c::D") ∧
      ((defineAll ⟨1⟩ r ms s).2.recorders.get? ⟨0⟩).map Recorder.heard =
        some [.typeLoaded "a::B", .typeLoaded "c::D"] ∧
      ((defineEach ⟨1⟩ r ms s).2.recorders.get? ⟨0⟩).map Recorder.heard =
        some [.typeLoaded "c::D", .typeLoaded "a::B", .typeLoaded "c::D"] := by
  intro r plan moves s ms
  have hrun : Run (bare {} ()) (Move.playAll (bare {} ()) moves).1 s := .of_moves (by decide +kernel)
  obtain ⟨hagree, -⟩ := bulk_definition hrun ⟨1⟩ r ms
  refine ⟨hagree, fun o => ?_, by decide +kernel, by decide +kernel⟩
  have hgained : Names.ofList (catalogueAll r ms s).1 = ["a::B", "c::D"] := by decide +kernel
  rw [← mem_catalogueAll, ← Names.mem_ofList, hgained]
  simp

end StallGuard
