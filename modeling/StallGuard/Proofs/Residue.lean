/-
  StallGuard.Proofs.Residue — what an engine leaves behind when it is given up.

  Of an engine that is gone there remain its number, which no other engine gets, a listener
  that is struck off before anything is told again, and the breakpoints that it set. A site
  with that residue (`Site.Residue`) has otherwise the same threads, catalogues and engines
  as one on which the engine was never built; engines built later have a number that is one
  higher there (`EngineId.past`). Recorders hear of more breakpoints, so this is said of
  sites on which no recorder objects to any.
  - `acting_residue`, `listeners_residue`, `Residue.subscribe`, `build_residue`: what is done
    to both sites ends with the residue again, and gives the same.
  - `define_residue`, `defineAll_residue`, `declare_residue`: likewise whatever is made of that
    and calls no handler.
  - `build_gone`: the residue of an engine that is built and given up at once.
-/

import StallGuard.Proofs.Calm
import StallGuard.Proofs.Mirroring
import StallGuard.Proofs.Roster

namespace StallGuard

open Engine Site

variable {π α β γ : Type} {e : Nat} {left : RuntimeId → OperationId → Prop}

/-! ## Numbers -/

namespace EngineId

/-- The number that an engine has if one more was built when there were `e`. -/
def past (e : Nat) (id : EngineId) : EngineId := if id.val < e then id else ⟨id.val + 1⟩

/-- The number that it has without. -/
def before (e : Nat) (id : EngineId) : EngineId := if id.val < e then id else ⟨id.val - 1⟩

theorem past_val (e : Nat) (id : EngineId) : (id.past e).val = if id.val < e then id.val else id.val + 1 := by
  unfold past
  split <;> rfl

theorem before_past (e : Nat) (id : EngineId) : (id.past e).before e = id := by
  by_cases h : id.val < e
  · rw [past, if_pos h, before, if_pos h]
  · have h' : ¬id.val + 1 < e := by omega
    rw [past, if_neg h, before, if_neg h']
    rfl

theorem past_before {id : EngineId} (h : id ≠ ⟨e⟩) : (id.before e).past e = id := by
  obtain ⟨n⟩ := id
  have hne : n ≠ e := fun hn => h (congrArg mk hn)
  by_cases hlt : n < e
  · rw [before, if_pos hlt, past, if_pos hlt]
  · have hge : ¬n - 1 < e := by omega
    have hpos : 1 ≤ n := by omega
    rw [before, if_neg hlt, past, if_neg hge]
    exact congrArg mk (Nat.sub_add_cancel hpos)

theorem past_inj {id id' : EngineId} : id.past e = id'.past e ↔ id = id' :=
  ⟨fun h => by rw [← before_past e id, h, before_past], congrArg _⟩

theorem past_ne (e : Nat) (id : EngineId) : id.past e ≠ ⟨e⟩ := by
  intro h
  have := past_val e id
  rw [h] at this
  split at this <;> simp only at this <;> omega

theorem past_lt {id id' : EngineId} : (id.past e).val < (id'.past e).val ↔ id.val < id'.val := by
  rw [past_val, past_val]
  split <;> split <;> omega

theorem past_old {id : EngineId} (h : id.val < e) : id.past e = id := if_pos h

theorem past_new {n : Nat} (h : e ≤ n) : past e ⟨n⟩ = ⟨n + 1⟩ := if_neg (Nat.not_lt.2 h)

end EngineId

/-- The listener under its number past engine `e`. -/
def Listener.past (e : Nat) : Listener → Listener
  | engine id => .engine (id.past e)
  | recorder id => .recorder id

namespace Site

/-! ## Listeners that are kept -/

variable {s s' n n' : Site π α} {rt rt' : RuntimeId} {id : EngineId} {slot : Slot π} {t : ThreadId}

theorem reject?_stance (s : Site π α) (id : RecorderId) :
    (s.recorders.get? id).bind Recorder.reject = (s.stance? id).bind Prod.fst := by
  unfold stance?
  cases s.recorders.get? id <;> rfl

theorem isDetached_recorder (s : Site π α) (id : RecorderId) :
    s.isDetached (.recorder id) = (s.stance? id).all Prod.snd := by
  show (s.recorders.get? id).all Recorder.detached = ((s.recorders.get? id).map _).all Prod.snd
  cases s.recorders.get? id <;> rfl

/-- Nobody new listens, and nobody who was struck off is listened to again. -/
structure Fading (s n : Site π α) : Prop where
  listeners : ∀ rt, (n.process.runtime rt).listeners = (s.process.runtime rt).listeners
  detached : ∀ l, s.isDetached l = true → n.isDetached l = true
  size : n.slots.size = s.slots.size

theorem Fading.refl : s.Fading s := ⟨fun _ => rfl, fun _ hl => hl, rfl⟩

theorem Fading.kept (h : s.Fading n) (rt : RuntimeId) :
    (Site.listeners rt n).1 = (Site.listeners rt s).1.filter fun l => !n.isDetached l := by
  show (n.process.runtime rt).listeners.filter _ = ((s.process.runtime rt).listeners.filter _).filter _
  rw [h.listeners, List.filter_filter]
  refine List.filter_congr fun l _ => ?_
  cases hs : s.isDetached l with
  | false => rw [Bool.not_false, Bool.and_true]
  | true => rw [h.detached l hs]; rfl

/-- Worlds that moved on list the same. -/
theorem Fading.inWorld (h : s.Fading n) {w : World}
    (hl : ∀ rt, (w.process.runtime rt).listeners = (n.process.runtime rt).listeners) (ns : List (ThreadId × Notice)) :
    s.Fading { n with world := w, notices := ns } :=
  ⟨fun rt => (hl rt).trans (h.listeners rt), h.detached, h.size⟩

theorem kept_relisted (s : Site π α) (rt rt' : RuntimeId) (l : List Listener) :
    (listeners rt' (changeProcess (·.changeRuntime rt fun r => { r with listeners := l }) s).2).1 =
      if rt' = rt then l.filter fun l => !s.isDetached l else (listeners rt' s).1 := by
  show ((s.process.changeRuntime rt fun r => { r with listeners := l }).runtime rt').listeners.filter _ = _
  rw [Process.runtime_changeRuntime]
  split <;> rfl

/-- Those who were struck off would not be told anything anyway. -/
theorem kept_pruned (s : Site π α) (rt rt' : RuntimeId) :
    (listeners rt' (listeners rt s).2).1 = (listeners rt' s).1 := by
  refine (kept_relisted s rt rt' (listeners rt s).1).trans ?_
  split
  · rename_i hrt
    rw [hrt]
    show ((s.process.runtime rt).listeners.filter _).filter _ = (s.process.runtime rt).listeners.filter _
    rw [List.filter_filter]
    exact List.filter_congr fun l _ => Bool.and_self _
  · rfl

theorem kept_subscribe (s : Site π α) (rt rt' : RuntimeId) (l : Listener) :
    (listeners rt' (subscribe (.runtime rt) l s).2).1 =
      if rt' = rt then (listeners rt s).1 ++ [l].filter fun l => !s.isDetached l else (listeners rt' s).1 := by
  have hself : (listeners rt s).1.filter (fun l => !s.isDetached l) = (listeners rt s).1 :=
    List.filter_eq_self.2 fun l hl => by rw [(mem_listeners.1 hl).2]; rfl
  rw [subscribe_runtime]
  refine (kept_relisted _ rt rt' _).trans ?_
  rw [List.filter_append, kept_pruned]
  split
  · exact congrArg (· ++ _) hself
  · rfl

theorem mem_relisted {l : List Listener} {l' : Listener}
    (h : l' ∈ ((changeProcess (·.changeRuntime rt fun r => { r with listeners := l }) s).2.process.runtime
      rt').listeners) :
    l' ∈ (s.process.runtime rt').listeners ∨ rt' = rt ∧ l' ∈ l := by
  replace h : l' ∈ ((s.process.changeRuntime rt fun r => { r with listeners := l }).runtime rt').listeners := h
  rw [Process.runtime_changeRuntime] at h
  split at h
  · rename_i hrt
    exact .inr ⟨hrt, h⟩
  · exact .inl h

theorem mem_pruned {l : Listener} (h : l ∈ ((listeners rt s).2.process.runtime rt').listeners) :
    l ∈ (s.process.runtime rt').listeners := by
  obtain h | ⟨rfl, h⟩ := mem_relisted h
  · exact h
  · exact (mem_listeners.1 h).1

theorem mem_subscribed {l l' : Listener} (h : l' ∈ ((subscribe (.runtime rt) l s).2.process.runtime rt').listeners) :
    l' ∈ (s.process.runtime rt').listeners ∨ l' = l := by
  rw [subscribe_runtime] at h
  obtain h | ⟨rfl, h⟩ := mem_relisted h
  · exact .inl (mem_pruned h)
  · exact (List.mem_append.1 h).imp (fun h => (mem_listeners.1 h).1) List.mem_singleton.1

/-! ## Sites with a residue -/

/-- The engines and recorders of the sites correspond, but for engine `e` of the second,
    which is gone. No recorder objects to a breakpoint. -/
structure Counterparts (e : Nat) (s s' : Site π α) : Prop where
  recent : e ≤ s.slots.size
  size : s'.slots.size = s.slots.size + 1
  slots : ∀ id : EngineId, s'.slots.get? (id.past e) = s.slots.get? id
  gone : s'.alive ⟨e⟩ = false
  stances : s'.stance? = s.stance?
  mute : ∀ id, (s.stance? id).bind Prod.fst = none
  extra : s'.extra = s.extra

/-- The second site is the first, with what engine `e` left behind when it was given up. -/
structure Residue (e : Nat) (left : RuntimeId → OperationId → Prop) (s s' : Site π α) : Prop
    extends Counterparts e s s' where
  world : s.world.Same left s'.world
  known : ∀ rt (id : EngineId), .engine id ∈ (s'.process.runtime rt).listeners → id.val < s'.slots.size
  listeners : ∀ rt, (Site.listeners rt s').1 = (Site.listeners rt s).1.map (Listener.past e)

namespace Counterparts

variable (h : Counterparts e s s')

include h

theorem alive (id : EngineId) : s'.alive (id.past e) = s.alive id := by
  rw [Site.alive, h.slots]
  rfl

theorem isDetached (l : Listener) : s'.isDetached (l.past e) = s.isDetached l := by
  cases l with
  | engine id => exact congrArg not (h.alive id)
  | recorder id => exact (isDetached_recorder s' id).trans (h.stances ▸ (isDetached_recorder s id).symm)

theorem contains (id : EngineId) : s'.slots.contains (id.past e) = s.slots.contains id := by
  rw [Table.contains, h.slots]
  rfl

/-- What the world is makes no difference. -/
theorem inWorld (w w' : World) (ns ns' : List (ThreadId × Notice)) :
    Counterparts e { s with world := w, notices := ns } { s' with world := w', notices := ns' } :=
  ⟨h.recent, h.size, h.slots, h.gone, h.stances, h.mute, h.extra⟩

/-- Both sites have a slot written over. -/
theorem insert {new : Slot π} (hf : s.slots.get? id = some slot) :
    Counterparts e { s with slots := s.slots.insert id new } { s' with slots := s'.slots.insert (id.past e) new } := by
  have hc : s.slots.contains id = true := by rw [Table.contains, hf]; rfl
  have hc' : s'.slots.contains (id.past e) = true := (h.contains id).trans hc
  refine ⟨?_, ?_, fun j => ?_, ?_, h.stances, h.mute, h.extra⟩
  · show e ≤ (s.slots.insert id new).size
    rw [Table.size_insert, if_pos hc]
    exact h.recent
  · show (s'.slots.insert _ new).size = (s.slots.insert id new).size + 1
    rw [Table.size_insert, Table.size_insert, if_pos hc, if_pos hc', h.size]
  · show (s'.slots.insert _ new).get? _ = (s.slots.insert id new).get? j
    rw [Table.get?_insert, Table.get?_insert, h.slots]
    simp only [EngineId.past_inj]
  · show ((s'.slots.insert _ new).get? _).any Slot.alive = false
    rw [Table.get?_insert, if_neg (EngineId.past_ne e id).symm]
    exact h.gone

end Counterparts

theorem Fading.insert {new : Slot π} (hf : s.slots.get? id = some slot) (ha : new.alive = true → slot.alive = true) :
    s.Fading { s with slots := s.slots.insert id new } := by
  have hc : s.slots.contains id = true := by rw [Table.contains, hf]; rfl
  refine ⟨fun _ => rfl, fun l hl => ?_, ?_⟩
  · cases l with
    | recorder j => exact hl
    | engine j =>
      show (!((s.slots.insert id new).get? j).any Slot.alive) = true
      rw [Table.get?_insert]
      split
      · rename_i hj
        rw [hj, isDetached, alive_iff hf] at hl
        cases hnew : new.alive with
        | false => simp [hnew]
        | true => rw [ha hnew] at hl; cases hl
      · exact hl
  · show (s.slots.insert id new).size = _
    rw [Table.size_insert, if_pos hc]

namespace Residue

variable (h : Residue e left s s')

include h

/-- What both sites keep of their listeners still corresponds when more are struck off. -/
theorem fading (hc : Counterparts e n n') (hw : n.world.Same left n'.world) (hf : s.Fading n) (hf' : s'.Fading n') :
    Residue e left n n' := by
  refine ⟨hc, hw, fun rt id hid => ?_, fun rt => ?_⟩
  · rw [hf'.size]
    exact h.known rt id (hf'.listeners rt ▸ hid)
  · rw [hf.kept, hf'.kept, h.listeners, List.filter_map]
    congr 1
    exact List.filter_congr fun l _ => congrArg not (hc.isDetached l)

/-- The worlds moved on, and notices were given. -/
theorem inWorld {w w' : World} (hw : w.Same left w')
    (hl : ∀ rt, (w.process.runtime rt).listeners = (s.process.runtime rt).listeners)
    (hl' : ∀ rt, (w'.process.runtime rt).listeners = (s'.process.runtime rt).listeners)
    (ns ns' : List (ThreadId × Notice)) :
    Residue e left { s with world := w, notices := ns } { s' with world := w', notices := ns' } :=
  h.fading (h.toCounterparts.inWorld _ _ _ _) hw (Fading.refl.inWorld hl _) (Fading.refl.inWorld hl' _)

/-- The processes moved on. -/
theorem inProcess {p p' : Process} (hp : p.Same left p')
    (hl : ∀ rt, (p.runtime rt).listeners = (s.process.runtime rt).listeners)
    (hl' : ∀ rt, (p'.runtime rt).listeners = (s'.process.runtime rt).listeners) :
    Residue e left { s with world := { s.world with process := p } }
      { s' with world := { s'.world with process := p' } } := by
  have hw : World.Same left { s.world with process := p } { s'.world with process := p' } := ⟨hp, h.world.stage⟩
  exact h.inWorld hw hl hl' _ _

/-- Both sites have a slot written over, by one that is no more alive. -/
theorem insert {new : Slot π} (hf : s.slots.get? id = some slot) (ha : new.alive = true → slot.alive = true) :
    Residue e left { s with slots := s.slots.insert id new }
      { s' with slots := s'.slots.insert (id.past e) new } :=
  h.fading (h.toCounterparts.insert hf) h.world (.insert hf ha) (.insert ((h.slots id).trans hf) ha)

/-- Recorders were told something, or switched off. -/
theorem recorders {r r' : Table RecorderId Recorder}
    (hs : { s' with recorders := r' }.stance? = { s with recorders := r }.stance?)
    (hmute : ∀ id, ({ s with recorders := r }.stance? id).bind Prod.fst = none)
    (hoff : ∀ id, (s.stance? id).all Prod.snd = true → ({ s with recorders := r }.stance? id).all Prod.snd = true) :
    Residue e left { s with recorders := r } { s' with recorders := r' } := by
  have hdetached : ∀ {s : Site π α} {r : Table RecorderId Recorder}, (∀ id, (s.stance? id).all Prod.snd = true →
      ({ s with recorders := r }.stance? id).all Prod.snd = true) →
      ∀ l, s.isDetached l = true → { s with recorders := r }.isDetached l = true := by
    intro s r hoff l hl
    cases l with
    | engine id => exact hl
    | recorder id =>
      rw [isDetached_recorder] at hl ⊢
      exact hoff id hl
  refine h.fading ⟨h.recent, h.size, h.slots, h.gone, hs, hmute, h.extra⟩ h.world ⟨fun _ => rfl, hdetached hoff, rfl⟩
    ⟨fun _ => rfl, hdetached fun id hid => ?_, rfl⟩
  rw [hs]
  exact hoff id (h.stances ▸ hid)

end Residue

/-! ## Small plays -/

/-- The play on the first site and the play on the second give the same, and end with the
    residue. -/
abbrev Alike (e : Nat) (left : RuntimeId → OperationId → Prop) (x x' : Play π α β) : Prop :=
  Mirrors (Residue e left) Eq x x'

theorem inProcess_residue {f : Process → β × Process}
    (hf : ∀ p p', p.Same left p' → (f p).1 = (f p').1 ∧ (f p).2.Same left (f p').2)
    (hl : ∀ p rt, ((f p).2.runtime rt).listeners = (p.runtime rt).listeners) :
    Alike e left (inProcess f : Play π α β) (inProcess f) := by
  intro s s' h
  obtain ⟨hsaid, hsame⟩ := hf _ _ h.world.process
  exact ⟨hsaid, h.inProcess hsame (hl _) (hl _)⟩

theorem changeThread_residue (t : ThreadId) (f : Thread → Thread) :
    Alike e left (changeProcess (·.changeThread t f) : Play π α Unit) (changeProcess (·.changeThread t f)) :=
  fun _ _ h => ⟨rfl, h.inProcess (h.world.process.changeThread t f) (fun _ => rfl) fun _ => rfl⟩

theorem setBreakpoint_residue (t : ThreadId) (rt : RuntimeId) (op : OperationId) :
    Alike e left (asking (.runtime rt) t (·.setBreakpoint op) : Play π α (Except Fault Unit))
      (asking (.runtime rt) t (·.setBreakpoint op)) := by
  intro s s' h
  obtain ⟨hsaid, hworld⟩ := (World.host_mirrors (.runtime rt) t).setBreakpoint op _ _ h.world
  have hmore := fun w : World => (Process.changeRuntime_breakpoints w.process rt op).listeners
  exact ⟨hsaid, h.inWorld hworld (hmore s.world) (hmore s'.world) _ _⟩

theorem give_residue (t : ThreadId) (n : Notice) : Alike e left (give t n : Play π α Unit) (give t n) :=
  fun _ _ h => ⟨rfl, h.inWorld h.world (fun _ => rfl) (fun _ => rfl) _ _⟩

theorem changeExtra_residue (f : α → α) : Alike e left (changeExtra f : Play π α Unit) (changeExtra f) := by
  intro s s' h
  have hf : ∀ s : Site π α, s.Fading (changeExtra f s).2 := fun s => ⟨fun _ => rfl, fun _ hl => hl, rfl⟩
  refine ⟨rfl, h.fading ?_ h.world (hf s) (hf s')⟩
  exact ⟨h.recent, h.size, h.slots, h.gone, h.stances, h.mute, congrArg f h.extra⟩

theorem hear_stances (id : RecorderId) (g : Signal) (s : Site π α) : (hear id g s).2.stance? = s.stance? :=
  (hear_calm id g s (.refl s)).stances

theorem hear_residue (id : RecorderId) (g : Signal) : Alike e left (hear id g : Play π α Unit) (hear id g) := by
  intro s s' h
  have hs : (hear id g s).2.stance? = s.stance? := hear_stances id g s
  refine ⟨rfl, h.recorders ?_ (fun id => ?_) fun id hid => ?_⟩
  · exact (hear_stances id g s').trans (h.stances.trans hs.symm)
  · exact (congrArg (fun o => Option.bind (o id) Prod.fst) hs).trans (h.mute id)
  · exact (congrArg (fun o => Option.all Prod.snd (o id)) hs).trans hid

/-- An engine is taken up, put down or given up. Only one that is alive is taken up. -/
theorem Residue.changeSlot (h : Residue e left s s') {f : Slot π → Slot π}
    (hf : ∀ slot, s.slots.get? id = some slot → (f slot).alive = true → slot.alive = true) :
    Residue e left (changeSlot id f s).2 (changeSlot (id.past e) f s').2 := by
  cases hslot : s.slots.get? id with
  | none => rw [changeSlot_none hslot, changeSlot_none ((h.slots id).trans hslot)]; exact h
  | some slot =>
    rw [changeSlot_at hslot, changeSlot_at ((h.slots id).trans hslot)]
    exact h.insert hslot (hf slot hslot)

/-- The engine does alike on both sites. -/
theorem acting_residue (t : ThreadId) (id : EngineId) (fallback : β) {act : Host World → Act (Engine π) World β}
    (ht : Tame act) (ha : ∀ h, Act.Impartial (World.Same left) (act (World.host h t))) :
    Alike e left (acting t id fallback act : Play π α β) (acting t (id.past e) fallback act) := by
  intro s s' h
  cases hf : s.slots.get? id with
  | none => rw [acting_none hf, acting_none ((h.slots id).trans hf)]; exact ⟨rfl, h⟩
  | some slot =>
    rw [acting_at hf, acting_at ((h.slots id).trans hf)]
    obtain ⟨hsaid, hown, hhost⟩ :=
      ha slot.host ⟨slot.engine, s.world, []⟩ ⟨slot.engine, s'.world, []⟩ ⟨rfl, h.world⟩
    refine ⟨hsaid, ?_⟩
    unfold acted
    rw [hown]
    have hslots : ∀ engine, Residue e left { s with slots := s.slots.insert id { slot with engine } }
        { s' with slots := s'.slots.insert (id.past e) { slot with engine } } := fun _ => h.insert hf fun ha => ha
    exact (hslots _).inWorld hhost (ht slot.host t slot.engine s.world).listeners
      (ht slot.host t slot.engine s'.world).listeners _ _

/-! ### Listeners -/

theorem Residue.pruned (h : Residue e left s s') (rt : RuntimeId) :
    Residue e left (Site.listeners rt s).2 (Site.listeners rt s').2 := by
  refine ⟨h.toCounterparts.inWorld _ _ _ _,
    ⟨h.world.process.changeListeners rt _ _, h.world.stage⟩, fun rt' id hid => h.known rt' id (mem_pruned hid),
    fun rt' => ?_⟩
  rw [kept_pruned, kept_pruned]
  exact h.listeners rt'

/-- Striking listeners off in the second site alone makes no difference. -/
theorem Residue.pruned_right (h : Residue e left s s') (rt : RuntimeId) :
    Residue e left s (Site.listeners rt s').2 := by
  refine ⟨h.toCounterparts.inWorld _ _ _ _,
    ⟨h.world.process.changeListeners_right rt _, h.world.stage⟩, fun rt' id hid => h.known rt' id (mem_pruned hid),
    fun rt' => ?_⟩
  rw [kept_pruned]
  exact h.listeners rt'

theorem listeners_residue (rt : RuntimeId) :
    Mirrors (Residue e left) (fun ls ls' => ls' = ls.map (Listener.past e))
      (listeners rt : Play π α (List Listener)) (listeners rt) :=
  fun _ _ h => ⟨h.listeners rt, h.pruned rt⟩

theorem Residue.subscribe (h : Residue e left s s') (rt : RuntimeId) {l : Listener}
    (hl : ∀ id, l = .engine id → id.val < s.slots.size) :
    Residue e left (Site.subscribe (.runtime rt) l s).2 (Site.subscribe (.runtime rt) (l.past e) s').2 := by
  refine ⟨h.toCounterparts.inWorld _ _ _ _,
    ⟨(h.world.process.changeListeners rt _ _).changeListeners rt _ _, h.world.stage⟩, fun rt' id hid => ?_,
    fun rt' => ?_⟩
  · show id.val < s'.slots.size
    obtain hid | hid := mem_subscribed hid
    · exact h.known rt' id hid
    · cases l with
      | recorder j => cases hid
      | engine j =>
        have hj := hl j rfl
        have hpast := EngineId.past_val e j
        rw [Listener.engine.inj hid, h.size, hpast]
        split <;> omega
  · have hlast : [l.past e].filter (fun l => !s'.isDetached l) =
        ([l].filter fun l => !s.isDetached l).map (Listener.past e) := by
      rw [List.filter_singleton, List.filter_singleton, h.isDetached]
      cases s.isDetached l <;> rfl
    rw [kept_subscribe, kept_subscribe]
    split
    · rw [hlast, h.listeners, List.map_append]
    · exact h.listeners rt'

/-! ## What is told -/

/-- Both runtimes tell the same listeners. -/
theorem telling_residue {f : Listener → Play π α Unit} (hf : ∀ l, Alike e left (f l) (f (l.past e))) (rt : RuntimeId) :
    Alike e left (do (← listeners rt).forM f) (do (← listeners rt).forM f) := by
  refine (listeners_residue rt).bind fun ls ls' hls => ?_
  rw [hls]
  exact Mirrors.forM_map _ hf ls

theorem tellTypeLoaded_residue (t : ThreadId) (owner : String) (l : Listener) :
    Alike e left (tellTypeLoaded t owner l : Play π α Unit) (tellTypeLoaded t owner (l.past e)) := by
  cases l with
  | recorder id => exact hear_residue id _
  | engine id =>
    intro s s' h
    rw [Listener.past, tellTypeLoaded_engine, tellTypeLoaded_engine, h.alive]
    split
    · exact acting_residue t id () (resolveType_tame owner)
        (fun host => resolveType_impartial (World.host_mirrors host t) owner) s s' h
    · exact ⟨rfl, h⟩

theorem tellThreadDeclared_residue (t thread : ThreadId) (l : Listener) :
    Alike e left (tellThreadDeclared t thread l : Play π α Unit) (tellThreadDeclared t thread (l.past e)) := by
  cases l with
  | recorder id => exact hear_residue id _
  | engine id =>
    intro s s' h
    rw [Listener.past, tellThreadDeclared_engine, tellThreadDeclared_engine, h.alive]
    split
    · exact acting_residue t id () (threadDeclared_tame thread) (fun _ => threadDeclared_impartial thread) s s' h
    · exact ⟨rfl, h⟩

theorem announceType_residue (t : ThreadId) (rt : RuntimeId) (owner : String) :
    Alike e left (announceType t rt owner : Play π α Unit) (announceType t rt owner) :=
  (give_residue t _).andThen fun _ => telling_residue (fun l => tellTypeLoaded_residue t owner l) rt

theorem declare_residue (t : ThreadId) (rt : RuntimeId) (capabilities : List String) :
    Alike e left (declare t rt capabilities : Play π α Unit) (declare t rt capabilities) :=
  (changeThread_residue t _).andThen fun _ => telling_residue (fun l => tellThreadDeclared_residue t t l) rt

/-! ## Definitions -/

theorem catalogue_residue (rt : RuntimeId) (m : MemberRef) :
    Alike e left (inProcess (·.catalogue rt m) : Play π α (OperationId × Bool)) (inProcess (·.catalogue rt m)) := by
  refine inProcess_residue (fun _ _ h => h.catalogue rt m) fun p rt' => ?_
  rw [Process.runtime_catalogue]
  split <;> rfl

theorem define_residue (t : ThreadId) (rt : RuntimeId) (m : MemberRef) :
    Alike e left (define t rt m : Play π α OperationId) (define t rt m) :=
  (catalogue_residue rt m).andThen fun _ => Mirrors.ite
    ((announceType_residue t rt m.owner).andThen fun _ => Mirrors.pure rfl) (Mirrors.pure rfl)

theorem catalogueAll_residue (rt : RuntimeId) (ms : List MemberRef) :
    Alike e left (catalogueAll rt ms : Play π α (List String)) (catalogueAll rt ms) := by
  induction ms with
  | nil => exact Mirrors.pure rfl
  | cons m ms ih => exact (catalogue_residue rt m).andThen fun _ => ih.andThen fun _ => Mirrors.pure rfl

theorem defineAll_residue (t : ThreadId) (rt : RuntimeId) (ms : List MemberRef) :
    Alike e left (defineAll t rt ms : Play π α Unit) (defineAll t rt ms) :=
  (catalogueAll_residue rt ms).andThen fun _ => Mirrors.forM (fun owner => announceType_residue t rt owner) _

theorem pushFrame_residue (t : ThreadId) (rt : RuntimeId) (m : MemberRef) :
    Alike e left (pushFrame t rt m : Play π α FrameGuard) (pushFrame t rt m) :=
  (define_residue t rt m).andThen fun op => inProcess_residue
    (fun _ _ h => ⟨congrArg (fun th : Thread => FrameGuard.mk op th.frames.length) (h.thread t).symm,
      h.changeThread t (·.push op)⟩)
    fun _ _ => rfl

/-! ## Builds -/

theorem Rostered.known (hr : s.Rostered) (ho : s.Orderly) (rt : RuntimeId) (id : EngineId)
    (hid : .engine id ∈ (s.process.runtime rt).listeners) : id.val < s.slots.size :=
  ho.lt (hr.housed rt id (mem_engines.2 hid))

/-- An engine that nobody listens for yet makes no difference to those who listen. -/
theorem kept_gained (hk : ∀ id, .engine id ∈ (s.process.runtime rt).listeners → id.val < s.slots.size)
    (slot : Slot π) : (listeners rt (s.gained slot)).1 = (listeners rt s).1 := by
  refine List.filter_congr fun l hl => ?_
  cases l with
  | recorder id => rfl
  | engine id =>
    have hne : id ≠ ⟨s.slots.size⟩ := by
      rintro rfl
      exact Nat.lt_irrefl _ (hk _ hl)
    show (!!((s.slots.insert _ slot).get? id).any Slot.alive) = (!!(s.slots.get? id).any Slot.alive)
    rw [Table.get?_insert, if_neg hne]

theorem size_gained (hfresh : s.slots.contains ⟨s.slots.size⟩ = false) (slot : Slot π) :
    (s.gained slot).slots.size = s.slots.size + 1 := by
  show (s.slots.insert _ slot).size = _
  rw [Table.size_insert, hfresh]
  rfl

theorem Residue.gained (h : Residue e left s s') (ho : s.Orderly) (hr : s.Rostered) (slot : Slot π) :
    Residue e left (s.gained slot) (s'.gained slot) := by
  have hnew : EngineId.past e ⟨s.slots.size⟩ = ⟨s'.slots.size⟩ := by rw [EngineId.past_new h.recent, h.size]
  have hfresh : s'.slots.contains ⟨s'.slots.size⟩ = false := by rw [← hnew, h.contains, ho.fresh]
  have hsize := size_gained ho.fresh slot
  have hsize' := size_gained hfresh slot
  have hlt := h.recent
  refine ⟨⟨?_, ?_, fun id => ?_, ?_, h.stances, h.mute, h.extra⟩, h.world, fun rt id hid => ?_, fun rt => ?_⟩
  · omega
  · rw [hsize, hsize', h.size]
  · show (s'.slots.insert _ slot).get? _ = (s.slots.insert _ slot).get? id
    rw [Table.get?_insert, Table.get?_insert, h.slots, ← hnew]
    simp only [EngineId.past_inj]
  · show ((s'.slots.insert _ slot).get? _).any Slot.alive = false
    rw [Table.get?_insert, if_neg fun he => ?_]
    · exact h.gone
    · have := congrArg EngineId.val he
      have := h.size
      simp only at *
      omega
  · have := h.known rt id hid
    omega
  · rw [kept_gained (h.known rt), kept_gained (hr.known ho rt)]
    exact h.listeners rt

/-- A build comes to the same, but for the number. -/
theorem build_residue (h : Residue e left s s') (ho : s.Orderly) (hr : s.Rostered) (t : ThreadId) (rt : RuntimeId)
    (plan : Plan π) :
    (build t (.runtime rt) plan s').1 =
        ((build t (.runtime rt) plan s).1.1.map (EngineId.past e), (build t (.runtime rt) plan s).1.2) ∧
      Residue e left (build t (.runtime rt) plan s).2 (build t (.runtime rt) plan s').2 := by
  cases hb : plan.build.1 with
  | error f => rw [build_error hb, build_error hb]; exact ⟨rfl, h⟩
  | ok engine =>
    have hnew : EngineId.past e ⟨s.slots.size⟩ = ⟨s'.slots.size⟩ := by rw [EngineId.past_new h.recent, h.size]
    rw [build_ok hb, build_ok hb, ← hnew]
    refine ⟨rfl, (acting_residue t _ () start_tame (fun host => start_impartial (World.host_mirrors host t)) _ _ ?_).2⟩
    have hgained := h.gained ho hr { engine, host := .runtime rt }
    refine hgained.subscribe rt fun id hid => ?_
    rw [← Listener.engine.inj hid, size_gained ho.fresh]
    exact Nat.lt_succ_self _

/-! ## The engine that is given up -/

/-- One more engine was built, and is gone. -/
theorem Orderly.counterparts (ho : s.Orderly) (hmute : ∀ id, (s.stance? id).bind Prod.fst = none)
    (hslots : s'.slots = s.slots.insert ⟨s.slots.size⟩ slot) (hgone : slot.alive = false)
    (hstances : s'.stance? = s.stance?) (hextra : s'.extra = s.extra) : Counterparts s.slots.size s s' := by
  refine ⟨Nat.le_refl _, ?_, fun id => ?_, ?_, hstances, hmute, hextra⟩
  · rw [hslots, Table.size_insert, ho.fresh]
    rfl
  · have hnone : ∀ k : EngineId, s.slots.size ≤ k.val → s.slots.get? k = none := fun k hk => by
      cases hf : s.slots.get? k with
      | none => rfl
      | some slot => exact absurd (ho.numbered k (by rw [Table.contains, hf]; rfl)) (Nat.not_lt.2 hk)
    rw [hslots, Table.get?_insert, if_neg (EngineId.past_ne _ id)]
    by_cases hid : id.val < s.slots.size
    · rw [EngineId.past_old hid]
    · rw [hnone id (Nat.not_lt.1 hid), hnone]
      rw [EngineId.past_val, if_neg hid]
      omega
  · rw [alive, hslots, Table.get?_insert, if_pos rfl]
    exact hgone

/-- The site once an engine was built. -/
theorem built_at {plan : Plan π} {engine : Engine π} (hb : plan.build.1 = .ok engine) (t : ThreadId) (h : HostId)
    (s : Site π α) :
    let g := (subscribe h (.engine ⟨s.slots.size⟩) (s.gained { engine, host := h })).2
    let x := (start (World.host h t) ⟨engine, g.world, []⟩).2
    (build t h plan s).2 = { g with
      world := x.host
      slots := s.slots.insert ⟨s.slots.size⟩ { engine := x.own, host := h }
      notices := g.notices ++ x.notices.map (t, ·) } := by
  intro g x
  have hslots : g.slots = s.slots.insert ⟨s.slots.size⟩ { engine, host := h } := (subscribe_quiet h _ _).slots
  have hfound : g.slots.get? ⟨s.slots.size⟩ = some { engine, host := h } := by
    rw [hslots, Table.get?_insert, if_pos rfl]
  rw [build_ok hb]
  show (acting t _ () (fun host => start host) g).2 = _
  rw [acting_at hfound]
  unfold acted
  rw [hslots, Table.insert_insert]

/-- It is there, and alive. -/
theorem built_found {plan : Plan π} {engine : Engine π} (hb : plan.build.1 = .ok engine) (t : ThreadId) (h : HostId)
    (s : Site π α) :
    ∃ engine', (build t h plan s).2.slots.get? ⟨s.slots.size⟩ = some { engine := engine', host := h } := by
  have hbuilt := built_at hb t h s
  dsimp only at hbuilt
  rw [hbuilt]
  exact ⟨_, (Table.get?_insert ..).trans (if_pos rfl)⟩

/-- The site once the engine was given up as well. -/
theorem gone_at {plan : Plan π} {engine : Engine π} (hb : plan.build.1 = .ok engine) (t : ThreadId) (h : HostId)
    (s : Site π α) :
    let g := (subscribe h (.engine ⟨s.slots.size⟩) (s.gained { engine, host := h })).2
    let x := (start (World.host h t) ⟨engine, g.world, []⟩).2
    (disown ⟨s.slots.size⟩ (build t h plan s).2).2 = { g with
      world := x.host
      slots := s.slots.insert ⟨s.slots.size⟩ { engine := x.own, host := h, owned := false }
      notices := g.notices ++ x.notices.map (t, ·) } := by
  intro g x
  show (changeSlot _ _ (build t h plan s).2).2 = _
  rw [built_at hb, changeSlot_at ((Table.get?_insert ..).trans (if_pos rfl))]
  dsimp only
  rw [Table.insert_insert]

/-- All that has changed in the world by then are breakpoints, and who listens. -/
theorem gone_same {plan : Plan π} {engine : Engine π} (hb : plan.build.1 = .ok engine) (t : ThreadId) (rt : RuntimeId)
    (s : Site π α) :
    let s' := (disown ⟨s.slots.size⟩ (build t (.runtime rt) plan s).2).2
    s.world.Same (fun rt op => (s'.process.runtime rt).breaksAt op = true) s'.world := by
  intro s'
  let g := (subscribe (.runtime rt) (.engine ⟨s.slots.size⟩) (s.gained { engine, host := .runtime rt })).2
  let x := (start (World.host (.runtime rt) t) ⟨engine, g.world, []⟩).2
  have hworld : s'.world = x.host := congrArg Site.world (gone_at hb t (.runtime rt) s)
  have hquiet : (s.gained { engine, host := .runtime rt }).Quiet g := subscribe_quiet _ _ _
  have hmore : g.process.MoreBreakpoints s'.process := by
    show g.process.MoreBreakpoints s'.world.process
    rw [hworld]
    exact start_tame (.runtime rt) t engine g.world
  have hstage : x.host.stage = s.world.stage := by
    have hk : (World.host (.runtime rt) t).Keeps fun w => w.stage = s.world.stage :=
      ⟨World.host_reads rt t _, fun _ _ hw => hw⟩
    exact (start_keeps aside_true hk ⟨engine, g.world, []⟩ ⟨trivial, rfl⟩).host
  refine ⟨⟨hmore.threads, hmore.nextThread, hmore.nextOperation, fun rt' => ?_, fun rt' op hop => ?_⟩, ?_⟩
  · exact (hmore.members rt').trans (hquiet.alike.members rt')
  · exact hop.elim id fun hop => hmore.breaks rt' op (hquiet.breaks rt' op hop)
  · rw [hworld, hstage]

theorem gone_counterparts (ho : s.Orderly) (hmute : ∀ id, (s.stance? id).bind Prod.fst = none) {plan : Plan π}
    {engine : Engine π} (hb : plan.build.1 = .ok engine) (t : ThreadId) (rt : RuntimeId) :
    Counterparts s.slots.size s (disown ⟨s.slots.size⟩ (build t (.runtime rt) plan s).2).2 := by
  have hgone := gone_at hb t (.runtime rt) s
  dsimp only at hgone
  rw [hgone]
  exact ho.counterparts hmute rfl rfl rfl rfl

/-- Since it was subscribed nobody was, and it alone was struck off. -/
theorem gone_fading {plan : Plan π} {engine : Engine π} (hb : plan.build.1 = .ok engine) (t : ThreadId) (h : HostId)
    (s : Site π α) :
    (subscribe h (.engine ⟨s.slots.size⟩) (s.gained { engine, host := h })).2.Fading
      (disown ⟨s.slots.size⟩ (build t h plan s).2).2 := by
  let slot : Slot π := { engine, host := h }
  let g := (subscribe h (.engine ⟨s.slots.size⟩) (s.gained slot)).2
  let x := (start (World.host h t) ⟨engine, g.world, []⟩).2
  let ended : Slot π := { engine := x.own, host := h, owned := false }
  have hslots : g.slots = s.slots.insert ⟨s.slots.size⟩ slot := (subscribe_quiet h _ _).slots
  have hfound : g.slots.get? ⟨s.slots.size⟩ = some slot := by rw [hslots, Table.get?_insert, if_pos rfl]
  have hover : g.Fading { g with slots := g.slots.insert ⟨s.slots.size⟩ ended } := .insert hfound fun _ => rfl
  have hgone := gone_at hb t h s
  dsimp only at hgone
  rw [hgone]
  rw [hslots, Table.insert_insert] at hover
  exact hover.inWorld (start_tame h t engine g.world).listeners _

/-- The runtimes tell those whom they told before. The engine stood last among them, and is
    struck off. -/
theorem gone_kept (ho : s.Orderly) (hr : s.Rostered) (hmute : ∀ id, (s.stance? id).bind Prod.fst = none)
    {plan : Plan π} {engine : Engine π} (hb : plan.build.1 = .ok engine) (t : ThreadId) (rt rt' : RuntimeId) :
    (listeners rt' (disown ⟨s.slots.size⟩ (build t (.runtime rt) plan s).2).2).1 =
      (listeners rt' s).1.map (Listener.past s.slots.size) := by
  have hc := gone_counterparts ho hmute hb t rt
  have hfading := gone_fading hb t (.runtime rt) s
  generalize (disown ⟨s.slots.size⟩ (build t (.runtime rt) plan s).2).2 = s' at hc hfading ⊢
  have hold : ∀ l ∈ (listeners rt' s).1, l.past s.slots.size = l := by
    intro l hl
    cases l with
    | recorder k => rfl
    | engine k => exact congrArg Listener.engine (EngineId.past_old (hr.known ho rt' k (mem_listeners.1 hl).1))
  have hkept : (listeners rt' s).1.filter (fun l => !s'.isDetached l) = (listeners rt' s).1 := by
    refine List.filter_eq_self.2 fun l hl => ?_
    rw [← hold l hl, hc.isDetached, (mem_listeners.1 hl).2]
    rfl
  have hlast : ∀ q : Listener → Bool,
      ([Listener.engine ⟨s.slots.size⟩].filter q).filter (fun l => !s'.isDetached l) = [] := fun q => by
    rw [List.filter_filter]
    exact List.filter_eq_nil_iff.2 fun l hl => by
      rw [List.mem_singleton.1 hl, isDetached, hc.gone]
      exact Bool.false_ne_true
  rw [hfading.kept, kept_subscribe, kept_gained (hr.known ho rt), kept_gained (hr.known ho rt'),
    List.map_congr_left hold, List.map_id']
  split
  · rename_i hrt
    rw [List.filter_append, ← hrt, hkept, hlast, List.append_nil]
  · exact hkept

/-- An engine that is built and given up at once leaves a residue. -/
theorem build_gone (ho : s.Orderly) (hr : s.Rostered) (hmute : ∀ id, (s.stance? id).bind Prod.fst = none)
    {plan : Plan π} {engine : Engine π} (hb : plan.build.1 = .ok engine) (t : ThreadId) (rt : RuntimeId) :
    let s' := (disown ⟨s.slots.size⟩ (build t (.runtime rt) plan s).2).2
    Residue s.slots.size (fun rt op => (s'.process.runtime rt).breaksAt op = true) s s' := by
  intro s'
  have hc : Counterparts s.slots.size s s' := gone_counterparts ho hmute hb t rt
  refine ⟨hc, gone_same hb t rt s, fun rt' k hk => ?_, gone_kept ho hr hmute hb t rt⟩
  rw [(gone_fading hb t (.runtime rt) s).listeners] at hk
  rw [hc.size]
  obtain hk | hk := mem_subscribed hk
  · exact Nat.lt_succ_of_lt (hr.known ho rt' k hk)
  · rw [Listener.engine.inj hk]
    exact Nat.lt_succ_self _

end Site

end StallGuard
