/-
  StallGuard.Proofs.Remembering — what engines remember of threads.

  An engine comes to keep a verdict in one way only: a thread has itself classified, and
  the host says what the thread is just then. Verdicts go when they are forgotten, and an
  engine begins with none. A set of registers that is not left by these (`Upheld`) is not
  left by anything, so what is to be known of kept verdicts in every reachable site is
  proved of these alone.
  - `Use.act_upheld`: whatever an engine is asked to do.
  - `Move.upholds`: one move, whatever it is, for every engine alive on a runtime.
  - `declare_slots`: a declaration drops the verdict on the thread from every engine that is
    alive on the runtime, and changes no other engine.
-/

import StallGuard.Proofs.Enduring
import StallGuard.Proofs.Learning
import StallGuard.Proofs.Roster

namespace StallGuard

open Engine Site

variable {π α β : Type} {s s' : Site π α} {rt : RuntimeId} {id : EngineId} {past : List Event}
  {K : ThreadRegister → Prop} {told : ThreadInfo → Prop}

/-- What does not end when a verdict is forgotten, nor when one is kept of a thread of which
    the host says what `told` allows; `K` holds of a register that keeps none. -/
structure ThreadRegister.Upheld (K : ThreadRegister → Prop) (told : ThreadInfo → Prop) : Prop where
  none_kept : ∀ r, r.verdicts = .empty → K r
  forgets : ∀ r t, K r → K { r with verdicts := r.verdicts.erase t }
  keeps : ∀ r i, told i → r.isVolatile i = false → K r →
    K { r with verdicts := r.verdicts.insert i.thread (r.restricts i) }

/-- What the host says of the thread is allowed. -/
def World.TellsOf (told : ThreadInfo → Prop) (t : ThreadId) (w : World) : Prop := told ((w.process.thread t).info t)

theorem World.host_keeps_tellsOf (rt : RuntimeId) (t t' : ThreadId) (told : ThreadInfo → Prop) :
    (World.host (.runtime rt) t).Keeps (World.TellsOf told t') := ⟨World.host_reads rt t _, fun _ _ h => h⟩

/-- The host says this of the thread. -/
def World.Tells (i : ThreadInfo) (w : World) : Prop := (w.process.thread i.thread).info i.thread = i

theorem World.Tells.tellsOf {i : ThreadInfo} {w : World} (h : w.Tells i) (t : ThreadId) :
    w.TellsOf (fun i' => i'.thread = i.thread → i' = i) t := by
  rintro rfl
  exact h

/-! ## Acts -/

/-- A thread learns from the runtime what it is itself, and nothing of others. -/
theorem Monitor.upheld_endures (hK : ThreadRegister.Upheld K told) (rt : RuntimeId) (t : ThreadId) :
    Monitor.Endures (World.host (.runtime rt) t) (World.TellsOf told t) (fun m => K m.register) := by
  refine ⟨World.host_reads rt t _, fun _ _ _ h => h, fun m w w' asked i htells hask hsteady hm => ?_⟩
  rw [World.host_threadInfo] at hask
  split at hask
  · rename_i hself
    obtain rfl := Except.ok.inj (Prod.mk.inj hask).1
    subst hself
    exact hK.keeps m.register _ htells hsteady hm
  · cases (Prod.mk.inj hask).1

namespace Engine

theorem upheld_aside (K : ThreadRegister → Prop) : Aside (fun e : Engine π => K e.monitor.register) :=
  fun _ _ _ _ h => h

theorem forget_upheld {σ : Type} {I : σ → Prop} (hK : ThreadRegister.Upheld K told) (t : ThreadId) :
    Keeps (Scene.Within (fun e => K e.monitor.register) I) (watch (Monitor.forget t) : Act (Engine π) σ Bool) :=
  watch_keeps fun _ => Keeps.bind Act.own_keeps fun _ =>
    Keeps.bind (Act.change_keeps fun m hm => hK.forgets m.register t hm) fun _ => Keeps.pure _

theorem threadDeclared_upheld {σ : Type} {I : σ → Prop} (hK : ThreadRegister.Upheld K told) (t : ThreadId) :
    Keeps (Scene.Within (fun e => K e.monitor.register) I) (threadDeclared t : Act (Engine π) σ Unit) :=
  Keeps.bind (forget_upheld hK t) fun _ => Act.give_keeps _

end Engine

/-- Whatever an engine is asked to do by a thread of which the host says what is allowed. -/
theorem Use.act_upheld (hK : ThreadRegister.Upheld K told) (u : Use) (id : EngineId) (rt : RuntimeId) (t : ThreadId) :
    Keeps (Scene.Within (fun e => K e.monitor.register) (World.TellsOf told t))
      (u.act id (World.host (.runtime rt) t) : Act (Engine π) World (List Event)) := by
  have hk := World.host_keeps_tellsOf rt t t told
  have hJ := @Engine.upheld_aside π K
  have hE := Monitor.upheld_endures hK rt t
  have hchecks : ∀ {γ : Type} {a : Act Monitor World γ},
      Keeps (Scene.Within (fun m => K m.register) (World.TellsOf told t)) a →
      Keeps (Scene.Within (fun e => K e.monitor.register) (World.TellsOf told t))
        (watch a : Act (Engine π) World γ) := fun ha => watch_keeps fun _ => ha
  cases u with
  | request owner name a =>
    exact Keeps.bind (registerHook_keeps hJ (fun _ _ h => h) hk owner name a) fun _ => Keeps.pure _
  | resolve owner => exact Keeps.bind (resolveType_keeps hJ hk owner) fun _ => Keeps.pure _
  | isRestricted asked => exact Keeps.bind (hchecks (Monitor.isRestricted_endures hE asked)) fun _ => Keeps.pure _
  | forget asked => exact Keeps.bind (Engine.forget_upheld hK asked) fun _ => Keeps.pure _
  | classify asked start => exact Keeps.bind (hchecks (Monitor.classify_endures hE asked start)) fun _ => Keeps.pure _
  | check asked op start => exact Keeps.bind (hchecks (Monitor.check_endures hE asked op start)) fun _ => Keeps.pure _
  | reached op =>
    refine Keeps.bind Act.own_keeps fun e => Keeps.ite (fun _ => ?_) fun _ => Keeps.pure _
    exact Keeps.bind (Engine.mark_keeps hJ _) fun _ => Keeps.pure _
  | bind m entry =>
    exact Keeps.bind (Engine.bindNative_keeps hJ (fun _ _ h => h) hk m entry) fun _ => Keeps.pure _
  | hook op k => exact Keeps.bind (Engine.setHook_keeps hJ op k) fun _ => Keeps.pure _

/-! ## Plays -/

/-- Of every engine that is alive on the runtime. -/
def Site.Upholds (rt : RuntimeId) (K : ThreadRegister → Prop) (s : Site π α) : Prop :=
  ∀ id slot, s.slots.get? id = some slot → slot.host = .runtime rt → slot.alive = true → K slot.engine.monitor.register

namespace Site

theorem Upholds.of_same (h : s.Upholds rt K) (hs : s'.slots = s.slots) : s'.Upholds rt K := fun id slot hf =>
  h id slot (hs ▸ hf)

theorem Upholds.imp {K' : ThreadRegister → Prop} (h : s.Upholds rt K) (hK : ∀ r, K r → K' r) : s.Upholds rt K' :=
  fun id slot hf hh ha => hK _ (h id slot hf hh ha)

/-- What engines learn of types does not touch what they keep of threads. -/
theorem Teaches.upholds (ht : s.Teaches s') (h : s.Upholds rt K) : s'.Upholds rt K := by
  intro id slot' hf' hh ha
  obtain ⟨slot, e, hf, ⟨m, ⟨_, _, _, _, rfl⟩, rfl⟩, rfl⟩ := ht.before hf'
  exact h id slot hf hh ha

/-- A slot that keeps its engine and host, and is not revived. -/
theorem changeSlot_upholds (h : s.Upholds rt K) {f : Slot π → Slot π}
    (he : ∀ slot, (f slot).engine = slot.engine ∧ (f slot).host = slot.host)
    (hl : ∀ slot, s.slots.get? id = some slot → (f slot).alive = true → slot.alive = true) :
    (changeSlot id f s).2.Upholds rt K := by
  cases hf : s.slots.get? id with
  | none => rw [changeSlot_none hf]; exact h
  | some slot =>
    rw [changeSlot_at hf]
    intro j other hj hh ha
    have hj' : (s.slots.insert id (f slot)).get? j = some other := hj
    rw [Table.get?_insert] at hj'
    split at hj'
    · cases hj'
      have hslot := h id slot hf ((he slot).2 ▸ hh) (hl slot hf ha)
      rwa [(he slot).1]
    · exact h j other hj' hh ha

/-- An act of one engine. -/
theorem acting_upholds (h : s.Upholds rt K) (t : ThreadId) (id : EngineId) (fallback : β)
    {act : Host World → Act (Engine π) World β}
    (hact : ∀ slot, s.slots.get? id = some slot → slot.host = .runtime rt → K slot.engine.monitor.register →
      K (act (World.host (.runtime rt) t) ⟨slot.engine, s.world, []⟩).2.own.monitor.register) :
    (acting t id fallback act s).2.Upholds rt K := by
  cases hf : s.slots.get? id with
  | none => rw [acting_none hf]; exact h
  | some slot =>
    rw [acting_at hf]
    intro j other hj hh ha
    by_cases hji : j = id
    · subst hji
      rw [acted_found] at hj
      cases hj
      have hhost : slot.host = .runtime rt := hh
      have := hact slot hf hhost (h j slot hf hhost ha)
      rw [← hhost] at this
      exact this
    · rw [acted_other hji] at hj
      exact h j other hj hh ha

theorem announceThread_upholds (hK : ThreadRegister.Upheld K told) (t : ThreadId) (rt' : RuntimeId)
    (h : s.Upholds rt K) : (announceThread t rt' s).2.Upholds rt K := by
  have htell : ∀ l, Keeps (Site.Upholds rt K) (tellThreadDeclared t t l : Play π α Unit) := by
    intro l s hs
    cases l with
    | recorder j => exact hs.of_same rfl
    | engine j =>
      rw [tellThreadDeclared_engine]
      split
      · exact acting_upholds hs t j () fun slot _ _ he =>
          (threadDeclared_upheld (I := fun _ => True) hK t ⟨slot.engine, s.world, []⟩ ⟨he, trivial⟩).own
      · exact hs
  exact Keeps.bind (fun _ hs => hs) (fun ls => Keeps.forM fun l _ => htell l) s h

theorem build_upholds (hK : ThreadRegister.Upheld K told) (t : ThreadId) (h : HostId) (plan : Plan π)
    (hs : s.Upholds rt K) : (build t h plan s).2.Upholds rt K := by
  cases hb : plan.build.1 with
  | error f => rw [build_error hb]; exact hs
  | ok e =>
    rw [build_ok hb]
    have hnew : e.monitor.register.verdicts = .empty := by
      unfold Plan.build at hb
      cases hw : plan.settings.window with
      | error f => rw [hw] at hb; cases hb
      | ok w =>
        rw [hw] at hb
        cases hb
        rfl
    have hgained : (s.gained { engine := e, host := h }).Upholds rt K := by
      intro j slot hj hh ha
      have hj' : (s.slots.insert _ _).get? j = some slot := hj
      rw [Table.get?_insert] at hj'
      split at hj'
      · cases hj'
        exact hK.none_kept _ hnew
      · exact hs j slot hj' hh ha
    exact acting_upholds (hgained.of_same (subscribe_quiet h _ _).slots) t _ () fun slot _ _ he =>
      (start_keeps (upheld_aside K) (Host.keeps_true _) ⟨slot.engine, _, []⟩ ⟨he, trivial⟩).own

end Site

/-! ## Moves -/

/-- Whatever move is made, if the host says what is allowed of the thread that uses an engine. -/
theorem Move.upholds (hK : ThreadRegister.Upheld K told) (m : Move π α)
    (ht : ∀ t j u, m = .use t j u → World.TellsOf told t s.world) (ha : m.Allowed s) (h : s.Upholds rt K) :
    (m.play s).2.Upholds rt K := by
  cases m with
  | openRuntime t' rt' ms => exact (defineAll_teaches t' rt' ms _).upholds (h.of_same rfl)
  | define t' rt' m => exact (define_teaches t' rt' m s).upholds h
  | defineAll t' rt' ms => exact (defineAll_teaches t' rt' ms s).upholds h
  | push t' rt' m => exact ((define_teaches t' rt' m s).upholds h).of_same rfl
  | declare t' rt' cs => exact announceThread_upholds hK t' rt' (h.of_same rfl)
  | listen rt' j => exact h.of_same (subscribe_quiet (.runtime rt') (.recorder j) s).slots
  | build t' host plan => exact build_upholds hK t' host plan h
  | disown j =>
    refine changeSlot_upholds h (fun _ => ⟨rfl, rfl⟩) fun slot _ hl => ?_
    simp only [Slot.alive, Bool.false_or] at hl ⊢
    rw [hl, Bool.or_true]
  | retain j =>
    refine changeSlot_upholds h (fun _ => ⟨rfl, rfl⟩) fun slot hj _ => ?_
    rw [← alive_iff hj]
    exact ha
  | release j =>
    refine changeSlot_upholds h (fun _ => ⟨rfl, rfl⟩) fun slot _ hl => ?_
    have hl' : slot.owned = true ∨ 0 < slot.uses - 1 := by simpa [Slot.alive] using hl
    rw [Slot.alive, Bool.or_eq_true, decide_eq_true_eq]
    exact hl'.imp_right fun h => by omega
  | use t' j u =>
    exact acting_upholds h t' j [] fun slot _ _ he =>
      (u.act_upheld hK j rt t' ⟨slot.engine, s.world, []⟩ ⟨he, ht t' j u rfl⟩).own
  | _ => exact h.of_same rfl

/-! ## Declarations -/

/-- The slot once its engine has dropped what it kept of the thread. -/
def Slot.forgetting (t : ThreadId) (slot : Slot π) : Slot π :=
  let m := slot.engine.monitor
  let register : ThreadRegister := { m.register with verdicts := m.register.verdicts.erase t }
  { slot with engine := { slot.engine with monitor := { m with register } } }

theorem Slot.forgetting_forgetting (t : ThreadId) (slot : Slot π) :
    (slot.forgetting t).forgetting t = slot.forgetting t := by
  simp [forgetting, Table.erase_erase]

/-- Told of a declaration, an engine that is alive drops what it kept. -/
def Slot.hearing (t : ThreadId) (slot : Slot π) : Slot π := if slot.alive = true then slot.forgetting t else slot

theorem Slot.hearing_hearing (t : ThreadId) (slot : Slot π) : (slot.hearing t).hearing t = slot.hearing t := by
  have halive : (slot.forgetting t).alive = slot.alive := rfl
  by_cases h : slot.alive = true <;> simp [hearing, h, halive, forgetting_forgetting]

theorem tellThreadDeclared_slots (t : ThreadId) (l : Listener) (s : Site π α) (id : EngineId) :
    (tellThreadDeclared t t l s).2.slots.get? id =
      (s.slots.get? id).map fun slot => if l = .engine id then slot.hearing t else slot := by
  cases l with
  | recorder j =>
    show s.slots.get? id = _
    simp
  | engine j =>
    rw [tellThreadDeclared_engine]
    cases hf : s.slots.get? j with
    | none =>
      have hsame : (if s.alive j = true then acting t j () (fun _ => threadDeclared t) s else ((), s)) = ((), s) := by
        simp [acting_none hf]
      rw [hsame]
      by_cases hid : id = j
      · simp [hid, hf]
      · simp [Ne.symm hid]
    | some slot =>
      have halive : s.alive j = slot.alive := alive_iff hf
      rw [halive, acting_at hf]
      by_cases hid : id = j
      · subst hid
        by_cases ha : slot.alive = true
        · simp only [if_pos ha, acted_found, hf, Option.map_some, Slot.hearing]
          rfl
        · simp [ha, hf, Slot.hearing]
      · by_cases ha : slot.alive = true
        · simp [ha, acted_other hid, Ne.symm hid]
        · simp [ha, Ne.symm hid]

/-- Engines that are told drop what they kept of the thread, once or more than once, and no
    other engine changes. -/
theorem forM_tellThreadDeclared_slots (t : ThreadId) (ls : List Listener) (s : Site π α) (id : EngineId) :
    (ls.forM (tellThreadDeclared t t) s).2.slots.get? id =
      (s.slots.get? id).map fun slot => if .engine id ∈ ls then slot.hearing t else slot := by
  induction ls generalizing s with
  | nil => simp
  | cons l ls ih =>
    rw [forM_cons_at, ih, tellThreadDeclared_slots, Option.map_map]
    congr 1
    funext slot
    by_cases hl : l = .engine id
    · by_cases hls : .engine id ∈ ls <;> simp [hl, hls, Slot.hearing_hearing]
    · simp [hl, Ne.symm hl]

theorem declare_slots {stage : Stage} {extra : α} (h : Run (bare stage extra) past s) (t : ThreadId)
    (rt : RuntimeId) (cs : List String) (id : EngineId) :
    (declare t rt cs s).2.slots.get? id = (s.slots.get? id).map fun slot =>
      if slot.host = .runtime rt ∧ slot.alive = true then slot.forgetting t else slot := by
  let s₁ := (changeProcess (·.changeThread t (·.declare cs)) s).2
  have hslots : (declare t rt cs s).2.slots.get? id =
      (s.slots.get? id).map fun slot => if .engine id ∈ (listeners rt s₁).1 then slot.hearing t else slot :=
    forM_tellThreadDeclared_slots t (listeners rt s₁).1 (listeners rt s₁).2 id
  rw [hslots]
  cases hf : s.slots.get? id with
  | none => rfl
  | some slot =>
    -- The runtime tells exactly the engines that are alive on it.
    have htold : .engine id ∈ (listeners rt s₁).1 ↔ slot.host = .runtime rt ∧ slot.alive = true := by
      have hs₁ : (listeners rt s₁).1 = (listeners rt s).1 := rfl
      have htold := (h.told rt).2 id
      rw [Site.told, mem_engines, host?, hf, alive_iff hf] at htold
      rw [hs₁]
      simpa using htold
    simp only [Option.map_some, htold, Slot.hearing]
    by_cases hon : slot.host = .runtime rt ∧ slot.alive = true
    · simp [hon]
    · simp [hon]

end StallGuard
