/-
  StallGuard.Proofs.Acting — what plays do to a site, and what they leave alone.

  Most of what happens on a site concerns neither the catalogues nor which engines there
  are (`Steady`), and much of it concerns no engine at all (`Quiet`: no engine changed, no
  breakpoint and no listener was lost but those of the dead). The small plays are sorted
  here into the one or the other; what is built of them follows by `Keeps`.
  - `acting_at`, `keepingAlive_acting`: letting an engine act is the act, and its slot.
  - `announceType_steady`: announcing changes no catalogue, so that
  - `define_defines`, `defineAll_defines`: a definition adds what `Process.catalogue` adds.
-/

import StallGuard.Proofs.Tending
import StallGuard.Site.Frames

namespace StallGuard

open Engine Site

variable {π α β : Type}

/-! ## Order -/

/-- The catalogues are in order, and engines are numbered as they were built. -/
structure Site.Orderly (s : Site π α) : Prop where
  catalogued : s.process.Catalogued
  numbered : ∀ id, s.slots.contains id = true → id.val < s.slots.size

/-- The catalogues gained what these definitions add; the engines are those there were. -/
structure Site.Defines (ds : List (RuntimeId × MemberRef)) (s s' : Site π α) : Prop where
  alike : (s.process.catalogueEach ds).Alike s'.process
  known : ∀ id, s'.slots.contains id = s.slots.contains id
  size : s'.slots.size = s.slots.size

/-- The catalogues are what they were and the engines are those there were. -/
abbrev Site.Steady (s s' : Site π α) : Prop := s.Defines [] s'

/-- Nothing happened that concerns an engine: the engines and the catalogues are as they
    were, breakpoints are still set, and every engine that is alive still listens. -/
structure Site.Quiet (s s' : Site π α) : Prop where
  slots : s'.slots = s.slots
  alike : s.process.Alike s'.process
  opened : ∀ rt, s.process.runtimes.contains rt = true → s'.process.runtimes.contains rt = true
  breaks : ∀ rt op, (s.process.runtime rt).breaksAt op = true → (s'.process.runtime rt).breaksAt op = true
  listeners : ∀ rt id, s.alive id = true → .engine id ∈ (s.process.runtime rt).listeners →
    .engine id ∈ (s'.process.runtime rt).listeners

namespace Site

variable {ds ds' : List (RuntimeId × MemberRef)}

theorem Defines.refl (s : Site π α) : s.Defines [] s := ⟨.refl _, fun _ => rfl, rfl⟩

theorem Defines.trans {s s' s'' : Site π α} (h : s.Defines ds s') (h' : s'.Defines ds' s'') :
    s.Defines (ds ++ ds') s'' := by
  refine ⟨?_, fun id => (h'.known id).trans (h.known id), h'.size.trans h.size⟩
  rw [Process.catalogueEach_append]
  exact (h.alike.catalogueEach ds').trans h'.alike

theorem Defines.steady {s s' s'' : Site π α} (h : s.Defines ds s') (h' : s'.Steady s'') : s.Defines ds s'' := by
  have := h.trans h'
  rwa [List.append_nil] at this

theorem Defines.orderly {s s' : Site π α} (h : s.Defines ds s') (hs : s.Orderly) : s'.Orderly :=
  ⟨(Process.catalogueEach_catalogued hs.catalogued ds).alike h.alike,
    fun id hid => by rw [h.size]; rw [h.known] at hid; exact hs.numbered id hid⟩

theorem Quiet.steady {s s' : Site π α} (h : s.Quiet s') : s.Steady s' :=
  ⟨h.alike, fun id => by rw [h.slots], by rw [h.slots]⟩

theorem Quiet.of_same {s s' : Site π α} (hs : s'.slots = s.slots) (ho : s'.process.runtimes = s.process.runtimes)
    (hn : s'.process.nextOperation = s.process.nextOperation) : s.Quiet s' := by
  have hr : ∀ rt, s'.process.runtime rt = s.process.runtime rt := by
    intro rt; unfold Process.runtime; rw [ho]
  exact ⟨hs, ⟨fun rt => by rw [hr], hn⟩, fun rt h => by rw [ho]; exact h, fun rt op h => by rw [hr]; exact h,
    fun rt id _ h => by rw [hr]; exact h⟩

theorem Quiet.trans {s s' s'' : Site π α} (h : s.Quiet s') (h' : s'.Quiet s'') : s.Quiet s'' :=
  ⟨h'.slots.trans h.slots, h.alike.trans h'.alike, fun rt ho => h'.opened rt (h.opened rt ho),
    fun rt op hb => h'.breaks rt op (h.breaks rt op hb),
    fun rt id ha hl => h'.listeners rt id (by rw [alive, h.slots]; exact ha) (h.listeners rt id ha hl)⟩

/-- A change of one runtime's breakpoints or listeners that drops none that matters. -/
theorem Quiet.of_runtime (s : Site π α) (rt : RuntimeId) (f : Runtime → Runtime)
    (hm : (f (s.process.runtime rt)).members = (s.process.runtime rt).members)
    (hb : ∀ op, (s.process.runtime rt).breaksAt op = true → (f (s.process.runtime rt)).breaksAt op = true)
    (hl : ∀ id, s.alive id = true → .engine id ∈ (s.process.runtime rt).listeners →
      .engine id ∈ (f (s.process.runtime rt)).listeners) :
    s.Quiet (changeProcess (·.changeRuntime rt f) s).2 := by
  have hr : ∀ rt', ((changeProcess (·.changeRuntime rt f) s).2.process.runtime rt') =
      if rt' = rt then f (s.process.runtime rt) else s.process.runtime rt' := fun rt' =>
    Process.runtime_changeRuntime s.process rt rt' f
  refine ⟨rfl, ⟨?_, rfl⟩, fun rt' h => Process.opened_changeRuntime s.process rt f rt' h, ?_, ?_⟩
  · intro rt'; rw [hr]; split
    · rename_i e; rw [e]; exact hm
    · rfl
  · intro rt' op h; rw [hr]; split
    · rename_i e; rw [e] at h; exact hb op h
    · exact h
  · intro rt' id ha h; rw [hr]; split
    · rename_i e; rw [e] at h; exact hl id ha h
    · exact h

variable {id : EngineId} {s s₀ : Site π α} {slot : Slot π}

theorem alive_iff (h : s.slots.get? id = some slot) : s.alive id = slot.alive := by
  rw [Site.alive, h]; rfl

/-- A slot that is written over neither adds nor renumbers an engine. -/
theorem Steady.of_insert (hj : s.slots.get? id = some slot) (new : Slot π) {w : World}
    (hw : s.process.Alike w.process) (n : List (ThreadId × Notice)) :
    s.Steady { s with world := w, slots := s.slots.insert id new, notices := n } := by
  have hc : s.slots.contains id = true := by rw [Table.contains, hj]; rfl
  refine ⟨hw, fun k => ?_, ?_⟩
  · show (s.slots.insert id new).contains k = s.slots.contains k
    rw [Table.contains_insert]
    by_cases hk : k = id
    · rw [hk, hc, Bool.or_true]
    · rw [decide_eq_false hk, Bool.false_or]
  · show (s.slots.insert id new).size = s.slots.size
    rw [Table.size_insert, if_pos hc]

theorem changeSlot_none (h : s.slots.get? id = none) (f : Slot π → Slot π) : (changeSlot id f s).2 = s := by
  show { s with slots := s.slots.modify id f } = s
  rw [Table.modify_none h]

theorem changeSlot_at (h : s.slots.get? id = some slot) (f : Slot π → Slot π) :
    (changeSlot id f s).2 = { s with slots := s.slots.insert id (f slot) } := by
  show { s with slots := s.slots.modify id f } = _
  rw [Table.modify_eq h]

theorem changeSlot_steady (id : EngineId) (f : Slot π → Slot π) :
    Keeps s₀.Steady (changeSlot id f : Play π α Unit) := by
  intro s hs
  cases h : s.slots.get? id with
  | none => rw [changeSlot_none h]; exact hs
  | some slot => rw [changeSlot_at h]; exact Defines.trans hs (Steady.of_insert h _ (.refl _) s.notices)

/-! ## Acts -/

/-- The site after engine `id`, found in `slot`, became `e` by an act that left the world
    `w` and these notices. -/
def acted (s : Site π α) (id : EngineId) (slot : Slot π) (e : Engine π) (w : World) (ns : List (ThreadId × Notice)) :
    Site π α :=
  { s with
    world := w
    slots := s.slots.insert id { slot with engine := e }
    notices := s.notices ++ ns }

theorem acted_found (e : Engine π) (w : World) (ns : List (ThreadId × Notice)) :
    (s.acted id slot e w ns).slots.get? id = some { slot with engine := e } := by
  show (s.slots.insert id _).get? id = _
  rw [Table.get?_insert, if_pos rfl]

theorem acted_other {k : EngineId} (hk : k ≠ id) (e : Engine π) (w : World) (ns : List (ThreadId × Notice)) :
    (s.acted id slot e w ns).slots.get? k = s.slots.get? k := by
  show (s.slots.insert id _).get? k = _
  rw [Table.get?_insert, if_neg hk]

/-- What letting an engine act comes to. -/
theorem acting_at {t : ThreadId} {fallback : β} {act : Host World → Act (Engine π) World β}
    (h : s.slots.get? id = some slot) :
    acting t id fallback act s =
      ((act (World.host slot.host t) ⟨slot.engine, s.world, []⟩).1,
        s.acted id slot (act (World.host slot.host t) ⟨slot.engine, s.world, []⟩).2.own
          (act (World.host slot.host t) ⟨slot.engine, s.world, []⟩).2.host
          ((act (World.host slot.host t) ⟨slot.engine, s.world, []⟩).2.notices.map (t, ·))) := by
  unfold acting acted
  rw [h]

/-- An act whose outcome on the engine's host is known. -/
theorem acting_eq {t : ThreadId} {fallback b : β} {act : Host World → Act (Engine π) World β} {h : HostId}
    {e : Engine π} {w : World} {ns : List Notice} (hf : s.slots.get? id = some slot) (hh : slot.host = h)
    (ha : act (World.host h t) ⟨slot.engine, s.world, []⟩ = (b, ⟨e, w, ns⟩)) :
    acting t id fallback act s = (b, s.acted id slot e w (ns.map (t, ·))) := by
  subst hh
  rw [acting_at hf, ha]

theorem acting_none {t : ThreadId} {fallback : β} {act : Host World → Act (Engine π) World β}
    (h : s.slots.get? id = none) : acting t id fallback act s = (fallback, s) := by
  unfold acting
  rw [h]

theorem acting_map {γ : Type} (g : β → γ) (t : ThreadId) (id : EngineId) (fallback : β)
    (act : Host World → Act (Engine π) World β) (s : Site π α) :
    acting t id (g fallback) (fun h => g <$> act h) s =
      (g (acting t id fallback act s).1, (acting t id fallback act s).2) := by
  cases h : s.slots.get? id with
  | none => rw [acting_none h, acting_none h]
  | some slot => rw [acting_at h, acting_at h]; rfl

/-- An act moves the host's process only by breakpoints. -/
def Tame (act : Host World → Act (Engine π) World β) : Prop :=
  ∀ (h : HostId) (t : ThreadId) (e : Engine π) (w : World),
    w.process.MoreBreakpoints (act (World.host h t) ⟨e, w, []⟩).2.host.process

theorem Tame.of_keeps {act : Host World → Act (Engine π) World β}
    (ha : ∀ (h : Host World) (w : World), h.Keeps (fun w' => w.process.MoreBreakpoints w'.process) →
      Keeps (Scene.Within (fun _ => True) fun w' => w.process.MoreBreakpoints w'.process) (act h)) : Tame act :=
  fun h t e w => (ha (World.host h t) w (World.host_keeps h t w) ⟨e, w, []⟩ ⟨trivial, .refl _⟩).host

theorem indifferent_true : Indifferent fun _ : Engine π => True :=
  ⟨fun _ => ⟨fun _ _ _ => trivial, fun _ _ _ => trivial⟩⟩

theorem resolveType_tame (owner : String) : Tame fun h => (resolveType h owner : Act (Engine π) World Unit) :=
  .of_keeps fun _ _ hk => resolveType_keeps aside_true hk owner

theorem threadDeclared_tame (thread : ThreadId) : Tame fun _ => (threadDeclared thread : Act (Engine π) World Unit) :=
  .of_keeps fun _ _ _ => threadDeclared_keeps indifferent_true thread

theorem acting_steady (t : ThreadId) (id : EngineId) (fallback : β) {act : Host World → Act (Engine π) World β}
    (ht : Tame act) :
    Keeps s₀.Steady (acting t id fallback act) := by
  intro s hs
  cases h : s.slots.get? id with
  | none => rw [acting_none h]; exact hs
  | some slot =>
    rw [acting_at h]
    exact Defines.trans hs (Steady.of_insert h _ (ht slot.host t slot.engine s.world).alike _)

/-! ### Within an operation -/

/-- The site once an operation has taken engine `id` up. -/
def taken (id : EngineId) (s : Site π α) : Site π α :=
  (changeSlot id (fun slot => { slot with uses := slot.uses + 1 }) s).2

/-- What an operation gives once it is done with engine `id`. -/
def released (id : EngineId) (r : β × Site π α) : β × Site π α :=
  (r.1, (changeSlot id (fun slot => { slot with uses := slot.uses - 1 }) r.2).2)

/-- The site once a check on `t` has begun. -/
def entered (t : ThreadId) (s : Site π α) : Site π α := (setChecking t true s).2

/-- What a check on `t` gives once it has ended. -/
def concluded (t : ThreadId) (r : β × Site π α) : β × Site π α := (r.1, (setChecking t false r.2).2)

theorem keepingAlive_at (id : EngineId) (play : Play π α β) (s : Site π α) :
    keepingAlive id play s = released id (play (s.taken id)) := rfl

theorem checking_outside {t : ThreadId} (h : s.isChecking t = false) (inside : β) (body : Play π α β) :
    checking t inside body s = concluded t (body (s.entered t)) := by
  unfold checking
  rw [bind_at, get_at]
  dsimp only
  rw [if_neg (by rw [h]; exact Bool.false_ne_true)]
  rfl

theorem checking_inside {t : ThreadId} (h : s.isChecking t = true) (inside : β) (body : Play π α β) :
    checking t inside body s = (inside, s) := by
  unfold checking
  rw [bind_at, get_at]
  dsimp only
  rw [if_pos h]
  rfl

theorem taken_found (h : s.slots.get? id = some slot) :
    (s.taken id).slots.get? id = some { slot with uses := slot.uses + 1 } := by
  show (s.slots.modify id _).get? id = _
  rw [Table.get?_modify, if_pos rfl, h]
  rfl

theorem taken_acted (h : s.slots.get? id = some slot) (e : Engine π) (w : World) (ns : List (ThreadId × Notice)) :
    (s.taken id).acted id { slot with uses := slot.uses + 1 } e w ns = (s.acted id slot e w ns).taken id := by
  unfold taken
  rw [changeSlot_at h, changeSlot_at (acted_found e w ns)]
  unfold acted
  rw [Table.insert_insert, Table.insert_insert]

theorem released_taken (h : s.slots.get? id = some slot) (b : β) : released id (b, s.taken id) = (b, s) := by
  unfold released
  rw [changeSlot_at (taken_found h)]
  unfold taken
  rw [changeSlot_at h]
  dsimp only
  rw [Table.insert_insert, Nat.add_sub_cancel, Table.insert_same h]

/-- Taking an engine up for the time of an act changes nothing but the act. -/
theorem keepingAlive_acting (t : ThreadId) (id : EngineId) (fallback : β)
    (act : Host World → Act (Engine π) World β) (s : Site π α) :
    keepingAlive id (acting t id fallback act) s = acting t id fallback act s := by
  rw [keepingAlive_at]
  cases h : s.slots.get? id with
  | none =>
    have ht : s.taken id = s := changeSlot_none h _
    rw [ht, acting_none h]
    exact Prod.ext rfl (changeSlot_none h _)
  | some slot =>
    rw [acting_at (taken_found h), acting_at h]
    dsimp only
    rw [taken_acted h]
    exact released_taken (acted_found ..) _

/-- Engine `id` judges the context of `t`. -/
def judgesContext (t : ThreadId) (id : EngineId) : Play π α Bool :=
  acting t id false fun h => do
    let asked ← Act.ask fun w => (h.currentThread w, w)
    let v ← Engine.watch (Monitor.classify h asked .context)
    pure (v = .violating)

/-- A question about the context, asked outside any check, is a check of its own. -/
theorem isBlockingContext_outside {t : ThreadId} (h : s.isChecking t = false) (id : EngineId) :
    isBlockingContext t id s = concluded t (judgesContext t id (s.entered t)) := by
  have h' : (s.taken id).isChecking t = false := h
  have hact : keepingAlive id (judgesContext t id) (s.entered t) = judgesContext t id (s.entered t) :=
    keepingAlive_acting t id false _ (s.entered t)
  unfold isBlockingContext
  rw [keepingAlive_at, checking_outside h', ← hact]
  rfl

theorem taken_alive (h : s.alive id = true) : (s.taken id).alive id = true := by
  cases hf : s.slots.get? id with
  | none => rw [Site.alive, hf] at h; cases h
  | some slot =>
    rw [alive_iff (taken_found hf)]
    simp [Slot.alive]

theorem acting_alive {t : ThreadId} {fallback : β} {act : Host World → Act (Engine π) World β} (j : EngineId) :
    (acting t j fallback act s).2.alive id = s.alive id := by
  cases hf : s.slots.get? j with
  | none => rw [acting_none hf]
  | some slot =>
    rw [acting_at hf, Site.alive]
    by_cases h : id = j
    · subst h
      rw [acted_found, Site.alive, hf]
      rfl
    · rw [acted_other h]
      rfl

theorem entered_thread (t : ThreadId) (s : Site π α) :
    (s.entered t).process.thread t = { s.process.thread t with checking := true } :=
  Process.thread_changeThread_self s.process t fun th => { th with checking := true }

/-! ## Listeners -/

variable {rt : RuntimeId}

theorem mem_listeners {l : Listener} :
    l ∈ (listeners rt s).1 ↔ l ∈ (s.process.runtime rt).listeners ∧ s.isDetached l = false := by
  show l ∈ (s.process.runtime rt).listeners.filter _ ↔ _
  rw [List.mem_filter, Bool.not_eq_true']

theorem listeners_quiet (rt : RuntimeId) (s : Site π α) : s.Quiet (listeners rt s).2 :=
  .of_runtime s rt (fun r => { r with listeners := (listeners rt s).1 }) rfl (fun _ h => h) fun id ha hl =>
    mem_listeners.2 ⟨hl, by show (!s.alive id) = false; rw [ha]; rfl⟩

theorem give_quiet (t : ThreadId) (n : Notice) (s : Site π α) : s.Quiet (give t n s).2 := .of_same rfl rfl rfl

theorem hear_quiet (id : RecorderId) (g : Signal) (s : Site π α) : s.Quiet (hear id g s).2 := .of_same rfl rfl rfl

/-- An engine that is alive is let act; one that is not hears nothing. -/
theorem tellTypeLoaded_engine (t : ThreadId) (owner : String) (id : EngineId) (s : Site π α) :
    tellTypeLoaded t owner (.engine id) s =
      if s.alive id = true then acting t id () (fun h => resolveType h owner) s else ((), s) := by
  rw [← keepingAlive_acting]
  show (if s.alive id = true then _ else _ : Play π α Unit) s = _
  split <;> rfl

theorem tellThreadDeclared_engine (t thread : ThreadId) (id : EngineId) (s : Site π α) :
    tellThreadDeclared t thread (.engine id) s =
      if s.alive id = true then acting t id () (fun _ => threadDeclared thread) s else ((), s) := by
  rw [← keepingAlive_acting]
  show (if s.alive id = true then _ else _ : Play π α Unit) s = _
  split <;> rfl

theorem tellTypeLoaded_steady (t : ThreadId) (owner : String) (l : Listener) :
    Keeps s₀.Steady (tellTypeLoaded t owner l : Play π α Unit) := by
  intro s hs
  cases l with
  | recorder id => exact Defines.trans hs (hear_quiet id _ s).steady
  | engine id =>
    rw [tellTypeLoaded_engine]
    split
    · exact acting_steady t id () (resolveType_tame owner) s hs
    · exact hs

theorem tellThreadDeclared_steady (t thread : ThreadId) (l : Listener) :
    Keeps s₀.Steady (tellThreadDeclared t thread l : Play π α Unit) := by
  intro s hs
  cases l with
  | recorder id => exact Defines.trans hs (hear_quiet id _ s).steady
  | engine id =>
    rw [tellThreadDeclared_engine]
    split
    · exact acting_steady t id () (threadDeclared_tame thread) s hs
    · exact hs

theorem announceType_steady (t : ThreadId) (rt : RuntimeId) (owner : String) :
    Keeps s₀.Steady (announceType t rt owner : Play π α Unit) :=
  Keeps.bind (fun s h => Defines.trans h (give_quiet t _ s).steady) fun _ =>
    Keeps.bind (fun s h => Defines.trans h (listeners_quiet rt s).steady) fun _ =>
      Keeps.forM fun l _ => tellTypeLoaded_steady t owner l

theorem announceThread_steady (t : ThreadId) (rt : RuntimeId) :
    Keeps s₀.Steady (announceThread t rt : Play π α Unit) :=
  Keeps.bind (fun s h => Defines.trans h (listeners_quiet rt s).steady) fun _ =>
    Keeps.forM fun l _ => tellThreadDeclared_steady t t l

/-! ## Definitions -/

theorem catalogue_defines (rt : RuntimeId) (m : MemberRef) (s : Site π α) :
    s.Defines [(rt, m)] (inProcess (·.catalogue rt m) s).2 := ⟨.refl _, fun _ => rfl, rfl⟩

theorem define_defines (t : ThreadId) (rt : RuntimeId) (m : MemberRef) (s : Site π α) :
    s.Defines [(rt, m)] (define t rt m s).2 := by
  have h := catalogue_defines rt m s
  show s.Defines _ ((if (s.process.catalogue rt m).1.2 = true then _ else _ : Play π α OperationId) _).2
  split
  · exact h.steady (announceType_steady t rt m.owner _ (.refl _))
  · exact h

theorem catalogueAll_defines (rt : RuntimeId) (ms : List MemberRef) (s : Site π α) :
    s.Defines (ms.map (rt, ·)) (catalogueAll rt ms s).2 := by
  induction ms generalizing s with
  | nil => exact .refl s
  | cons m ms ih => exact (catalogue_defines rt m s).trans (ih _)

theorem defineAll_defines (t : ThreadId) (rt : RuntimeId) (ms : List MemberRef) (s : Site π α) :
    s.Defines (ms.map (rt, ·)) (defineAll t rt ms s).2 :=
  (catalogueAll_defines rt ms s).steady (Keeps.forM (fun owner _ => announceType_steady t rt owner) _ (.refl _))

end Site

end StallGuard
