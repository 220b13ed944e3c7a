/-
  StallGuard.Proofs.Calm — plays that leave the threads alone, and what moves do to them.

  A definition with its announcement, a declaration's announcement, the build of an engine:
  engines act in them, listeners hear of them, but no thread changes, nothing is judged, and
  no listener turns up that would object to a breakpoint (`Site.Calm`). A thread changes only
  by moves that are about it.
  - `define_calm`, `announceThread_calm`, `build_calm`: the plays.
  - `Move.play_thread`: what each move does to each thread (`Move.effect`).
-/

import StallGuard.Proofs.Judging
import StallGuard.Proofs.Lasting

namespace StallGuard

open Engine Site

variable {π α β : Type} {s s₀ : Site π α} {t : ThreadId} {rt : RuntimeId} {id : EngineId}

namespace Site

/-- What was judged, with the thread it was judged on, oldest first. -/
def judgements (s : Site π α) : List (ThreadId × Tally) :=
  s.notices.filterMap fun n => n.2.judgement?.map (n.1, ·)

/-- What a recorder does about breakpoints, and whether it was switched off. -/
def stance? (s : Site π α) (id : RecorderId) : Option (Option BlockingCall × Bool) :=
  (s.recorders.get? id).map fun r => (r.reject, r.detached)

/-- A recorder on the runtime refuses every breakpoint with this call. -/
def Objects (s : Site π α) (rt : RuntimeId) (c : BlockingCall) : Prop :=
  ∃ id, .recorder id ∈ (s.process.runtime rt).listeners ∧ s.stance? id = some (some c, false)

/-- The threads are as they were, nothing was judged, and no recorder listens or objects
    that did not. -/
structure Calm (s s' : Site π α) : Prop where
  threads : s'.process.threads = s.process.threads
  judgements : s'.judgements = s.judgements
  stances : s'.stance? = s.stance?
  listeners : ∀ rt id, .recorder id ∈ (s'.process.runtime rt).listeners →
    .recorder id ∈ (s.process.runtime rt).listeners

namespace Calm

theorem refl (s : Site π α) : s.Calm s := ⟨rfl, rfl, rfl, fun _ _ h => h⟩

theorem trans {s s' s'' : Site π α} (h : s.Calm s') (h' : s'.Calm s'') : s.Calm s'' :=
  ⟨h'.threads.trans h.threads, h'.judgements.trans h.judgements, h'.stances.trans h.stances,
    fun rt id hin => h.listeners rt id (h'.listeners rt id hin)⟩

variable {s' : Site π α}

theorem thread (h : s.Calm s') (t : ThreadId) : s'.process.thread t = s.process.thread t := by
  rw [Process.thread, h.threads]
  rfl

theorem isChecking (h : s.Calm s') (t : ThreadId) : s'.isChecking t = s.isChecking t := by
  rw [Site.isChecking, h.thread]
  rfl

theorem objects (h : s.Calm s') {c : BlockingCall} : s'.Objects rt c → s.Objects rt c := by
  rintro ⟨id, hin, hstance⟩
  exact ⟨id, h.listeners rt id hin, h.stances ▸ hstance⟩

/-- Whoever listens now listened before, and notices and recorders are as they were. -/
theorem of_listeners (ht : s'.process.threads = s.process.threads) (hn : s'.notices = s.notices)
    (hr : s'.recorders = s.recorders)
    (hl : ∀ rt id, .recorder id ∈ (s'.process.runtime rt).listeners →
      .recorder id ∈ (s.process.runtime rt).listeners) : s.Calm s' :=
  ⟨ht, by rw [Site.judgements, hn]; rfl, by unfold stance?; rw [hr], hl⟩

end Calm

theorem Calm.of_runtime (s : Site π α) (rt : RuntimeId) (f : Runtime → Runtime)
    (hl : ∀ id, .recorder id ∈ (f (s.process.runtime rt)).listeners →
      .recorder id ∈ (s.process.runtime rt).listeners) :
    s.Calm (changeProcess (·.changeRuntime rt f) s).2 := by
  refine .of_listeners rfl rfl rfl fun rt' id hin => ?_
  have hrt : (changeProcess (·.changeRuntime rt f) s).2.process.runtime rt' =
      if rt' = rt then f (s.process.runtime rt) else s.process.runtime rt' :=
    Process.runtime_changeRuntime s.process rt rt' f
  rw [hrt] at hin
  split at hin
  · rename_i e
    rw [e]
    exact hl id hin
  · exact hin

/-! ## Small plays -/

theorem give_calm (t : ThreadId) {n : Notice} (hn : n.judgement? = none) :
    Keeps s₀.Calm (give t n : Play π α Unit) := by
  refine fun s hs => hs.trans ⟨rfl, ?_, rfl, fun _ _ h => h⟩
  show (s.notices ++ [(t, n)]).filterMap _ = s.notices.filterMap _
  rw [List.filterMap_append, List.filterMap_cons]
  simp [hn]

theorem changeSlot_calm (id : EngineId) (f : Slot π → Slot π) : Keeps s₀.Calm (changeSlot id f : Play π α Unit) :=
  fun _ hs => hs.trans (.of_listeners rfl rfl rfl fun _ _ h => h)

theorem hear_calm (id : RecorderId) (g : Signal) : Keeps s₀.Calm (hear id g : Play π α Unit) := by
  refine fun s hs => hs.trans ⟨rfl, rfl, funext fun id' => ?_, fun _ _ h => h⟩
  show ((s.recorders.modify id fun r => { r with heard := r.heard ++ [g] }).get? id').map _ = _
  rw [Table.get?_modify, stance?]
  split
  · rename_i e
    rw [e, Option.map_map]
    rfl
  · rfl

theorem listeners_calm (rt : RuntimeId) : Keeps s₀.Calm (listeners rt : Play π α (List Listener)) :=
  fun s hs => hs.trans (.of_runtime s rt _ fun _ hin => (mem_listeners.1 hin).1)

theorem subscribe_calm (h : HostId) (id : EngineId) : Keeps s₀.Calm (subscribe h (.engine id) : Play π α Unit) := by
  cases h with
  | stage => exact fun _ hs => hs.trans (.of_listeners rfl rfl rfl fun _ _ h => h)
  | runtime rt =>
    intro s hs
    have he : ((listeners rt s).2.process.runtime rt).listeners = (listeners rt s).1 :=
      congrArg Runtime.listeners
        (Process.runtime_changeRuntime_self s.process rt fun r => { r with listeners := (listeners rt s).1 })
    rw [subscribe_runtime]
    refine (listeners_calm rt s hs).trans (.of_runtime _ rt _ fun id' hin => ?_)
    rw [he]
    obtain hin | hin := List.mem_append.1 hin
    · exact hin
    · cases List.mem_singleton.1 hin

/-! ## Acts -/

/-- Whatever the host, the act leaves no mark of a check. -/
def Silent (act : Host World → Act (Engine π) World β) : Prop :=
  ∀ (h : Host World) (l : List Tally), Keeps (Scene.Judged l) (act h)

theorem judgements_of (t : ThreadId) (ns : List Notice) :
    (ns.map (t, ·)).filterMap (fun n => n.2.judgement?.map (n.1, ·)) = (ns.filterMap Notice.judgement?).map (t, ·) := by
  rw [List.filterMap_map, List.map_filterMap]
  rfl

theorem judgements_acted (slot : Slot π) (e : Engine π) (w : World) (ns : List Notice) :
    (s.acted id slot e w (ns.map (t, ·))).judgements =
      s.judgements ++ (ns.filterMap Notice.judgement?).map (t, ·) := by
  show (s.notices ++ ns.map (t, ·)).filterMap _ = _
  rw [List.filterMap_append, judgements_of]
  rfl

theorem acting_calm (t : ThreadId) (id : EngineId) (fallback : β) {act : Host World → Act (Engine π) World β}
    (ht : Tame act) (hq : Silent act) : Keeps s₀.Calm (acting t id fallback act) := by
  intro s hs
  cases hf : s.slots.get? id with
  | none => rw [acting_none hf]; exact hs
  | some slot =>
    rw [acting_at hf]
    have hw := ht slot.host t slot.engine s.world
    refine hs.trans ⟨hw.threads, ?_, rfl, fun rt id hin => hw.listeners rt ▸ hin⟩
    have hnone : Scene.judgements (act (World.host slot.host t) ⟨slot.engine, s.world, []⟩).2 = [] := hq _ [] _ rfl
    rw [judgements_acted]
    exact (congrArg (fun l => s.judgements ++ l.map (t, ·)) hnone).trans (List.append_nil _)

theorem tellTypeLoaded_calm (t : ThreadId) (owner : String) (l : Listener) :
    Keeps s₀.Calm (tellTypeLoaded t owner l : Play π α Unit) := by
  intro s hs
  cases l with
  | recorder id => exact hear_calm id _ s hs
  | engine id =>
    rw [tellTypeLoaded_engine]
    split
    · exact acting_calm t id () (resolveType_tame owner) (fun _ _ => resolveType_silent owner) s hs
    · exact hs

theorem tellThreadDeclared_calm (t thread : ThreadId) (l : Listener) :
    Keeps s₀.Calm (tellThreadDeclared t thread l : Play π α Unit) := by
  intro s hs
  cases l with
  | recorder id => exact hear_calm id _ s hs
  | engine id =>
    rw [tellThreadDeclared_engine]
    split
    · exact acting_calm t id () (threadDeclared_tame thread) (fun _ _ => threadDeclared_silent thread) s hs
    · exact hs

theorem announceType_calm (t : ThreadId) (rt : RuntimeId) (owner : String) :
    Keeps s₀.Calm (announceType t rt owner : Play π α Unit) :=
  Keeps.bind (give_calm t rfl) fun _ => Keeps.bind (listeners_calm rt) fun _ =>
    Keeps.forM fun l _ => tellTypeLoaded_calm t owner l

theorem announceThread_calm (t : ThreadId) (rt : RuntimeId) : Keeps s₀.Calm (announceThread t rt : Play π α Unit) :=
  Keeps.bind (listeners_calm rt) fun _ => Keeps.forM fun l _ => tellThreadDeclared_calm t t l

/-! ## Definitions and builds -/

theorem catalogue_calm (rt : RuntimeId) (m : MemberRef) :
    Keeps s₀.Calm (inProcess (·.catalogue rt m) : Play π α (OperationId × Bool)) := by
  intro s hs
  refine hs.trans (.of_listeners ?_ rfl rfl fun rt' id hin => ?_)
  · show (s.process.catalogue rt m).2.threads = s.process.threads
    obtain ⟨i, -, e⟩ | ⟨-, -, e⟩ := Process.catalogue_cases s.process rt m
    · rw [e]
    · rw [e]; rfl
  · have hin' : .recorder id ∈ ((s.process.catalogue rt m).2.runtime rt').listeners := hin
    rw [Process.runtime_catalogue] at hin'
    split at hin' <;> exact hin'

theorem define_calm (t : ThreadId) (rt : RuntimeId) (m : MemberRef) :
    Keeps s₀.Calm (define t rt m : Play π α OperationId) := by
  refine Keeps.bind (catalogue_calm rt m) fun r => Keeps.ite (fun _ => ?_) fun _ => Keeps.pure _
  exact Keeps.bind (announceType_calm t rt m.owner) fun _ => Keeps.pure _

theorem catalogueAll_calm (rt : RuntimeId) (ms : List MemberRef) :
    Keeps s₀.Calm (catalogueAll rt ms : Play π α (List String)) := by
  induction ms with
  | nil => exact Keeps.pure _
  | cons m ms ih => exact Keeps.bind (catalogue_calm rt m) fun _ => Keeps.bind ih fun _ => Keeps.pure _

theorem defineAll_calm (t : ThreadId) (rt : RuntimeId) (ms : List MemberRef) :
    Keeps s₀.Calm (defineAll t rt ms : Play π α Unit) :=
  Keeps.bind (catalogueAll_calm rt ms) fun _ => Keeps.forM fun owner _ => announceType_calm t rt owner

theorem openRuntime_calm (t : ThreadId) (rt : RuntimeId) (ms : List MemberRef) :
    Keeps s₀.Calm (openRuntime t rt ms : Play π α Unit) :=
  Keeps.bind (fun s hs => hs.trans (.of_runtime s rt _ nofun)) fun _ => defineAll_calm t rt ms

theorem build_calm (t : ThreadId) (h : HostId) (plan : Plan π) :
    Keeps s₀.Calm (build t h plan : Play π α (Except SetupError EngineId × Plan π)) := by
  intro s hs
  cases hb : plan.build.1 with
  | error f => rw [build_error hb]; exact hs
  | ok e =>
    rw [build_ok hb]
    have hgain : s₀.Calm (s.gained { engine := e, host := h }) := hs.trans (.of_listeners rfl rfl rfl fun _ _ h => h)
    exact acting_calm t _ () start_tame (fun _ _ => start_silent) _ (subscribe_calm h _ _ hgain)

end Site

/-! ## Moves -/

namespace Move

/-- The thread that a move is about, and what the move makes of it. -/
def effect (s : Site π α) : Move π α → Option (ThreadId × (Thread → Thread))
  | newThread name => some (⟨s.process.nextThread⟩, fun _ => { name })
  | push t rt m => some (t, (·.push (Site.define t rt m s).1))
  | cut t g => some (t, (·.cutFrames g.depth))
  | declare t _ capabilities => some (t, (·.declare capabilities))
  | hold t capability => some (t, (·.declare [capability]))
  | letGo t g => some (t, (·.cutCapabilities g.length))
  | checking t b => some (t, fun th => { th with checking := b })
  | _ => none

/-- What becomes of a thread by what is done to another, or to it. -/
def applied (t : ThreadId) (th : Thread) : Option (ThreadId × (Thread → Thread)) → Thread
  | some (t', f) => if t = t' then f th else th
  | none => th

theorem applied_changeThread (p : Process) (t t' : ThreadId) (f : Thread → Thread) :
    (p.changeThread t' f).thread t = applied t (p.thread t) (some (t', f)) := by
  rw [Process.thread_changeThread, applied]
  split
  · rename_i e; rw [e]
  · rfl

/-- A move does to the threads what it is about, and nothing else. -/
theorem play_thread (m : Move π α) (s : Site π α) (t : ThreadId) :
    (m.play s).2.process.thread t = applied t (s.process.thread t) (m.effect s) := by
  cases m with
  | openRuntime t' rt ms => exact (openRuntime_calm t' rt ms s (.refl s)).thread t
  | define t' rt m => exact (define_calm t' rt m s (.refl s)).thread t
  | defineAll t' rt ms => exact (defineAll_calm t' rt ms s (.refl s)).thread t
  | newThread name =>
    show ((s.process.threads.insert ⟨s.process.nextThread⟩ { name }).get? t).getD {} =
      if t = ⟨s.process.nextThread⟩ then _ else _
    rw [Table.get?_insert]
    split <;> rfl
  | push t' rt m =>
    refine (applied_changeThread (Site.define t' rt m s).2.process t t' (·.push (Site.define t' rt m s).1)).trans ?_
    rw [(define_calm t' rt m s (.refl s)).thread]
    rfl
  | cut t' g => exact applied_changeThread s.process t t' (·.cutFrames g.depth)
  | declare t' rt cs =>
    exact ((announceThread_calm t' rt _ (.refl _)).thread t).trans
      (applied_changeThread s.process t t' (·.declare cs))
  | hold t' c => exact applied_changeThread s.process t t' (·.declare [c])
  | letGo t' g => exact applied_changeThread s.process t t' (·.cutCapabilities g.length)
  | checking t' b => exact applied_changeThread s.process t t' fun th => { th with checking := b }
  | build t' h plan => exact (build_calm t' h plan s (.refl s)).thread t
  | use t' id u =>
    show (acting t' id [] (fun h => u.act id h) s).2.process.thread t = s.process.thread t
    cases hf : s.slots.get? id with
    | none => rw [acting_none hf]
    | some slot =>
      rw [acting_at hf]
      exact congrArg (fun threads => (threads.get? t).getD {}) (Use.tame u slot.host t' slot.engine s.world).threads
  | _ => rfl

theorem play_thread_self {m : Move π α} {f : Thread → Thread} (h : m.effect s = some (t, f)) :
    (m.play s).2.process.thread t = f (s.process.thread t) := by
  rw [m.play_thread, h, applied, if_pos rfl]

end Move

end StallGuard
