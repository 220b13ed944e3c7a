/-
  StallGuard.Proofs.Operation — operations are runs.

  What an operation does between calls of handlers it does in moves, and a handler's
  program is made of operations in turn (`Invoke.Honest`). So whatever holds along runs
  holds after any sequence of operations, by whatever threads, and while handlers work.
  - `Runs.bind`: plays that are runs can be put together.
  - `checkBlocking_runs`, `enterNative_runs`, `breakpointReached_runs`: checks of calls.
  - `enter_runs`, `declare_runs`, `holdCapability_runs`: entries and capabilities.
-/

import StallGuard.Proofs.Lasting

namespace StallGuard

open Engine Site

variable {π α β γ : Type} {id : EngineId} {s : Site π α} {t : ThreadId}

/-- A handler's program does what operations do, whenever it is called. -/
def Invoke.Honest (invoke : Invoke π α) : Prop :=
  ∀ (t : ThreadId) (p : π) (c : BlockingCall) (s : Site π α), ∃ evs, Run s evs (invoke t p c s).2

/-- From these sites on, the play is a run. -/
def Runs (I : Site π α → Prop) (x : Play π α β) : Prop := ∀ s, I s → ∃ evs, Run s evs (x s).2

theorem Run.move (m : Move π α) (h : m.Allowed s) : Run s (m.play s).1 (m.play s).2 := .step m .start h

namespace Runs

variable {I J : Site π α → Prop}

theorem pure (b : β) : Runs I (pure b : Play π α β) := fun _ _ => ⟨_, .start⟩

theorem bind {x : Play π α β} {f : β → Play π α γ} (hx : Runs I x) (hJ : ∀ s, I s → J (x s).2)
    (hf : ∀ b, Runs J (f b)) :
    Runs I (x >>= f) := by
  intro s hs
  obtain ⟨evs, h⟩ := hx s hs
  obtain ⟨evs', h'⟩ := hf (x s).1 (x s).2 (hJ s hs)
  exact ⟨_, h.trans h'⟩

/-- After a play of which nothing is known the rest has to run from anywhere. -/
theorem andThen {x : Play π α β} {f : β → Play π α γ} (hx : Runs I x) (hf : ∀ b, Runs (fun _ => True) (f b)) :
    Runs I (x >>= f) := hx.bind (fun _ _ => trivial) hf

theorem move (m : Move π α) {x : Play π α β} (hx : ∀ s, (x s).2 = (m.play s).2) (hm : ∀ s, I s → m.Allowed s) :
    Runs I x := by
  intro s hs
  rw [hx]
  exact ⟨_, .move m (hm s hs)⟩

theorem get {f : Site π α → Play π α β} (hf : ∀ s, I s → ∃ evs, Run s evs (f s s).2) : Runs I (get >>= f) := hf

end Runs

/-! ## Engines in use -/

/-- The engine is alive. -/
abbrev Alive (id : EngineId) (s : Site π α) : Prop := s.alive id = true

theorem taken_run (h : s.alive id = true) : Run s [] (s.taken id) := .move (.retain id) h

theorem released_run (id : EngineId) (r : β × Site π α) : Run r.2 [] (released id r).2 := .move (.release id) trivial

theorem concluded_run (t : ThreadId) (r : β × Site π α) : Run r.2 [] (concluded t r).2 :=
  .move (.checking t false) trivial

theorem keepingAlive_runs {x : Play π α β} (hx : Runs (Alive id) x) : Runs (Alive id) (keepingAlive id x) := by
  intro s hs
  rw [keepingAlive_at]
  obtain ⟨evs, h⟩ := hx (s.taken id) (taken_alive hs)
  exact ⟨_, ((taken_run hs).trans h).trans (released_run id _)⟩

theorem checking_runs (inside : β) {x : Play π α β} (hx : Runs (Alive id) x) :
    Runs (Alive id) (checking t inside x) := by
  intro s hs
  cases hc : s.isChecking t with
  | true => rw [checking_inside hc]; exact ⟨_, .start⟩
  | false =>
    rw [checking_outside hc]
    have hin : Run s [] (s.entered t) := .move (.checking t true) trivial
    obtain ⟨evs, h⟩ := hx (s.entered t) hs
    exact ⟨_, (hin.trans h).trans (concluded_run t _)⟩

/-- An act that does what some use of the engine does. -/
theorem acting_runs (α : Type) {fallback : β} {act : Host World → Act (Engine π) World β}
    (hu : ∀ (h : HostId) (x : Scene (Engine π) World), ∃ u : Use,
      (act (World.host h t) x).2 = (u.act id (World.host h t) x).2) :
    Runs (Alive id) (acting t id fallback act : Play π α β) := by
  intro s hs
  cases hf : s.slots.get? id with
  | none => rw [acting_none hf]; exact ⟨_, .start⟩
  | some slot =>
    obtain ⟨u, he⟩ := hu slot.host ⟨slot.engine, s.world, []⟩
    have hsame : (acting t id fallback act s).2 = ((Move.use t id u).play s).2 := by
      show _ = (acting t id [] (fun h => u.act id h) s).2
      rw [acting_at hf, acting_at hf, he]
    rw [hsame]
    exact ⟨_, .move _ hs⟩

variable {invoke : Invoke π α}

theorem respond_runs (hi : invoke.Honest) (h : Handler π) (c : BlockingCall) :
    Runs (fun _ => True) (respond invoke t h c) := by
  cases h with
  | fail => exact Runs.pure _
  | log => exact (Runs.move (.give t (.letThrough c)) (fun _ => rfl) fun _ _ => trivial).andThen fun _ => Runs.pure _
  | panic => exact Runs.pure _
  | program p => exact fun s _ => hi t p c s

theorem judge_runs (hi : invoke.Honest) (thread : Host World → World → ThreadId) (op : OperationId)
    (start : ScanStart) :
    Runs (Alive id) (judge invoke t id thread op start) := by
  refine Runs.andThen (acting_runs α fun h x => ⟨.check (thread (World.host h t) x.host) op start, rfl⟩) fun found => ?_
  refine Runs.get fun s _ => ?_
  cases found with
  | none => exact ⟨_, .start⟩
  | some c =>
    cases s.engine? id with
    | none => exact ⟨_, .start⟩
    | some e => exact respond_runs hi e.handler c s trivial

/-! ## What an engine is asked -/

theorem checkBlocking_runs (hi : invoke.Honest) (op : OperationId) : Runs (Alive id) (checkBlocking invoke t id op) :=
  keepingAlive_runs (checking_runs _ (judge_runs hi currentOf op .blockingCall))

theorem breakpointReached_runs (hi : invoke.Honest) (thread : ThreadId) (op : OperationId) :
    Runs (Alive id) (breakpointReached invoke t id thread op) := by
  refine keepingAlive_runs (Runs.bind (J := Alive id) (acting_runs α fun h x => ⟨.reached op, ?_⟩)
    (fun s hs => (acting_alive id).trans hs) fun mine => ?_)
  · show ((if _ then _ else _ : Act (Engine π) World Bool) x).2 = ((if _ then _ else _ : Act (Engine π) World _) x).2
    split <;> rfl
  · cases mine with
    | true => exact checking_runs _ (judge_runs hi _ op .breakpoint)
    | false => exact Runs.pure _

theorem bind_run (ha : s.alive id = true) (t : ThreadId) (m : MemberRef) (f : EntryPoint) :
    Run s ((acting t id none (fun h => bindNative h m f) s).1.map fun b => Event.bound id b.1 f).toList
      (acting t id none (fun h => bindNative h m f) s).2 := by
  have h : Run s (acting t id [] (fun h => Use.act id h (.bind m f)) s).1
      (acting t id [] (fun h => Use.act id h (.bind m f)) s).2 := .move (.use t id (.bind m f)) ha
  have hmap : acting t id [] (fun h => Use.act id h (.bind m f)) s = _ :=
    acting_map (fun b => (b.map fun b => Event.bound id b.1 f).toList) t id none (fun h => bindNative h m f) s
  rwa [hmap] at h

/-- The record of a native call starts with its bind, whatever its check leads to. -/
theorem enterNative_run (hi : invoke.Honest) (ha : s.alive id = true) (m : MemberRef) (f : EntryPoint) :
    ∃ evs, Run s (((acting t id none (fun h => bindNative h m f) (s.taken id)).1.map fun b =>
      Event.bound id b.1 f).toList ++ evs) (enterNative invoke t id m f s).2 := by
  have hbind := (taken_run ha).trans (bind_run (taken_alive ha) t m f)
  have halive : (acting t id none (fun h => bindNative h m f) (s.taken id)).2.alive id = true :=
    (acting_alive id).trans (taken_alive ha)
  -- Whatever runs after the bind is done when the engine is released.
  have hafter : ∀ x : Play π α (Outcome EntryPoint), Runs (Alive id) x →
      ∃ evs, Run s (((acting t id none (fun h => bindNative h m f) (s.taken id)).1.map fun b =>
        Event.bound id b.1 f).toList ++ evs)
        (released id (x (acting t id none (fun h => bindNative h m f) (s.taken id)).2)).2 := by
    intro x hx
    obtain ⟨evs, h⟩ := hx _ halive
    have hrun := hbind.trans (h.trans (released_run id (x _)))
    rw [List.nil_append, List.append_nil] at hrun
    exact ⟨evs, hrun⟩
  unfold enterNative
  rw [keepingAlive_at, bind_at]
  generalize acting t id none (fun h => bindNative h m f) (s.taken id) = r at hafter ⊢
  obtain ⟨b, s'⟩ := r
  cases b with
  | none => exact hafter _ (Runs.pure _)
  | some b =>
    obtain ⟨op, g, c⟩ := b
    cases g with
    | false => exact hafter _ (Runs.pure _)
    | true => exact hafter _ ((checking_runs _ (judge_runs hi currentOf op .blockingCall)).andThen fun _ => Runs.pure _)

theorem enterNative_runs (hi : invoke.Honest) (m : MemberRef) (f : EntryPoint) :
    Runs (Alive id) (enterNative invoke t id m f) := by
  intro s hs
  obtain ⟨evs, h⟩ := enterNative_run hi hs m f
  exact ⟨_, h⟩

/-! ## What a runtime is asked -/

theorem tellBreakpoint_runs (hi : invoke.Honest) (thread : ThreadId) (op : OperationId) (l : Listener) :
    Runs (fun _ => True) (tellBreakpoint invoke t thread op l) := by
  cases l with
  | engine id =>
    refine Runs.get fun s _ => ?_
    by_cases h : s.alive id = true
    · rw [if_pos h]; exact breakpointReached_runs hi thread op s h
    · rw [if_neg h]; exact ⟨_, .start⟩
  | recorder id =>
    refine (Runs.move (.recorders fun r => r.modify id fun r => { r with heard := r.heard ++ [.breakpoint] })
      (fun _ => rfl) fun _ _ => trivial).andThen fun _ => Runs.get fun s _ => ?_
    cases (s.recorders.get? id).bind Recorder.reject <;> exact ⟨_, .start⟩

theorem tellBreakpoints_runs (hi : invoke.Honest) (thread : ThreadId) (op : OperationId) (ls : List Listener) :
    Runs (fun _ => True) (tellBreakpoints invoke t thread op ls) := by
  induction ls with
  | nil => exact Runs.pure _
  | cons l ls ih =>
    refine (tellBreakpoint_runs hi thread op l).andThen fun r => ?_
    cases r with
    | returned _ => exact ih
    | raised _ => exact Runs.pure _
    | panicked _ => exact Runs.pure _

variable {rt : RuntimeId}

theorem pushFrame_runs (m : MemberRef) : Runs (fun _ => True) (pushFrame t rt m : Play π α FrameGuard) :=
  Runs.move (.push t rt m) (fun _ => rfl) fun _ _ => trivial

theorem dropFrame_runs (g : FrameGuard) : Runs (fun _ => True) (dropFrame t g : Play π α Unit) :=
  Runs.move (.cut t g) (fun _ => rfl) fun _ _ => trivial

theorem listeners_runs (rt : RuntimeId) : Runs (fun _ => True) (listeners rt : Play π α (List Listener)) :=
  Runs.move (.prune rt) (fun _ => rfl) fun _ _ => trivial

theorem declare_runs (cs : List String) : Runs (fun _ => True) (declare t rt cs : Play π α Unit) :=
  Runs.move (.declare t rt cs) (fun _ => rfl) fun _ _ => trivial

/-- The record of an entry starts with the definition of its member, whatever the listeners
    that are told of it do. -/
theorem enter_run (hi : invoke.Honest) (m : MemberRef) (s : Site π α) :
    ∃ evs, Run s (.defined rt m :: evs) (enter invoke t rt m s).2 := by
  have hpush : Run s [.defined rt m] (pushFrame t rt m s).2 := .move (.push t rt m) trivial
  suffices hrest : ∃ evs, Run (pushFrame t rt m s).2 evs (enter invoke t rt m s).2 by
    obtain ⟨evs, h⟩ := hrest
    exact ⟨evs, hpush.trans h⟩
  unfold enter
  rw [bind_at]
  generalize pushFrame t rt m s = r
  obtain ⟨g, s⟩ := r
  rw [bind_at, get_at]
  dsimp only
  split
  · refine (listeners_runs rt).andThen (fun ls => ?_) s trivial
    refine (tellBreakpoints_runs hi t g.operation ls).andThen fun r => ?_
    cases r with
    | returned _ => exact Runs.pure _
    | raised _ => exact (dropFrame_runs g).andThen fun _ => Runs.pure _
    | panicked _ => exact (dropFrame_runs g).andThen fun _ => Runs.pure _
  · exact ⟨_, .start⟩

theorem enter_runs (hi : invoke.Honest) (m : MemberRef) : Runs (fun _ => True) (enter invoke t rt m) := by
  intro s _
  obtain ⟨evs, h⟩ := enter_run hi m s
  exact ⟨_, h⟩

theorem holdCapability_runs (c : String) :
    Runs (fun _ => True) (inProcess (·.holdCapability t c) : Play π α CapabilityGuard) :=
  Runs.move (.hold t c) (fun _ => rfl) fun _ _ => trivial

end StallGuard
