/-
  StallGuard.Proofs.Mirroring — two worlds that no engine can tell apart.

  Two plays mirror each other if from states that stand side by side they come to results
  that correspond, at states that stand side by side again (`Mirrors`). An engine sees its
  host through single requests only, so it acts alike on two states of a host if each
  request mirrors itself there (`Host.Mirrors`), whatever the host is.
  A runtime never tells where breakpoints are set. Worlds that are the same but for those,
  and for who listens (`World.Same`), are therefore the same to every engine.
  - `start_impartial`, `resolveType_impartial`, `registerHook_impartial`, `bindNative_impartial`,
    `check_impartial`: the acts of an engine.
  - `World.host_mirrors`: worlds that are the same are told apart by no request.
-/

import StallGuard.Proofs.Move
import StallGuard.Proofs.Tending

namespace StallGuard

variable {μ σ τ π β γ β' γ' : Type}

/-! ## Plays side by side -/

/-- From states side by side to results that correspond, and to states side by side. -/
def Mirrors (R : σ → τ → Prop) (Q : β → β' → Prop) (x : StateM σ β) (x' : StateM τ β') : Prop :=
  ∀ s s', R s s' → Q (x s).1 (x' s').1 ∧ R (x s).2 (x' s').2

namespace Mirrors

variable {R : σ → τ → Prop} {Q : β → β' → Prop} {P : γ → γ' → Prop} {x : StateM σ β} {x' : StateM τ β'}

theorem pure {b : β} {b' : β'} (h : Q b b') : Mirrors R Q (pure b) (pure b') := fun _ _ hs => ⟨h, hs⟩

theorem bind {f : β → StateM σ γ} {f' : β' → StateM τ γ'} (hx : Mirrors R Q x x')
    (hf : ∀ b b', Q b b' → Mirrors R P (f b) (f' b')) : Mirrors R P (x >>= f) (x' >>= f') := by
  intro s s' hs
  obtain ⟨hb, hs⟩ := hx s s' hs
  exact hf _ _ hb _ _ hs

/-- The results are the same. -/
theorem andThen {x' : StateM τ β} {f : β → StateM σ γ} {f' : β → StateM τ γ'} (hx : Mirrors R Eq x x')
    (hf : ∀ b, Mirrors R P (f b) (f' b)) : Mirrors R P (x >>= f) (x' >>= f') :=
  hx.bind fun b _ e => e ▸ hf b

theorem map {x' : StateM τ β} (f : β → γ) (hx : Mirrors R Eq x x') : Mirrors R Eq (f <$> x) (f <$> x') := by
  intro s s' hs
  obtain ⟨hb, hs⟩ := hx s s' hs
  exact ⟨congrArg f hb, hs⟩

theorem ite {c : Prop} [Decidable c] {y : StateM σ β} {y' : StateM τ β'} (hx : Mirrors R Q x x')
    (hy : Mirrors R Q y y') : Mirrors R Q (if c then x else y) (if c then x' else y') := by
  by_cases h : c
  · simp only [h, if_true]
    exact hx
  · simp only [h, if_false]
    exact hy

/-- One is told to each of a list, the other to what stands for them. -/
theorem forM_map (g : β → β') {f : β → StateM σ PUnit} {f' : β' → StateM τ PUnit}
    (hf : ∀ b, Mirrors R Eq (f b) (f' (g b))) (l : List β) : Mirrors R Eq (l.forM f) ((l.map g).forM f') := by
  induction l with
  | nil => exact pure rfl
  | cons b l ih => exact (hf b).andThen fun _ => ih

theorem forM {f : β → StateM σ PUnit} {f' : β → StateM τ PUnit} (hf : ∀ b, Mirrors R Eq (f b) (f' b)) (l : List β) :
    Mirrors R Eq (l.forM f) (l.forM f') := by
  have h := forM_map id hf l
  rwa [List.map_id] at h

end Mirrors

/-! ## Acts -/

/-- The same actor, with hosts side by side. -/
structure Scene.Beside (R : σ → σ → Prop) (x x' : Scene μ σ) : Prop where
  own : x'.own = x.own
  host : R x.host x'.host

/-- Every request to the host mirrors itself. -/
structure Host.Mirrors (h : Host σ) (R : σ → σ → Prop) : Prop where
  currentThread : ∀ s s', R s s' → h.currentThread s' = h.currentThread s
  threadInfo : ∀ t, StallGuard.Mirrors R Eq (h.threadInfo t) (h.threadInfo t)
  stackFrames : ∀ t start count, StallGuard.Mirrors R Eq (h.stackFrames t start count) (h.stackFrames t start count)
  typeMembers : ∀ owner, StallGuard.Mirrors R Eq (h.typeMembers owner) (h.typeMembers owner)
  memberInfo : ∀ op, StallGuard.Mirrors R Eq (h.memberInfo op) (h.memberInfo op)
  setBreakpoint : ∀ op, StallGuard.Mirrors R Eq (h.setBreakpoint op) (h.setBreakpoint op)

variable {R : σ → σ → Prop} {h : Host σ}

namespace Act

/-- The act does the same with hosts side by side. -/
abbrev Impartial (R : σ → σ → Prop) (a : Act μ σ β) : Prop := Mirrors (Scene.Beside R) Eq a a

theorem own_impartial : Impartial R (own : Act μ σ μ) := fun _ _ hx => ⟨hx.own.symm, hx⟩

theorem change_impartial (f : μ → μ) : Impartial R (change f : Act μ σ Unit) :=
  fun _ _ hx => ⟨rfl, congrArg f hx.own, hx.host⟩

theorem ask_impartial {q : StateM σ β} (hq : Mirrors R Eq q q) : Impartial R (ask q : Act μ σ β) := by
  intro x x' hx
  obtain ⟨hb, hhost⟩ := hq _ _ hx.host
  exact ⟨hb, hx.own, hhost⟩

theorem give_impartial (n : Notice) : Impartial R (give n : Act μ σ Unit) := fun _ _ hx => ⟨rfl, hx.own, hx.host⟩

end Act

open Act

/-! ### Monitors -/

namespace Monitor

theorem mark_impartial (c : Tally) : Impartial R (mark c : Act Monitor σ Unit) :=
  (change_impartial _).andThen fun _ => give_impartial _

theorem forget_impartial (t : ThreadId) : Impartial R (forget t : Act Monitor σ Bool) :=
  own_impartial.andThen fun _ => (change_impartial _).andThen fun _ => Mirrors.pure rfl

theorem isRestricted_impartial (hk : h.Mirrors R) (t : ThreadId) : Impartial R (isRestricted h t) := by
  refine own_impartial.andThen fun m => ?_
  cases m.register.verdicts.get? t with
  | some b => exact Mirrors.pure rfl
  | none =>
    refine (ask_impartial (hk.threadInfo t)).andThen fun r => ?_
    cases r with
    | error f => exact (mark_impartial _).andThen fun _ => Mirrors.pure rfl
    | ok i =>
      refine Mirrors.ite (Mirrors.pure rfl) ((change_impartial _).andThen fun _ => ?_)
      exact (mark_impartial _).andThen fun _ => (give_impartial _).andThen fun _ => Mirrors.pure rfl

theorem scanFrom_mirrors (hk : h.Mirrors R) (hooks : Hooks) (w : Window) (t : ThreadId) (rounds depth : Nat)
    (b : Bool) : Mirrors R Eq (scanFrom h hooks w t rounds depth b) (scanFrom h hooks w t rounds depth b) := by
  induction rounds generalizing depth b with
  | zero => exact Mirrors.pure rfl
  | succ rounds ih =>
    unfold scanFrom
    refine Mirrors.ite ((hk.stackFrames _ _ _).andThen fun r => ?_) (Mirrors.pure rfl)
    cases r with
    | error f => exact Mirrors.pure rfl
    | ok page =>
      dsimp only
      cases readFrames hooks b page with
      | none => exact Mirrors.pure rfl
      | some b' => exact Mirrors.ite (Mirrors.pure rfl) (ih _ _)

theorem classify_impartial (hk : h.Mirrors R) (t : ThreadId) (start : ScanStart) :
    Impartial R (classify h t start) := by
  refine (mark_impartial _).andThen fun _ => (isRestricted_impartial hk t).andThen fun b => ?_
  refine Mirrors.ite (own_impartial.andThen fun m => ?_) (Mirrors.pure rfl)
  refine (ask_impartial (scanFrom_mirrors hk _ _ _ _ _ _)).andThen fun r => ?_
  cases r with
  | ok v => exact Mirrors.pure rfl
  | error f => exact (mark_impartial _).andThen fun _ => Mirrors.pure rfl

theorem check_impartial (hk : h.Mirrors R) (t : ThreadId) (op : OperationId) (start : ScanStart) :
    Impartial R (check h t op start) := by
  have hreport : ∀ c : BlockingCall, Impartial R (some <$> report c : Act Monitor σ (Option BlockingCall)) := fun c =>
    ((mark_impartial _).andThen fun _ => Mirrors.pure rfl).map some
  refine (classify_impartial hk t start).andThen fun v => ?_
  cases v with
  | permitted => exact Mirrors.pure rfl
  | violating =>
    refine own_impartial.andThen fun m => ?_
    cases m.targets.member? op with
    | some i => exact hreport _
    | none =>
      refine Mirrors.andThen ((ask_impartial (hk.memberInfo op)).andThen fun r => ?_) hreport
      cases r with
      | ok i => exact Mirrors.pure rfl
      | error f => exact (mark_impartial _).andThen fun _ => Mirrors.pure rfl

theorem bindNative_impartial (m : Member) (guarded : Bool) (entry : EntryPoint) :
    Impartial R (bindNative m guarded entry : Act Monitor σ (Except Fault Binding)) := by
  refine own_impartial.andThen fun w => ?_
  cases w.targets.get? m.id with
  | some target => exact Mirrors.pure rfl
  | none =>
    exact (change_impartial _).andThen fun _ => (mark_impartial _).andThen fun _ => (give_impartial _).andThen fun _ =>
      Mirrors.pure rfl

theorem setBreakpoint_impartial (hk : h.Mirrors R) (m : Member) : Impartial R (setBreakpoint h m) := by
  refine own_impartial.andThen fun w => ?_
  cases w.targets.get? m.id with
  | some target => exact Mirrors.pure rfl
  | none =>
    refine (ask_impartial (hk.setBreakpoint m.id)).andThen fun r => ?_
    cases r with
    | error f => exact Mirrors.pure rfl
    | ok u => exact (change_impartial _).andThen fun _ => (mark_impartial _).andThen fun _ => Mirrors.pure rfl

end Monitor

/-! ### Engines -/

namespace Engine

theorem watch_impartial {a : Act Monitor σ β} (ha : Impartial R a) :
    Impartial R (watch a : Act (Engine π) σ β) := by
  intro x x' hx
  obtain ⟨e, host, ns⟩ := x
  obtain ⟨e', host', ns'⟩ := x'
  obtain rfl : e' = e := hx.own
  obtain ⟨hb, hown, hhost⟩ := ha ⟨e'.monitor, host, ns⟩ ⟨e'.monitor, host', ns'⟩ ⟨rfl, hx.host⟩
  exact ⟨hb, congrArg (fun m => { e' with monitor := m }) hown, hhost⟩

theorem adopt_impartial (hk : h.Mirrors R) (owner : String) (m : Member) :
    Impartial R (adopt h owner m : Act (Engine π) σ Unit) := by
  have hplace : Impartial R (placeBreakpoint h m : Act (Engine π) σ Unit) := by
    refine (watch_impartial (Monitor.setBreakpoint_impartial hk m)).andThen fun r => ?_
    match r with
    | .ok true => exact give_impartial _
    | .ok false => exact Mirrors.pure rfl
    | .error f => exact watch_impartial (Monitor.mark_impartial _)
  refine own_impartial.andThen fun e => ?_
  cases e.requests.get? (owner, m.name) with
  | none => exact own_impartial.andThen fun _ => hplace.ite (Mirrors.pure rfl)
  | some a =>
    exact (watch_impartial (change_impartial _)).andThen fun _ => own_impartial.andThen fun _ =>
      hplace.ite (Mirrors.pure rfl)

theorem resolveType_impartial (hk : h.Mirrors R) (owner : String) :
    Impartial R (resolveType h owner : Act (Engine π) σ Unit) := by
  refine own_impartial.andThen fun e => Mirrors.ite ?_ (Mirrors.pure rfl)
  refine (ask_impartial (hk.typeMembers owner)).andThen fun r => ?_
  split
  · exact Mirrors.forM (fun m => adopt_impartial hk owner m) _
  · exact Mirrors.pure rfl
  · exact watch_impartial (Monitor.mark_impartial _)

theorem start_impartial (hk : h.Mirrors R) : Impartial R (start h : Act (Engine π) σ Unit) :=
  own_impartial.andThen fun _ => (Mirrors.forM (fun owner => resolveType_impartial hk owner) _).andThen fun _ =>
    own_impartial.andThen fun _ => give_impartial _

theorem registerHook_impartial (hk : h.Mirrors R) (owner name : String) (allowed : Bool) :
    Impartial R (registerHook h owner name allowed : Act (Engine π) σ Nat) := by
  have hresolve : Mirrors R Eq (h.resolve owner name) (h.resolve owner name) := by
    refine (hk.typeMembers owner).andThen fun r => ?_
    cases r <;> exact Mirrors.pure rfl
  refine (change_impartial _).andThen fun _ => (ask_impartial hresolve).andThen fun r => ?_
  split
  · exact (Mirrors.forM (fun op => watch_impartial (change_impartial _)) _).andThen fun _ => Mirrors.pure rfl
  · exact Mirrors.pure rfl
  · exact (watch_impartial (Monitor.mark_impartial _)).andThen fun _ => Mirrors.pure rfl

theorem threadDeclared_impartial (t : ThreadId) : Impartial R (threadDeclared t : Act (Engine π) σ Unit) :=
  (watch_impartial (Monitor.forget_impartial t)).andThen fun _ => give_impartial _

theorem bindNative_impartial (hk : h.Mirrors R) (m : MemberRef) (entry : EntryPoint) :
    Impartial R (bindNative h m entry : Act (Engine π) σ _) := by
  have hbinding : Impartial R (nativeBinding h m entry : Act (Engine π) σ _) := by
    refine own_impartial.andThen fun e => ?_
    cases e.natives.get? m.key with
    | some op => exact Mirrors.pure rfl
    | none =>
      refine (ask_impartial (hk.typeMembers m.owner)).andThen fun r => ?_
      cases r with
      | error f => exact Mirrors.pure rfl
      | ok members =>
        dsimp only
        cases members.find? fun i => i.name = m.name with
        | none => exact Mirrors.pure rfl
        | some info =>
          refine (watch_impartial (Monitor.bindNative_impartial _ _ _)).andThen fun r => ?_
          cases r with
          | error f => exact Mirrors.pure rfl
          | ok b => exact (change_impartial _).andThen fun _ => Mirrors.pure rfl
  refine hbinding.andThen fun r => ?_
  cases r with
  | ok b => exact Mirrors.pure rfl
  | error f => exact (watch_impartial (Monitor.mark_impartial _)).andThen fun _ => Mirrors.pure rfl

end Engine

/-! ## Worlds that are the same but for breakpoints -/

section

variable (left : RuntimeId → OperationId → Prop)

/-- The processes have the same threads and the same catalogues. A breakpoint that is set in
    the first, or is one of those `left`, is set in the second. -/
structure Process.Same (p p' : Process) : Prop where
  threads : p'.threads = p.threads
  nextThread : p'.nextThread = p.nextThread
  nextOperation : p'.nextOperation = p.nextOperation
  members : ∀ rt, (p'.runtime rt).members = (p.runtime rt).members
  breaks : ∀ rt op, left rt op ∨ (p.runtime rt).breaksAt op = true → (p'.runtime rt).breaksAt op = true

structure World.Same (w w' : World) : Prop where
  process : w.process.Same left w'.process
  stage : w'.stage = w.stage

end

variable {left : RuntimeId → OperationId → Prop}

namespace Process.Same

variable {p p' : Process}

theorem thread (h : p.Same left p') (t : ThreadId) : p'.thread t = p.thread t := by
  rw [Process.thread, h.threads]
  rfl

/-- What is done to a runtime, be it in two ways, leaves the processes the same if it leaves
    that runtime so. -/
theorem changeRuntime (h : p.Same left p') (rt : RuntimeId) {f f' : Runtime → Runtime}
    (hm : (f' (p'.runtime rt)).members = (f (p.runtime rt)).members)
    (hb : ∀ op, left rt op ∨ (f (p.runtime rt)).breaksAt op = true → (f' (p'.runtime rt)).breaksAt op = true) :
    (p.changeRuntime rt f).Same left (p'.changeRuntime rt f') := by
  refine ⟨h.threads, h.nextThread, h.nextOperation, fun rt' => ?_, fun rt' op => ?_⟩
  · rw [Process.runtime_changeRuntime, Process.runtime_changeRuntime]
    by_cases hrt : rt' = rt
    · rw [if_pos hrt, if_pos hrt]
      exact hm
    · rw [if_neg hrt, if_neg hrt]
      exact h.members rt'
  · rw [Process.runtime_changeRuntime, Process.runtime_changeRuntime]
    by_cases hrt : rt' = rt
    · rw [if_pos hrt, if_pos hrt, hrt]
      exact hb op
    · rw [if_neg hrt, if_neg hrt]
      exact h.breaks rt' op

/-- Which listeners a runtime has does not matter. -/
theorem changeListeners (h : p.Same left p') (rt : RuntimeId) (l l' : List Listener) :
    (p.changeRuntime rt fun r => { r with listeners := l }).Same left
      (p'.changeRuntime rt fun r => { r with listeners := l' }) :=
  h.changeRuntime rt (h.members rt) (h.breaks rt)

/-- Nor does it in one of the processes alone. -/
theorem changeListeners_right (h : p.Same left p') (rt : RuntimeId) (l' : List Listener) :
    p.Same left (p'.changeRuntime rt fun r => { r with listeners := l' }) := by
  refine ⟨h.threads, h.nextThread, h.nextOperation, fun rt' => ?_, fun rt' op hop => ?_⟩
  · rw [← h.members, Process.runtime_changeRuntime]
    split
    · rename_i e
      rw [e]
    · rfl
  · have hb := h.breaks rt' op hop
    rw [Process.runtime_changeRuntime]
    split
    · rename_i e
      rw [e] at hb
      exact hb
    · exact hb

theorem changeThread (h : p.Same left p') (t : ThreadId) (f : Thread → Thread) :
    (p.changeThread t f).Same left (p'.changeThread t f) := by
  refine ⟨?_, h.nextThread, h.nextOperation, h.members, h.breaks⟩
  show p'.threads.insert t (f (p'.thread t)) = p.threads.insert t (f (p.thread t))
  rw [h.threads, h.thread]

theorem newThread (h : p.Same left p') (name : Option String) :
    (p.newThread name).1 = (p'.newThread name).1 ∧ (p.newThread name).2.Same left (p'.newThread name).2 := by
  unfold Process.newThread
  rw [h.nextThread, h.threads]
  exact ⟨rfl, rfl, rfl, h.nextOperation, h.members, h.breaks⟩

/-- A definition adds the same to both. -/
theorem catalogue (h : p.Same left p') (rt : RuntimeId) (m : MemberRef) :
    (p.catalogue rt m).1 = (p'.catalogue rt m).1 ∧ (p.catalogue rt m).2.Same left (p'.catalogue rt m).2 := by
  have hknown : (p'.runtime rt).operation? m.key = (p.runtime rt).operation? m.key := by
    unfold Runtime.operation? Runtime.find?
    rw [h.members]
  unfold Process.catalogue
  rw [hknown, h.nextOperation]
  cases (p.runtime rt).operation? m.key with
  | some op => exact ⟨rfl, h⟩
  | none =>
    have hadded : ∀ added : List Member,
        (p.changeRuntime rt fun r => { r with members := r.members ++ added }).Same left
          (p'.changeRuntime rt fun r => { r with members := r.members ++ added }) := fun added =>
      h.changeRuntime rt (congrArg (· ++ added) (h.members rt)) (h.breaks rt)
    exact ⟨rfl, h.threads, h.nextThread, rfl, (hadded _).members, (hadded _).breaks⟩

end Process.Same

theorem Runtime.breaksAt_setBreakpoint (r : Runtime) (op o : OperationId) :
    (r.setBreakpoint op).2.breaksAt o = true ↔ r.breaksAt o = true ∨ o = op ∧ (r.byId? op).isSome = true := by
  unfold Runtime.setBreakpoint
  cases hop : r.byId? op with
  | none => simp
  | some m =>
    by_cases hb : r.breaksAt op = true
    · simp only [hb, if_true, Option.isSome_some, and_true]
      exact ⟨.inl, fun h => h.elim id fun e => e ▸ hb⟩
    · dsimp only
      rw [if_neg hb]
      simp [Runtime.breaksAt]

theorem Process.Same.setBreakpoint {p p' : Process} (h : p.Same left p') (rt : RuntimeId) (op : OperationId) :
    ((p.runtime rt).setBreakpoint op).1 = ((p'.runtime rt).setBreakpoint op).1 ∧
      (p.changeRuntime rt fun _ => ((p.runtime rt).setBreakpoint op).2).Same left
        (p'.changeRuntime rt fun _ => ((p'.runtime rt).setBreakpoint op).2) := by
  have hknown : (p'.runtime rt).byId? op = (p.runtime rt).byId? op := by
    unfold Runtime.byId?
    rw [h.members]
  refine ⟨?_, h.changeRuntime rt ?_ fun o ho => ?_⟩
  · unfold Runtime.setBreakpoint
    rw [hknown]
    cases (p.runtime rt).byId? op <;> rfl
  · have hsame := fun p : Process => (Process.changeRuntime_breakpoints p rt op).members rt
    simp only [Process.runtime_changeRuntime_self] at hsame
    rw [hsame, hsame, h.members]
  · rw [Runtime.breaksAt_setBreakpoint, hknown]
    rw [Runtime.breaksAt_setBreakpoint] at ho
    obtain ho | ho | ho := ho
    · exact .inl (h.breaks rt o (.inl ho))
    · exact .inl (h.breaks rt o (.inr ho))
    · exact .inr ho

/-- Neither host tells which breakpoints are set. -/
theorem World.host_mirrors (id : HostId) (t : ThreadId) : (World.host id t).Mirrors (World.Same left) := by
  cases id with
  | stage =>
    -- A stage answers, and moves on, by what it was set to alone.
    have hstage : ∀ {β : Type} (q : StateM Stage β) (w w' : World), w.Same left w' →
        (q w.stage).1 = (q w'.stage).1 ∧
          World.Same left { w with stage := (q w.stage).2 } { w' with stage := (q w'.stage).2 } := by
      intro β q w w' hw
      rw [hw.stage]
      exact ⟨rfl, hw.process, rfl⟩
    exact ⟨fun w w' hw => congrArg Stage.current hw.stage, fun a => hstage (Stage.host.threadInfo a),
      fun a i n => hstage (Stage.host.stackFrames a i n), fun a => hstage (Stage.host.typeMembers a),
      fun op => hstage (Stage.host.memberInfo op), fun op => hstage (Stage.host.setBreakpoint op)⟩
  | runtime rt =>
    refine ⟨fun _ _ _ => rfl, fun a w w' hw => ⟨?_, hw⟩, fun a i n w w' hw => ⟨?_, hw⟩, fun owner w w' hw => ⟨?_, hw⟩,
      fun op w w' hw => ⟨?_, hw⟩, fun op w w' hw => ?_⟩
    · rw [World.host_threadInfo, World.host_threadInfo, hw.process.thread]
    · rw [World.host_stackFrames, World.host_stackFrames, hw.process.thread]
    · show Runtime.typeMembers _ _ = Runtime.typeMembers _ _
      unfold Runtime.typeMembers Runtime.membersOf
      rw [hw.process.members]
    · show Runtime.memberInfo _ _ = Runtime.memberInfo _ _
      unfold Runtime.memberInfo Runtime.byId?
      rw [hw.process.members]
    · obtain ⟨hsaid, hset⟩ := hw.process.setBreakpoint rt op
      exact ⟨hsaid, hset, hw.stage⟩

end StallGuard
