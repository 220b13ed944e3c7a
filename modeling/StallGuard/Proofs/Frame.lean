/-
  StallGuard.Proofs.Frame — what the acts of monitors and engines leave alone.

  Whatever the host answers, a check moves only counters and kept verdicts, resolving
  only hooks, targets and counters, and the host's state only as far as single requests
  move it. Each act is shown once to keep every set of scenes that says nothing of what
  it may change (`Scene.Within`); callers choose the set.
  - `check_keeps`, `classify_keeps`: for sets that ignore counters and verdicts
    (`Monitor.Indifferent`).
  - `resolveType_keeps`, `start_keeps`, `bindNative_keeps`: for sets that ignore all of
    the monitor but its register and window (`Engine.Aside`).
-/

import StallGuard.Engine.Basic
import StallGuard.Proofs.Catalogue

namespace StallGuard

variable {μ σ π β : Type}

/-- The actor is in `J` and its host in `I`. -/
structure Scene.Within (J : μ → Prop) (I : σ → Prop) (s : Scene μ σ) : Prop where
  own : J s.own
  host : I s.host

namespace Act

variable {J : μ → Prop} {I : σ → Prop}

theorem own_keeps : Keeps (Scene.Within J I) (own : Act μ σ μ) := fun _ h => h

theorem change_keeps {f : μ → μ} (hf : ∀ m, J m → J (f m)) : Keeps (Scene.Within J I) (change f : Act μ σ Unit) :=
  fun _ h => ⟨hf _ h.own, h.host⟩

theorem ask_keeps {q : StateM σ β} (hq : Keeps I q) : Keeps (Scene.Within J I) (ask q : Act μ σ β) :=
  fun _ h => ⟨h.own, hq _ h.host⟩

theorem give_keeps (n : Notice) : Keeps (Scene.Within J I) (give n : Act μ σ Unit) := fun _ h => ⟨h.own, h.host⟩

end Act

open Act

/-! ## Requests over several steps -/

theorem scanFrom_keeps {h : Host σ} {I : σ → Prop} {t : ThreadId}
    (hpage : ∀ start count, Keeps I (h.stackFrames t start count)) (hooks : Hooks) (w : Window)
    (rounds depth : Nat) (b : Bool) : Keeps I (scanFrom h hooks w t rounds depth b) := by
  induction rounds generalizing depth b with
  | zero => exact Keeps.pure _
  | succ rounds ih =>
    unfold scanFrom
    refine Keeps.ite (fun _ => Keeps.bind (hpage _ _) fun r => ?_) fun _ => Keeps.pure _
    cases r with
    | error f => exact Keeps.pure _
    | ok page =>
      dsimp only
      cases readFrames hooks b page with
      | none => exact Keeps.pure _
      | some b' => exact Keeps.ite (fun _ => Keeps.pure _) fun _ => ih _ _

theorem Host.Reads.scanFrom {h : Host σ} {I : σ → Prop} (hk : h.Reads I) (hooks : Hooks) (w : Window) (t : ThreadId)
    (rounds depth : Nat) (b : Bool) : StallGuard.Keeps I (scanFrom h hooks w t rounds depth b) :=
  scanFrom_keeps (hk.stackFrames t) hooks w rounds depth b

theorem Host.Reads.resolve {h : Host σ} {I : σ → Prop} (hk : h.Reads I) (owner name : String) :
    StallGuard.Keeps I (h.resolve owner name) := by
  refine Keeps.bind (hk.typeMembers owner) fun r => ?_
  cases r <;> exact Keeps.pure _

/-! ## Checks -/

namespace Monitor

/-- `J` says nothing of counters and kept verdicts. -/
structure Indifferent (J : Monitor → Prop) : Prop where
  counters : ∀ m c, J m → J { m with counters := c }
  verdicts : ∀ m v, J m → J { m with register := { m.register with verdicts := v } }

variable {J : Monitor → Prop} {I : σ → Prop} {h : Host σ}

theorem mark_keeps (hJ : ∀ m c, J m → J { m with counters := c }) (t : Tally) :
    Keeps (Scene.Within J I) (mark t : Act Monitor σ Unit) :=
  Keeps.bind (change_keeps fun m => hJ m _) fun _ => give_keeps _

theorem isRestricted_keeps (hJ : Indifferent J) (hk : h.Reads I) (t : ThreadId) :
    Keeps (Scene.Within J I) (isRestricted h t) := by
  refine Keeps.bind own_keeps fun m => ?_
  cases m.register.verdicts.get? t with
  | some b => exact Keeps.pure _
  | none =>
    refine Keeps.bind (ask_keeps (hk.threadInfo t)) fun r => ?_
    cases r with
    | error f => exact Keeps.bind (mark_keeps hJ.counters _) fun _ => Keeps.pure _
    | ok i =>
      refine Keeps.ite (fun _ => Keeps.pure _) fun _ => ?_
      refine Keeps.bind (change_keeps fun m => hJ.verdicts m _) fun _ => ?_
      exact Keeps.bind (mark_keeps hJ.counters _) fun _ => Keeps.bind (give_keeps _) fun _ => Keeps.pure _

theorem forget_keeps (hJ : Indifferent J) (t : ThreadId) :
    Keeps (Scene.Within J I) (forget t : Act Monitor σ Bool) :=
  Keeps.bind own_keeps fun _ => Keeps.bind (change_keeps fun m => hJ.verdicts m _) fun _ => Keeps.pure _

theorem classify_keeps (hJ : Indifferent J) (hk : h.Reads I) (t : ThreadId) (start : ScanStart) :
    Keeps (Scene.Within J I) (classify h t start) := by
  refine Keeps.bind (mark_keeps hJ.counters _) fun _ => ?_
  refine Keeps.bind (isRestricted_keeps hJ hk t) fun b => ?_
  refine Keeps.ite (fun _ => Keeps.bind own_keeps fun m => ?_) fun _ => Keeps.pure _
  refine Keeps.bind (ask_keeps (hk.scanFrom _ _ _ _ _ _)) fun r => ?_
  cases r with
  | ok v => exact Keeps.pure _
  | error f => exact Keeps.bind (mark_keeps hJ.counters _) fun _ => Keeps.pure _

theorem describe_keeps (hJ : Indifferent J) (hk : h.Reads I) (op : OperationId) :
    Keeps (Scene.Within J I) (describe h op) := by
  refine Keeps.bind (ask_keeps (hk.memberInfo op)) fun r => ?_
  cases r with
  | ok m => exact Keeps.pure _
  | error f => exact Keeps.bind (mark_keeps hJ.counters _) fun _ => Keeps.pure _

theorem report_keeps (hJ : Indifferent J) (c : BlockingCall) :
    Keeps (Scene.Within J I) (report c : Act Monitor σ BlockingCall) :=
  Keeps.bind (mark_keeps hJ.counters _) fun _ => Keeps.pure _

theorem check_keeps (hJ : Indifferent J) (hk : h.Reads I) (t : ThreadId) (op : OperationId) (start : ScanStart) :
    Keeps (Scene.Within J I) (check h t op start) := by
  refine Keeps.bind (classify_keeps hJ hk t start) fun v => ?_
  cases v with
  | permitted => exact Keeps.pure _
  | violating =>
    refine Keeps.bind own_keeps fun m => ?_
    cases m.targets.member? op with
    | some m => exact (report_keeps hJ _).map _
    | none => exact Keeps.bind (describe_keeps hJ hk op) fun c => (report_keeps hJ c).map _

theorem bindNative_keeps (hJ : ∀ m ts c, J m → J { m with targets := ts, counters := c }) (m : Member)
    (guarded : Bool) (entry : EntryPoint) :
    Keeps (Scene.Within J I) (bindNative m guarded entry : Act Monitor σ (Except Fault Binding)) := by
  refine Keeps.bind own_keeps fun w => ?_
  cases w.targets.get? m.id with
  | some tg => exact Keeps.pure _
  | none =>
    refine Keeps.bind (change_keeps fun w hw => hJ w _ w.counters hw) fun _ => ?_
    refine Keeps.bind (mark_keeps (fun w c hw => hJ w w.targets c hw) _) fun _ => ?_
    exact Keeps.bind (give_keeps _) fun _ => Keeps.pure _

theorem setBreakpoint_keeps (hJ : ∀ m ts c, J m → J { m with targets := ts, counters := c }) (hk : h.Keeps I)
    (m : Member) : Keeps (Scene.Within J I) (setBreakpoint h m) := by
  refine Keeps.bind own_keeps fun w => ?_
  cases w.targets.get? m.id with
  | some tg => exact Keeps.pure _
  | none =>
    refine Keeps.bind (ask_keeps (hk.setBreakpoint m.id)) fun r => ?_
    cases r with
    | error f => exact Keeps.pure _
    | ok u =>
      refine Keeps.bind (change_keeps fun w hw => hJ w _ w.counters hw) fun _ => ?_
      exact Keeps.bind (mark_keeps (fun w c hw => hJ w w.targets c hw) _) fun _ => Keeps.pure _

end Monitor

/-! ## Engines -/

namespace Engine

variable {J : Engine π → Prop} {I : σ → Prop} {h : Host σ}

theorem watch_keeps {a : Act Monitor σ β}
    (ha : ∀ e : Engine π, Keeps (Scene.Within (fun m => J { e with monitor := m }) I) a) :
    Keeps (Scene.Within J I) (watch a) := by
  intro s hs
  have := ha s.own ⟨s.own.monitor, s.host, s.notices⟩ ⟨hs.own, hs.host⟩
  exact ⟨this.own, this.host⟩

/-- `J` says nothing of counters and kept verdicts. -/
structure Indifferent (J : Engine π → Prop) : Prop where
  monitor : ∀ e : Engine π, Monitor.Indifferent fun m => J { e with monitor := m }

/-- `J` says nothing of the monitor but its register and window. -/
def Aside (J : Engine π → Prop) : Prop :=
  ∀ (e : Engine π) (hooks : Hooks) (targets : Targets) (counters : Counters), J e →
    J { e with monitor := { e.monitor with hooks, targets, counters } }

theorem setHook_keeps (hJ : Aside J) (op : OperationId) (hook : Hook) :
    Keeps (Scene.Within J I) (watch (Monitor.setHook op hook) : Act (Engine π) σ Unit) :=
  watch_keeps fun e => change_keeps fun m => hJ { e with monitor := m } _ m.targets m.counters

theorem mark_keeps (hJ : Aside J) (t : Tally) :
    Keeps (Scene.Within J I) (watch (Monitor.mark t) : Act (Engine π) σ Unit) :=
  watch_keeps fun e => Monitor.mark_keeps (fun m c => hJ { e with monitor := m } m.hooks m.targets c) t

theorem placeBreakpoint_keeps (hJ : Aside J) (hk : h.Keeps I) (m : Member) :
    Keeps (Scene.Within J I) (placeBreakpoint h m : Act (Engine π) σ Unit) := by
  refine Keeps.bind (watch_keeps fun e => Monitor.setBreakpoint_keeps
    (fun w ts c => hJ { e with monitor := w } w.hooks ts c) hk m) fun r => ?_
  match r with
  | .ok true => exact give_keeps _
  | .ok false => exact Keeps.pure _
  | .error f => exact mark_keeps hJ _

theorem adopt_keeps (hJ : Aside J) (hk : h.Keeps I) (owner : String) (m : Member) :
    Keeps (Scene.Within J I) (adopt h owner m : Act (Engine π) σ Unit) := by
  have hplace : ∀ e : Engine π, Keeps (Scene.Within J I)
      (if e.policy.isBlocking (owner, m.name) && !m.native then placeBreakpoint h m else pure ()) := fun e =>
    Keeps.ite (fun _ => placeBreakpoint_keeps hJ hk m) fun _ => Keeps.pure _
  refine Keeps.bind own_keeps fun e => ?_
  cases e.requests.get? (owner, m.name) with
  | none => exact Keeps.bind own_keeps hplace
  | some a => exact Keeps.bind (setHook_keeps hJ _ _) fun _ => Keeps.bind own_keeps hplace

theorem resolveType_keeps (hJ : Aside J) (hk : h.Keeps I) (owner : String) :
    Keeps (Scene.Within J I) (resolveType h owner : Act (Engine π) σ Unit) := by
  refine Keeps.bind own_keeps fun e => Keeps.ite (fun _ => ?_) fun _ => Keeps.pure _
  refine Keeps.bind (ask_keeps (hk.typeMembers owner)) fun r => ?_
  split
  · exact Keeps.forM fun m _ => adopt_keeps hJ hk owner m
  · exact Keeps.pure _
  · exact mark_keeps hJ _

theorem start_keeps (hJ : Aside J) (hk : h.Keeps I) : Keeps (Scene.Within J I) (start h : Act (Engine π) σ Unit) := by
  refine Keeps.bind own_keeps fun e => ?_
  refine Keeps.bind (Keeps.forM fun owner _ => resolveType_keeps hJ hk owner) fun _ => ?_
  exact Keeps.bind own_keeps fun _ => give_keeps _

/-- What comes of a request once it is written down. -/
theorem registerHook_keeps (hJ : Aside J) (hr : ∀ e requests, J e → J { e with requests }) (hk : h.Keeps I)
    (owner name : String) (allowed : Bool) :
    Keeps (Scene.Within J I) (registerHook h owner name allowed : Act (Engine π) σ Nat) := by
  refine Keeps.bind (change_keeps fun e => hr e _) fun _ => ?_
  refine Keeps.bind (ask_keeps (hk.resolve owner name)) fun r => ?_
  split
  · exact Keeps.bind (Keeps.forM fun op _ => setHook_keeps hJ _ _) fun _ => Keeps.pure _
  · exact Keeps.pure _
  · exact Keeps.bind (mark_keeps hJ _) fun _ => Keeps.pure _

theorem threadDeclared_keeps (hJ : Indifferent J) (t : ThreadId) :
    Keeps (Scene.Within J I) (threadDeclared t : Act (Engine π) σ Unit) :=
  Keeps.bind (watch_keeps fun e => Monitor.forget_keeps (hJ.monitor e) t) fun _ => give_keeps _

theorem nativeBinding_keeps (hJ : Aside J) (hn : ∀ e natives, J e → J { e with natives }) (hk : h.Keeps I)
    (m : MemberRef) (entry : EntryPoint) :
    Keeps (Scene.Within J I) (nativeBinding h m entry : Act (Engine π) σ _) := by
  refine Keeps.bind own_keeps fun e => ?_
  cases e.natives.get? m.key with
  | some op => exact Keeps.pure _
  | none =>
    refine Keeps.bind (ask_keeps (hk.typeMembers m.owner)) fun r => ?_
    cases r with
    | error f => exact Keeps.pure _
    | ok members =>
      dsimp only
      cases members.find? fun i => i.name = m.name with
      | none => exact Keeps.pure _
      | some info =>
        refine Keeps.bind (watch_keeps fun e => Monitor.bindNative_keeps
          (fun w ts c => hJ { e with monitor := w } w.hooks ts c) _ _ _) fun r => ?_
        cases r with
        | error f => exact Keeps.pure _
        | ok b => exact Keeps.bind (change_keeps fun e => hn e _) fun _ => Keeps.pure _

theorem bindNative_keeps (hJ : Aside J) (hn : ∀ e natives, J e → J { e with natives }) (hk : h.Keeps I)
    (m : MemberRef) (entry : EntryPoint) :
    Keeps (Scene.Within J I) (bindNative h m entry : Act (Engine π) σ _) := by
  refine Keeps.bind (nativeBinding_keeps hJ hn hk m entry) fun r => ?_
  cases r with
  | ok b => exact Keeps.pure _
  | error f => exact Keeps.bind (mark_keeps hJ _) fun _ => Keeps.pure _

end Engine

end StallGuard
