/-
  StallGuard.Proofs.Judging — the mark that a check leaves, and a second one if it convicts.

  Among the notices given two tell what was judged: one is given at the start of every
  check, one when a violation was found, just before its handler is called
  (`Notice.judgement?`). Whatever the host answers:
  - `check_judges`: a check leaves the first, and the second exactly if it reports a call.
  - `resolveType_silent`, `start_silent`, `bindNative_silent`, `threadDeclared_silent`: no
    other act of an engine leaves either. So where none appears, nothing was checked, and
    no handler was called.
-/

import StallGuard.Engine.Basic
import StallGuard.Proofs.Stepping

namespace StallGuard

open Act

variable {μ σ π β : Type} {h : Host σ} {l : List Tally}

/-- The mark of a check made, or of a violation found. -/
def Notice.judgement? : Notice → Option Tally
  | .marked .check => some .check
  | .marked .violation => some .violation
  | _ => none

/-- What was judged, oldest first. -/
def Scene.judgements (x : Scene μ σ) : List Tally := x.notices.filterMap Notice.judgement?

/-- So much was judged. -/
def Scene.Judged (l : List Tally) (x : Scene μ σ) : Prop := x.judgements = l

namespace Act

theorem own_silent : Keeps (Scene.Judged l) (own : Act μ σ μ) := fun _ hx => hx

theorem change_silent (f : μ → μ) : Keeps (Scene.Judged l) (change f : Act μ σ Unit) := fun _ hx => hx

theorem ask_silent (q : StateM σ β) : Keeps (Scene.Judged l) (ask q : Act μ σ β) := fun _ hx => hx

theorem judgements_give (n : Notice) (x : Scene μ σ) :
    (give n x).2.judgements = x.judgements ++ n.judgement?.toList := by
  show (x.notices ++ [n]).filterMap Notice.judgement? = _
  rw [List.filterMap_append, List.filterMap_cons]
  cases n.judgement? <;> rfl

theorem give_silent {n : Notice} (hn : n.judgement? = none) : Keeps (Scene.Judged l) (give n : Act μ σ Unit) := by
  intro x hx
  show (give n x).2.judgements = l
  rw [judgements_give, hn, Option.toList_none, List.append_nil]
  exact hx

end Act

/-! ## Monitors -/

namespace Monitor

theorem judgements_mark (c : Tally) (x : Scene Monitor σ) :
    (mark c x).2.judgements = x.judgements ++ (Notice.marked c).judgement?.toList := judgements_give (.marked c) _

theorem mark_silent {c : Tally} (hc : (Notice.marked c).judgement? = none) :
    Keeps (Scene.Judged l) (mark c : Act Monitor σ Unit) := Keeps.bind (change_silent _) fun _ => give_silent hc

theorem isRestricted_silent (t : ThreadId) : Keeps (Scene.Judged l) (isRestricted h t) := by
  refine Keeps.bind own_silent fun m => ?_
  cases m.register.verdicts.get? t with
  | some b => exact Keeps.pure _
  | none =>
    refine Keeps.bind (ask_silent _) fun r => ?_
    cases r with
    | error f => exact Keeps.bind (mark_silent rfl) fun _ => Keeps.pure _
    | ok i =>
      refine Keeps.ite (fun _ => Keeps.pure _) fun _ => Keeps.bind (change_silent _) fun _ => ?_
      exact Keeps.bind (mark_silent rfl) fun _ => Keeps.bind (give_silent rfl) fun _ => Keeps.pure _

theorem forget_silent (t : ThreadId) : Keeps (Scene.Judged l) (forget t : Act Monitor σ Bool) :=
  Keeps.bind own_silent fun _ => Keeps.bind (change_silent _) fun _ => Keeps.pure _

theorem bindNative_silent (m : Member) (guarded : Bool) (entry : EntryPoint) :
    Keeps (Scene.Judged l) (bindNative m guarded entry : Act Monitor σ (Except Fault Binding)) := by
  refine Keeps.bind own_silent fun w => ?_
  cases w.targets.get? m.id with
  | some tg => exact Keeps.pure _
  | none =>
    refine Keeps.bind (change_silent _) fun _ => Keeps.bind (mark_silent rfl) fun _ => ?_
    exact Keeps.bind (give_silent rfl) fun _ => Keeps.pure _

theorem setBreakpoint_silent (m : Member) : Keeps (Scene.Judged l) (setBreakpoint h m) := by
  refine Keeps.bind own_silent fun w => ?_
  cases w.targets.get? m.id with
  | some tg => exact Keeps.pure _
  | none =>
    refine Keeps.bind (ask_silent _) fun r => ?_
    cases r with
    | error f => exact Keeps.pure _
    | ok u => exact Keeps.bind (change_silent _) fun _ => Keeps.bind (mark_silent rfl) fun _ => Keeps.pure _

theorem describe_silent (op : OperationId) : Keeps (Scene.Judged l) (describe h op) := by
  refine Keeps.bind (ask_silent _) fun r => ?_
  cases r with
  | ok m => exact Keeps.pure _
  | error f => exact Keeps.bind (mark_silent rfl) fun _ => Keeps.pure _

/-! ### Checks -/

theorem classify_judges (h : Host σ) (t : ThreadId) (start : ScanStart) (x : Scene Monitor σ) :
    (classify h t start x).2.judgements = x.judgements ++ [.check] := by
  -- The mark is given first; all that follows is silent.
  have hmark : Scene.Judged (x.judgements ++ [.check]) (mark .check x).2 := judgements_mark .check x
  refine Keeps.after hmark fun _ => ?_
  refine Keeps.bind (isRestricted_silent t) fun b => Keeps.ite (fun _ => ?_) fun _ => Keeps.pure _
  refine Keeps.bind own_silent fun m => Keeps.bind (ask_silent _) fun r => ?_
  cases r with
  | ok v => exact Keeps.pure _
  | error f => exact Keeps.bind (mark_silent rfl) fun _ => Keeps.pure _

/-- The marks that a check leaves if it reports this. -/
def marks : Option BlockingCall → List Tally
  | none => [.check]
  | some _ => [.check, .violation]

theorem check_judges (h : Host σ) (t : ThreadId) (op : OperationId) (start : ScanStart) (x : Scene Monitor σ) :
    (check h t op start x).2.judgements = x.judgements ++ marks (check h t op start x).1 := by
  unfold check
  have hchecked := classify_judges h t start x
  rw [bind_at]
  generalize classify h t start x = r at hchecked ⊢
  obtain ⟨v, y⟩ := r
  cases v with
  | permitted => exact hchecked
  | violating =>
    dsimp only
    rw [bind_at, own_at]
    cases y.own.targets.member? op with
    | some i =>
      refine (judgements_mark .violation y).trans ?_
      rw [hchecked, List.append_assoc]
      rfl
    | none =>
      refine (judgements_mark .violation (describe h op y).2).trans ?_
      have hdescribed : (describe h op y).2.judgements = y.judgements := describe_silent op y rfl
      rw [hdescribed, hchecked, List.append_assoc]
      rfl

end Monitor

/-! ## Engines -/

namespace Engine

theorem watch_silent {a : Act Monitor σ β} (ha : Keeps (Scene.Judged l) a) :
    Keeps (Scene.Judged l) (watch a : Act (Engine π) σ β) := fun x hx => ha ⟨x.own.monitor, x.host, x.notices⟩ hx

theorem placeBreakpoint_silent (m : Member) :
    Keeps (Scene.Judged l) (placeBreakpoint h m : Act (Engine π) σ Unit) := by
  refine Keeps.bind (watch_silent (Monitor.setBreakpoint_silent m)) fun r => ?_
  match r with
  | .ok true => exact give_silent rfl
  | .ok false => exact Keeps.pure _
  | .error f => exact watch_silent (Monitor.mark_silent rfl)

theorem adopt_silent (owner : String) (m : Member) :
    Keeps (Scene.Judged l) (adopt h owner m : Act (Engine π) σ Unit) := by
  have hplace : ∀ e : Engine π, Keeps (Scene.Judged l) (if e.policy.isBlocking (owner, m.name) && !m.native
      then placeBreakpoint h m else pure () : Act (Engine π) σ Unit) := fun e =>
    Keeps.ite (fun _ => placeBreakpoint_silent m) fun _ => Keeps.pure _
  refine Keeps.bind own_silent fun e => ?_
  cases e.requests.get? (owner, m.name) with
  | none => exact Keeps.bind own_silent hplace
  | some a => exact Keeps.bind (watch_silent (change_silent _)) fun _ => Keeps.bind own_silent hplace

theorem resolveType_silent (owner : String) :
    Keeps (Scene.Judged l) (resolveType h owner : Act (Engine π) σ Unit) := by
  refine Keeps.bind own_silent fun e => Keeps.ite (fun _ => ?_) fun _ => Keeps.pure _
  refine Keeps.bind (ask_silent _) fun r => ?_
  split
  · exact Keeps.forM fun m _ => adopt_silent owner m
  · exact Keeps.pure _
  · exact watch_silent (Monitor.mark_silent rfl)

theorem start_silent : Keeps (Scene.Judged l) (start h : Act (Engine π) σ Unit) := by
  refine Keeps.bind own_silent fun e => Keeps.bind (Keeps.forM fun owner _ => resolveType_silent owner) fun _ => ?_
  exact Keeps.bind own_silent fun _ => give_silent rfl

theorem threadDeclared_silent (t : ThreadId) :
    Keeps (Scene.Judged l) (threadDeclared t : Act (Engine π) σ Unit) :=
  Keeps.bind (watch_silent (Monitor.forget_silent t)) fun _ => give_silent rfl

theorem nativeBinding_silent (m : MemberRef) (entry : EntryPoint) :
    Keeps (Scene.Judged l) (nativeBinding h m entry : Act (Engine π) σ _) := by
  refine Keeps.bind own_silent fun e => ?_
  cases e.natives.get? m.key with
  | some op => exact Keeps.pure _
  | none =>
    refine Keeps.bind (ask_silent _) fun r => ?_
    cases r with
    | error f => exact Keeps.pure _
    | ok members =>
      dsimp only
      cases members.find? fun i => i.name = m.name with
      | none => exact Keeps.pure _
      | some info =>
        refine Keeps.bind (watch_silent (Monitor.bindNative_silent _ _ _)) fun r => ?_
        cases r with
        | error f => exact Keeps.pure _
        | ok b => exact Keeps.bind (change_silent _) fun _ => Keeps.pure _

theorem bindNative_silent (m : MemberRef) (entry : EntryPoint) :
    Keeps (Scene.Judged l) (bindNative h m entry : Act (Engine π) σ _) := by
  refine Keeps.bind (nativeBinding_silent m entry) fun r => ?_
  cases r with
  | ok b => exact Keeps.pure _
  | error f => exact Keeps.bind (watch_silent (Monitor.mark_silent rfl)) fun _ => Keeps.pure _

end Engine

end StallGuard
