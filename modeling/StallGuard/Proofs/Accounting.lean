/-
  StallGuard.Proofs.Accounting — the counters agree with the tables.

  Counters move in many places, and tables in others. The ledger of an engine says where
  its counters stand and what its tables must hold then (`Monitor.Ledger`); `dropped` is
  how many kept verdicts were dropped so far, by whomever. Every act enters in the ledger
  what it did, and nothing else enters anything.
  - `Duty`: what an engine can be made to do, on any host that may refuse anything.
  - `Serving`: an engine that does one duty after another, each on a host as it happens to be.
  - `Sheltered`: the same with such duties only as are left of operations inside a check.
  - `Tallied`: the same on a site, where declarations drop verdicts besides.
  - `Errand`: what a thread can do while it is inside a check.

  Proved:
  - `Duty.act_ledger`, `Move.ledger`: what one duty, one move enters.
  - `Sheltered.ledger`, `Errands.ledger`: inside a check nothing is entered under checks or
    violations, but for classifications that are asked for.
  - `counters_account`: so the counters account for the tables in every reachable state.
-/

import StallGuard.Proofs.Capturing
import StallGuard.Proofs.Declaring
import StallGuard.Proofs.Operation
import StallGuard.Proofs.Reentry

namespace StallGuard

open Act Engine Site

variable {σ π α β : Type} {c v n : Nat}

/-! ## Ledgers -/

namespace Monitor

/-- So many checks and violations were counted, and the other counters say what the tables
    hold, if so many verdicts were dropped. -/
structure Ledger (checks violations dropped : Nat) (m : Monitor) : Prop where
  checks : m.counters.checks = checks
  violations : m.counters.violations = violations
  restricted : m.counters.restricted ≤ m.counters.classified
  verdicts : m.register.verdicts.size + dropped = m.counters.classified
  targets : m.counters.nativesBound + m.counters.breakpointsSet = m.targets.size

/-- What the counters say of each other and of the tables, if so many verdicts were dropped. -/
structure Accounts (dropped : Nat) (m : Monitor) : Prop where
  violations : m.counters.violations ≤ m.counters.checks
  restricted : m.counters.restricted ≤ m.counters.classified
  verdicts : m.register.verdicts.size = m.counters.classified - dropped
  dropped : dropped ≤ m.counters.classified
  targets : m.counters.nativesBound + m.counters.breakpointsSet = m.targets.size

namespace Ledger

variable {m m' : Monitor} {t : ThreadId} {start : ScanStart} {log : List Exchange}

theorem accounts (h : Ledger c v n m) (hle : v ≤ c) : Accounts n m where
  violations := by rw [h.violations, h.checks]; exact hle
  restricted := h.restricted
  verdicts := by have := h.verdicts; omega
  dropped := by have := h.verdicts; omega
  targets := h.targets

/-- A new monitor has counted nothing and holds nothing. -/
theorem ofPredicates (restricts : ThreadPredicate) (volatile : Option ThreadPredicate) (w : Window) :
    Ledger 0 0 0 (.ofPredicates restricts volatile w) := ⟨rfl, rfl, Nat.le_refl 0, rfl, rfl⟩

theorem fault (h : Ledger c v n m) (f : Fault) : Ledger c v n (m.counting (.fault f)) :=
  ⟨h.checks, h.violations, h.restricted, h.verdicts, h.targets⟩

theorem check (h : Ledger c v n m) : Ledger (c + 1) v n (m.counting .check) :=
  ⟨congrArg (· + 1) h.checks, h.violations, h.restricted, h.verdicts, h.targets⟩

theorem violation (h : Ledger c v n m) : Ledger c (v + 1) n (m.counting .violation) :=
  ⟨h.checks, congrArg (· + 1) h.violations, h.restricted, h.verdicts, h.targets⟩

/-- A verdict that is new is kept and counted. -/
theorem judged (h : Ledger c v n m) (hnone : m.register.verdicts.get? t = none) (b : Bool) :
    Ledger c v n (m.judged t b) := by
  have hsize : (m.judged t b).register.verdicts.size = m.register.verdicts.size + 1 :=
    (Table.size_insert ..).trans (if_neg (by simp [Table.contains, hnone]))
  refine ⟨h.checks, h.violations, ?_, ?_, h.targets⟩
  · have hb : b.toNat ≤ 1 := Bool.toNat_le b
    exact Nat.add_le_add h.restricted hb
  · have hv := h.verdicts
    show (m.judged t b).register.verdicts.size + n = m.counters.classified + 1
    omega

/-- A verdict that was kept is dropped, and that is one more. -/
theorem erased (h : Ledger c v n m) (t : ThreadId) :
    Ledger c v (n + (m.register.verdicts.contains t).toNat)
      { m with register := { m.register with verdicts := m.register.verdicts.erase t } } := by
  refine ⟨h.checks, h.violations, h.restricted, ?_, h.targets⟩
  have hv := h.verdicts
  have hsize := m.register.verdicts.size_erase t
  show (m.register.verdicts.erase t).size + _ = m.counters.classified
  omega

theorem having (h : Ledger c v n m) {op : OperationId} (hnone : m.targets.get? op = none) (g : Target) :
    Ledger c v n (m.having op g) := by
  have hsize : (m.having op g).targets.size = m.targets.size + 1 :=
    (Table.size_insert ..).trans (if_neg (by simp [Table.contains, hnone]))
  have ht := h.targets
  cases g with
  | callSite => exact ⟨h.checks, h.violations, h.restricted, h.verdicts, by
      show m.counters.nativesBound + (m.counters.breakpointsSet + 1) = _
      omega⟩
  | native => exact ⟨h.checks, h.violations, h.restricted, h.verdicts, by
      show m.counters.nativesBound + 1 + m.counters.breakpointsSet = _
      omega⟩

theorem asked (h : Ledger c v n m) {info : Except Fault ThreadInfo} {b : Bool} (ha : Asked m t info b log m') :
    Ledger c v n m' := by
  cases ha with
  | kept => exact h
  | refused => exact h.fault _
  | volatile => exact h
  | lasting hnone => exact h.judged hnone _

theorem classed (h : Ledger c v n m) {verdict : Verdict} (hc : Classed m t start verdict log m') :
    Ledger (c + 1) v n m' := by
  cases hc with
  | spared ha => exact h.check.asked ha
  | scanned ha => exact h.check.asked ha
  | unread ha => exact (h.check.asked ha).fault _

theorem served (h : Ledger c v n m) {answer : Except Fault Unit} {call : TargetCall} {r : Except Fault Grant}
    (hs : Served m answer call log r m') : Ledger c v n m' := by
  cases hs with
  | captured hnone => exact h.having hnone _
  | set hnone => exact h.having hnone _
  | _ => exact h

end Ledger

/-! ### Acts of a monitor -/

/-- The act enters no check, no violation and no verdict dropped. -/
abbrev Even (a : Act Monitor σ β) : Prop := ∀ c v n, Keeps (fun x => Ledger c v n x.own) a

variable (h : Host σ)

theorem fault_even (f : Fault) : Even (mark (.fault f) : Act Monitor σ Unit) := fun _ _ _ _ hx => hx.fault f

theorem breakpointHit_even : Even (mark .breakpointHit : Act Monitor σ Unit) := fun _ _ _ _ hx =>
  ⟨hx.checks, hx.violations, hx.restricted, hx.verdicts, hx.targets⟩

theorem setHook_even (op : OperationId) (k : Hook) : Even (setHook op k : Act Monitor σ Unit) := fun _ _ _ _ hx =>
  ⟨hx.checks, hx.violations, hx.restricted, hx.verdicts, hx.targets⟩

theorem isRestricted_even (t : ThreadId) : Even (isRestricted h t) := by
  intro c v n x hx
  obtain ⟨log, -, ha⟩ := isRestricted_asked h t x
  exact hx.asked ha

theorem setBreakpoint_even (m : Member) : Even (setBreakpoint h m) := by
  intro c v n x hx
  obtain ⟨log, -, hs⟩ := play_served h (.breakpoint m) x
  exact hx.served hs

/-- A bind asks nothing, so it does not matter which host there is. -/
theorem bindNative_even (h : Host σ) (m : Member) (guarded : Bool) (entry : EntryPoint) :
    Even (bindNative m guarded entry : Act Monitor σ _) := by
  intro c v n x hx
  obtain ⟨log, -, hs⟩ := play_served h (.bind m guarded entry) x
  exact hx.served hs

theorem describe_even (op : OperationId) : Even (describe h op) := by
  refine fun c v n => Keeps.bind (fun _ hx => hx) fun r => ?_
  cases r with
  | ok m => exact Keeps.pure _
  | error f => exact Keeps.bind (fault_even f c v n) fun _ => Keeps.pure _

variable {h} {x : Scene Monitor σ}

theorem classify_ledger (hx : Ledger c v n x.own) (t : ThreadId) (start : ScanStart) :
    Ledger (c + 1) v n (classify h t start x).2.own := by
  obtain ⟨log, -, hc⟩ := classify_classed h t start x
  exact hx.classed hc

/-- A check is one classification, and one violation at most. -/
theorem check_ledger (hx : Ledger c v n x.own) (t : ThreadId) (op : OperationId) (start : ScanStart) :
    ∃ k ≤ 1, Ledger (c + 1) (v + k) n (check h t op start x).2.own := by
  have hclassified := classify_ledger (h := h) hx t start
  unfold check
  rw [bind_at]
  generalize classify h t start x = r at hclassified ⊢
  obtain ⟨verdict, x₁⟩ := r
  cases verdict with
  | permitted => exact ⟨0, Nat.zero_le 1, hclassified⟩
  | violating =>
    refine ⟨1, Nat.le_refl 1, ?_⟩
    dsimp only
    rw [bind_at, own_at]
    dsimp only
    cases x₁.own.targets.member? op with
    | some m => exact hclassified.violation
    | none => exact (describe_even h op _ _ _ x₁ hclassified).violation

end Monitor

/-! ## Duties -/

/-- What an engine can be made to do: what it does on its host's events, and all that can be
    asked of it. -/
inductive Duty
  | start
  | threadDeclared (thread : ThreadId)
  | use (u : Use)

namespace Use

/-- What the use does to an engine and its host. -/
def on (h : Host σ) : Use → Act (Engine π) σ Unit
  | request owner name allowed => do
    let _ ← registerHook h owner name allowed
    pure ()
  | resolve owner => resolveType h owner
  | isRestricted thread => do
    let _ ← watch (Monitor.isRestricted h thread)
    pure ()
  | forget thread => do
    let _ ← watch (Monitor.forget thread)
    pure ()
  | classify thread start => do
    let _ ← watch (Monitor.classify h thread start)
    pure ()
  | check thread op start => do
    let _ ← watch (Monitor.check h thread op start)
    pure ()
  | reached op => do
    if (← own).monitor.targets.isBreakpoint op then watch (Monitor.mark .breakpointHit) else pure ()
  | bind m entry => do
    let _ ← bindNative h m entry
    pure ()
  | hook op k => watch (Monitor.setHook op k)

theorem act_on (id : EngineId) (h : Host World) (u : Use) (x : Scene (Engine π) World) :
    (u.act id h x).2 = (u.on h x).2 := by
  cases u with
  | reached op =>
    show ((if _ then _ else _ : Act (Engine π) World (List Event)) x).2 =
      ((if _ then _ else _ : Act (Engine π) World Unit) x).2
    split <;> rfl
  | _ => rfl

/-- How many checks it counts. -/
def checks : Use → Nat
  | classify .. => 1
  | check .. => 1
  | _ => 0

/-- How many violations it may count. -/
def reports : Use → Nat
  | check .. => 1
  | _ => 0

/-- How many verdicts of the engine it drops. -/
def drops (e : Engine π) : Use → Nat
  | forget thread => (e.monitor.register.verdicts.contains thread).toNat
  | _ => 0

end Use

namespace Duty

def act (h : Host σ) : Duty → Act (Engine π) σ Unit
  | start => Engine.start h
  | threadDeclared thread => Engine.threadDeclared thread
  | use u => u.on h

def checks : Duty → Nat
  | use u => u.checks
  | _ => 0

def reports : Duty → Nat
  | use u => u.reports
  | _ => 0

def drops (e : Engine π) : Duty → Nat
  | start => 0
  | threadDeclared thread => (e.monitor.register.verdicts.contains thread).toNat
  | use u => u.drops e

end Duty

namespace Engine

variable {h : Host σ}

theorem watch_even {a : Act Monitor σ β} (ha : Monitor.Even a) (c v n : Nat) :
    Keeps (fun x => x.own.monitor.Ledger c v n) (watch a : Act (Engine π) σ β) := fun x hx =>
  ha c v n ⟨x.own.monitor, x.host, x.notices⟩ hx

theorem placeBreakpoint_even (m : Member) (c v n : Nat) :
    Keeps (fun x => x.own.monitor.Ledger c v n) (placeBreakpoint h m : Act (Engine π) σ Unit) := by
  refine Keeps.bind (watch_even (Monitor.setBreakpoint_even h m) c v n) fun r => ?_
  match r with
  | .ok true => exact fun _ hx => hx
  | .ok false => exact Keeps.pure _
  | .error f => exact watch_even (Monitor.fault_even f) c v n

theorem adopt_even (owner : String) (m : Member) (c v n : Nat) :
    Keeps (fun x => x.own.monitor.Ledger c v n) (adopt h owner m : Act (Engine π) σ Unit) := by
  have hplace : Keeps (fun x => x.own.monitor.Ledger c v n) (do
      if (← own).policy.isBlocking (owner, m.name) && !m.native then placeBreakpoint h m else pure () :
      Act (Engine π) σ Unit) :=
    Keeps.bind (fun _ hx => hx) fun _ => Keeps.ite (fun _ => placeBreakpoint_even m c v n) fun _ => Keeps.pure _
  refine Keeps.bind (fun _ hx => hx) fun e => ?_
  cases e.requests.get? (owner, m.name) with
  | none => exact hplace
  | some a => exact Keeps.bind (watch_even (Monitor.setHook_even _ _) c v n) fun _ => hplace

theorem resolveType_even (owner : String) (c v n : Nat) :
    Keeps (fun x => x.own.monitor.Ledger c v n) (resolveType h owner : Act (Engine π) σ Unit) := by
  refine Keeps.bind (fun _ hx => hx) fun e => Keeps.ite (fun _ => ?_) fun _ => Keeps.pure _
  refine Keeps.bind (fun _ hx => hx) fun r => ?_
  split
  · exact Keeps.forM fun m _ => adopt_even owner m c v n
  · exact Keeps.pure _
  · exact watch_even (Monitor.fault_even _) c v n

theorem start_even (c v n : Nat) : Keeps (fun x => x.own.monitor.Ledger c v n) (start h : Act (Engine π) σ Unit) := by
  refine Keeps.bind (fun _ hx => hx) fun e => ?_
  refine Keeps.bind (Keeps.forM fun owner _ => resolveType_even owner c v n) fun _ => ?_
  exact Keeps.bind (fun _ hx => hx) fun _ _ hx => hx

theorem registerHook_even (owner name : String) (allowed : Bool) (c v n : Nat) :
    Keeps (fun x => x.own.monitor.Ledger c v n) (registerHook h owner name allowed : Act (Engine π) σ Nat) := by
  refine Keeps.bind (fun _ hx => hx) fun _ => Keeps.bind (fun _ hx => hx) fun r => ?_
  split
  · exact Keeps.bind (Keeps.forM fun op _ => watch_even (Monitor.setHook_even _ _) c v n) fun _ => Keeps.pure _
  · exact Keeps.pure _
  · exact Keeps.bind (watch_even (Monitor.fault_even _) c v n) fun _ => Keeps.pure _

theorem nativeBinding_even (m : MemberRef) (entry : EntryPoint) (c v n : Nat) :
    Keeps (fun x => x.own.monitor.Ledger c v n) (nativeBinding h m entry : Act (Engine π) σ _) := by
  refine Keeps.bind (fun _ hx => hx) fun e => ?_
  cases e.natives.get? m.key with
  | some op => exact Keeps.pure _
  | none =>
    refine Keeps.bind (fun _ hx => hx) fun r => ?_
    cases r with
    | error f => exact Keeps.pure _
    | ok members =>
      dsimp only
      cases members.find? fun i => i.name = m.name with
      | none => exact Keeps.pure _
      | some info =>
        refine Keeps.bind (watch_even (Monitor.bindNative_even h info _ entry) c v n) fun r => ?_
        cases r with
        | error f => exact Keeps.pure _
        | ok b => exact Keeps.bind (fun _ hx => hx) fun _ => Keeps.pure _

theorem bindNative_even (m : MemberRef) (entry : EntryPoint) (c v n : Nat) :
    Keeps (fun x => x.own.monitor.Ledger c v n) (bindNative h m entry : Act (Engine π) σ _) := by
  refine Keeps.bind (nativeBinding_even m entry c v n) fun r => ?_
  cases r with
  | ok b => exact Keeps.pure _
  | error f => exact Keeps.bind (watch_even (Monitor.fault_even f) c v n) fun _ => Keeps.pure _

end Engine

variable {h : Host σ} {x : Scene (Engine π) σ}

theorem Use.on_ledger (hx : x.own.monitor.Ledger c v n) (u : Use) :
    ∃ k ≤ u.reports, (u.on h x).2.own.monitor.Ledger (c + u.checks) (v + k) (n + u.drops x.own) := by
  -- Most uses enter nothing.
  have heven {a : Act (Engine π) σ Unit} (ha : Keeps (fun x => x.own.monitor.Ledger c v n) a) :
      ∃ k ≤ 0, (a x).2.own.monitor.Ledger (c + 0) (v + k) (n + 0) := ⟨0, Nat.le_refl 0, ha x hx⟩
  cases u with
  | request owner name a => exact heven (Keeps.bind (registerHook_even owner name a c v n) fun _ => Keeps.pure _)
  | resolve owner => exact heven (resolveType_even owner c v n)
  | isRestricted t => exact heven (Keeps.bind (watch_even (Monitor.isRestricted_even h t) c v n) fun _ => Keeps.pure _)
  | forget t => exact ⟨0, Nat.le_refl 0, hx.erased t⟩
  | classify t start => exact ⟨0, Nat.le_refl 0, Monitor.classify_ledger (x := ⟨_, x.host, x.notices⟩) hx t start⟩
  | check t op start => exact Monitor.check_ledger (x := ⟨_, x.host, x.notices⟩) hx t op start
  | reached op =>
    exact heven (Keeps.bind (fun _ hx => hx) fun e =>
      Keeps.ite (fun _ => watch_even Monitor.breakpointHit_even c v n) fun _ => Keeps.pure _)
  | bind m entry => exact heven (Keeps.bind (bindNative_even m entry c v n) fun _ => Keeps.pure _)
  | hook op k => exact heven (watch_even (Monitor.setHook_even op k) c v n)

/-- What a duty enters in the ledger, whatever the host. -/
theorem Duty.act_ledger (hx : x.own.monitor.Ledger c v n) (d : Duty) :
    ∃ k ≤ d.reports, (d.act h x).2.own.monitor.Ledger (c + d.checks) (v + k) (n + d.drops x.own) := by
  cases d with
  | start => exact ⟨0, Nat.le_refl 0, start_even c v n x hx⟩
  | threadDeclared t => exact ⟨0, Nat.le_refl 0, hx.erased t⟩
  | use u => exact u.on_ledger hx

theorem Use.reports_le (u : Use) : u.reports ≤ u.checks := by
  cases u <;> simp [reports, checks]

theorem Duty.reports_le (d : Duty) : d.reports ≤ d.checks := by
  cases d with
  | use u => exact u.reports_le
  | _ => exact Nat.le_refl 0

/-- The engine was built from the plan and did one duty after another, each on some host in
    some state; so many verdicts were dropped in all. -/
inductive Serving (plan : Plan π) : Nat → Engine π → Prop
  | built {e : Engine π} : plan.build.1 = .ok e → Serving plan 0 e
  | duty {τ : Type} {n : Nat} {e : Engine π} (h : Host τ) (d : Duty) (now : τ) (ns : List Notice) :
      Serving plan n e → Serving plan (n + d.drops e) (d.act h ⟨e, now, ns⟩).2.own

theorem Plan.build_ledger {plan : Plan π} {e : Engine π} (h : plan.build.1 = .ok e) : e.monitor.Ledger 0 0 0 := by
  unfold Plan.build at h
  cases hw : plan.settings.window with
  | error f => rw [hw] at h; cases h
  | ok w =>
    rw [hw] at h
    cases h
    exact .ofPredicates ..

theorem Serving.ledger {plan : Plan π} {e : Engine π} (h : Serving plan n e) :
    ∃ c v, v ≤ c ∧ e.monitor.Ledger c v n := by
  induction h with
  | built hb => exact ⟨0, 0, Nat.le_refl 0, Plan.build_ledger hb⟩
  | @duty τ n e h d now ns _ ih =>
    obtain ⟨c, v, hle, hl⟩ := ih
    obtain ⟨k, hk, hl'⟩ := d.act_ledger (h := h) (x := ⟨e, now, ns⟩) hl
    have := d.reports_le
    exact ⟨c + d.checks, v + k, by omega, hl'⟩

/-! ### Inside a check, on any host -/

/-- The duty checks no call. Inside a check none does: what is left of a check of a call, of
    a native call and of a breakpoint is nothing, its bind and its hit. -/
def Duty.Inward (d : Duty) : Prop := ∀ thread op start, d ≠ .use (.check thread op start)

theorem Duty.inward_iff {d : Duty} : d.Inward ↔ d.reports = 0 := by
  constructor
  · intro h
    cases d with
    | use u =>
      cases u with
      | check thread op start => exact absurd rfl (h thread op start)
      | _ => rfl
    | _ => rfl
  · rintro h thread op start rfl
    exact absurd h (Nat.succ_ne_zero 0)

/-- What an engine becomes of `e` while a check lasts, by one duty after another, each on
    some host in some state; so many classifications were asked for by themselves. -/
inductive Sheltered (e : Engine π) : Nat → Engine π → Prop
  | start : Sheltered e 0 e
  | duty {τ : Type} {k : Nat} {e' : Engine π} (h : Host τ) (d : Duty) (now : τ) (ns : List Notice) :
      Sheltered e k e' → d.Inward → Sheltered e (k + d.checks) (d.act h ⟨e', now, ns⟩).2.own

theorem Sheltered.ledger {e e' : Engine π} {k : Nat} (h : Sheltered e k e') (he : e.monitor.Ledger c v n) :
    ∃ n', e'.monitor.Ledger (c + k) v n' := by
  induction h with
  | start => exact ⟨n, he⟩
  | @duty τ k e' h d now ns _ hd ih =>
    obtain ⟨n', hl⟩ := ih
    obtain ⟨j, hj, hl'⟩ := d.act_ledger (h := h) (x := ⟨e', now, ns⟩) hl
    obtain rfl := Nat.le_zero.1 (Duty.inward_iff.1 hd ▸ hj)
    exact ⟨_, Nat.add_assoc c k d.checks ▸ hl'⟩

/-! ## Sites -/

variable {s s' : Site π α} {t : ThreadId} {rt : RuntimeId} {id j : EngineId} {past : List Event} {slot : Slot π}
  {stage : Stage} {extra : α}

/-- The ledger of engine `id`, which is there. -/
def Site.Ledger (id : EngineId) (c v n : Nat) (s : Site π α) : Prop :=
  ∃ slot, s.slots.get? id = some slot ∧ slot.engine.monitor.Ledger c v n

namespace Site

theorem Ledger.of_same (h : s.Ledger id c v n) (hs : s'.slots = s.slots) : s'.Ledger id c v n := by
  obtain ⟨slot, hf, hl⟩ := h
  exact ⟨slot, hs ▸ hf, hl⟩

theorem changeSlot_ledger (j : EngineId) {f : Slot π → Slot π} (hf : ∀ slot, (f slot).engine = slot.engine) :
    Keeps (Site.Ledger id c v n) (changeSlot j f : Play π α Unit) := by
  rintro s ⟨slot, hid, hl⟩
  have hid' : (changeSlot j f s).2.slots.get? id = if id = j then some (f slot) else some slot := by
    show (s.slots.modify j f).get? id = _
    rw [Table.get?_modify]
    split
    · rename_i e
      rw [← e, hid]
      rfl
    · exact hid
  by_cases e : id = j
  · exact ⟨f slot, hid'.trans (if_pos e), by rw [hf]; exact hl⟩
  · exact ⟨slot, hid'.trans (if_neg e), hl⟩

/-- An act of the engine enters what it enters. -/
theorem acting_ledger {fallback : β} {act : Host World → Act (Engine π) World β} (hf : s.slots.get? id = some slot)
    (ha : (act (World.host slot.host t) ⟨slot.engine, s.world, []⟩).2.own.monitor.Ledger c v n) :
    (acting t id fallback act s).2.Ledger id c v n := by
  rw [acting_at hf]
  exact ⟨_, acted_found .., ha⟩

/-- An act of another engine enters nothing. -/
theorem acting_other_ledger (hj : j ≠ id) (t : ThreadId) (fallback : β) (act : Host World → Act (Engine π) World β)
    (h : s.Ledger id c v n) : (acting t j fallback act s).2.Ledger id c v n := by
  obtain ⟨slot, hf, hl⟩ := h
  cases hj' : s.slots.get? j with
  | none => rw [acting_none hj']; exact ⟨slot, hf, hl⟩
  | some other =>
    rw [acting_at hj']
    exact ⟨slot, (acted_other (Ne.symm hj) ..).trans hf, hl⟩

theorem acting_even (t : ThreadId) (j : EngineId) (fallback : β) {act : Host World → Act (Engine π) World β}
    (ha : ∀ h, Keeps (fun x => x.own.monitor.Ledger c v n) (act h)) :
    Keeps (Site.Ledger id c v n) (acting t j fallback act : Play π α β) := by
  intro s hs
  by_cases hj : j = id
  · subst hj
    obtain ⟨slot, hf, hl⟩ := hs
    exact acting_ledger hf (ha _ ⟨slot.engine, s.world, []⟩ hl)
  · exact acting_other_ledger hj t fallback act hs

theorem tellTypeLoaded_even (t : ThreadId) (owner : String) (l : Listener) :
    Keeps (Site.Ledger id c v n) (tellTypeLoaded t owner l : Play π α Unit) := by
  intro s hs
  cases l with
  | recorder j => exact hs.of_same rfl
  | engine j =>
    rw [tellTypeLoaded_engine]
    split
    · exact acting_even t j () (fun _ => resolveType_even owner c v n) s hs
    · exact hs

theorem announceType_even (t : ThreadId) (rt : RuntimeId) (owner : String) :
    Keeps (Site.Ledger id c v n) (announceType t rt owner : Play π α Unit) :=
  Keeps.bind (fun _ hs => hs.of_same rfl) fun _ => Keeps.bind (fun _ hs => hs.of_same rfl) fun _ =>
    Keeps.forM fun l _ => tellTypeLoaded_even t owner l

theorem define_even (t : ThreadId) (rt : RuntimeId) (m : MemberRef) :
    Keeps (Site.Ledger id c v n) (define t rt m : Play π α OperationId) :=
  Keeps.bind (fun _ hs => hs.of_same rfl) fun _ => Keeps.ite
    (fun _ => Keeps.bind (announceType_even t rt m.owner) fun _ => Keeps.pure _) fun _ => Keeps.pure _

theorem defineAll_even (t : ThreadId) (rt : RuntimeId) (ms : List MemberRef) :
    Keeps (Site.Ledger id c v n) (defineAll t rt ms : Play π α Unit) :=
  Keeps.bind (fun s hs => hs.of_same (catalogueAll_slots rt ms s)) fun _ =>
    Keeps.forM fun owner _ => announceType_even t rt owner

/-- A build gives the new engine a ledger of its own. -/
theorem build_even (ho : s.Orderly) (t : ThreadId) (h : HostId) (plan : Plan π) (hs : s.Ledger id c v n) :
    (build t h plan s).2.Ledger id c v n := by
  cases hb : plan.build.1 with
  | error f => rw [build_error hb]; exact hs
  | ok e =>
    rw [build_ok hb]
    obtain ⟨slot, hf, hl⟩ := hs
    have hne : id ≠ ⟨s.slots.size⟩ := by
      rintro rfl
      have := ho.fresh
      rw [Table.contains, hf] at this
      cases this
    have hgained : (s.gained { engine := e, host := h }).Ledger id c v n :=
      ⟨slot, (Table.get?_insert ..).trans ((if_neg hne).trans hf), hl⟩
    exact acting_other_ledger (Ne.symm hne) t () _ (hgained.of_same (subscribe_quiet h _ _).slots)

theorem build_ledger {t : ThreadId} {h : HostId} {plan : Plan π} (hb : (build t h plan s).1.1 = .ok id) :
    (build t h plan s).2.Ledger id 0 0 0 := by
  cases he : plan.build.1 with
  | error f => rw [build_error he] at hb; cases hb
  | ok e =>
    rw [build_ok he] at hb ⊢
    obtain rfl : (⟨s.slots.size⟩ : EngineId) = id := Except.ok.inj hb
    have hgained : (s.gained { engine := e, host := h }).Ledger ⟨s.slots.size⟩ 0 0 0 :=
      ⟨_, (Table.get?_insert ..).trans (if_pos rfl), Plan.build_ledger he⟩
    exact acting_even t _ () (fun _ => start_even 0 0 0) _ (hgained.of_same (subscribe_quiet h _ _).slots)

theorem kept_isSome (hf : s.slots.get? id = some slot) (t : ThreadId) :
    (s.kept id t).isSome = slot.engine.monitor.register.verdicts.contains t := by
  rw [kept, hf]
  rfl

end Site

/-! ### Moves -/

namespace Move

/-- How many checks of engine `id` the move counts. -/
def checks (id : EngineId) : Move π α → Nat
  | use _ j u => if j = id then u.checks else 0
  | _ => 0

/-- How many violations of engine `id` it may count. -/
def reports (id : EngineId) : Move π α → Nat
  | use _ j u => if j = id then u.reports else 0
  | _ => 0

/-- How many verdicts of engine `id` it drops: a thread is forgotten, or declares capabilities
    on the runtime of the engine, which is alive, and a verdict on the thread was kept. -/
def drops (id : EngineId) (s : Site π α) : Move π α → Nat
  | use _ j (.forget thread) => if j = id then (s.kept id thread).isSome.toNat else 0
  | declare t rt _ =>
    if s.host? id = some (.runtime rt) ∧ s.alive id = true then (s.kept id t).isSome.toNat else 0
  | _ => 0

theorem reports_le (m : Move π α) (id : EngineId) : m.reports id ≤ m.checks id := by
  cases m with
  | use t j u =>
    simp only [reports, checks]
    split
    · exact u.reports_le
    · exact Nat.le_refl 0
  | _ => exact Nat.le_refl 0

theorem use_ledger (hs : s.Ledger id c v n) (t : ThreadId) (j : EngineId) (u : Use) :
    let m : Move π α := .use t j u
    ∃ k ≤ m.reports id, (m.play s).2.Ledger id (c + m.checks id) (v + k) (n + m.drops id s) := by
  intro m
  by_cases hj : j = id
  · subst hj
    obtain ⟨slot, hf, hl⟩ := hs
    obtain ⟨k, hk, hl'⟩ := u.on_ledger (h := World.host slot.host t) (x := ⟨slot.engine, s.world, []⟩) hl
    have hdrops : m.drops j s = u.drops slot.engine := by
      cases u with
      | forget thread => exact (if_pos rfl).trans (congrArg Bool.toNat (kept_isSome hf thread))
      | _ => rfl
    have hchecks : m.checks j = u.checks := if_pos rfl
    have hreports : m.reports j = u.reports := if_pos rfl
    rw [hdrops, hchecks, hreports]
    refine ⟨k, hk, acting_ledger hf ?_⟩
    rw [u.act_on]
    exact hl'
  · have hdrops : m.drops id s = 0 := by
      cases u with
      | forget thread => exact if_neg hj
      | _ => rfl
    have hchecks : m.checks id = 0 := if_neg hj
    rw [hdrops, hchecks]
    exact ⟨0, Nat.zero_le _, acting_other_ledger hj t [] _ hs⟩

theorem declare_ledger (h : Run (bare stage extra) past s) (hs : s.Ledger id c v n) (t : ThreadId) (rt : RuntimeId)
    (cs : List String) :
    (Site.declare t rt cs s).2.Ledger id c v (n + (Move.declare t rt cs : Move π α).drops id s) := by
  obtain ⟨slot, hf, hl⟩ := hs
  have hhost : s.host? id = some slot.host := congrArg (Option.map Slot.host) hf
  have hslot := declare_slots h t rt cs id
  rw [hf, Option.map_some] at hslot
  refine ⟨_, hslot, ?_⟩
  simp only [drops, hhost, alive_iff hf, Option.some.injEq, kept_isSome hf]
  split
  · exact hl.erased t
  · exact hl

/-- What a move enters in the ledger of an engine, wherever a run has come to. -/
theorem ledger (h : Run (bare stage extra) past s) (hs : s.Ledger id c v n) (m : Move π α) :
    ∃ k ≤ m.reports id, (m.play s).2.Ledger id (c + m.checks id) (v + k) (n + m.drops id s) := by
  have heven {s' : Site π α} (hs' : s'.Ledger id c v n) : ∃ k ≤ 0, s'.Ledger id (c + 0) (v + k) (n + 0) :=
    ⟨0, Nat.le_refl 0, hs'⟩
  cases m with
  | openRuntime t rt ms => exact heven (defineAll_even t rt ms _ (hs.of_same rfl))
  | define t rt m => exact heven (define_even t rt m s hs)
  | defineAll t rt ms => exact heven (defineAll_even t rt ms s hs)
  | push t rt m => exact heven ((define_even t rt m s hs).of_same rfl)
  | declare t rt cs => exact ⟨0, Nat.le_refl 0, declare_ledger h hs t rt cs⟩
  | listen rt j => exact heven (hs.of_same (subscribe_quiet (.runtime rt) (.recorder j) s).slots)
  | build t host plan => exact heven (build_even (h.catalogues (bare_orderly stage extra)).1 t host plan hs)
  | disown j => exact heven (changeSlot_ledger j (f := fun slot => { slot with owned := false }) (fun _ => rfl) s hs)
  | retain j =>
    exact heven (changeSlot_ledger j (f := fun slot => { slot with uses := slot.uses + 1 }) (fun _ => rfl) s hs)
  | release j =>
    exact heven (changeSlot_ledger j (f := fun slot => { slot with uses := slot.uses - 1 }) (fun _ => rfl) s hs)
  | use t j u => exact use_ledger hs t j u
  | _ => exact heven (hs.of_same rfl)

end Move

/-! ### Runs -/

/-- Engine `id` was built in a run from a bare site, and so many of its verdicts were dropped
    since. -/
inductive Tallied (stage : Stage) (extra : α) (id : EngineId) : Nat → Site π α → Prop
  | built {past : List Event} {s : Site π α} (t : ThreadId) (h : HostId) (plan : Plan π) :
      Run (bare stage extra) past s → (build t h plan s).1.1 = .ok id →
      Tallied stage extra id 0 (build t h plan s).2
  | move {n : Nat} {s : Site π α} (m : Move π α) : Tallied stage extra id n s → m.Allowed s →
      Tallied stage extra id (n + m.drops id s) (m.play s).2

namespace Tallied

theorem run (h : Tallied stage extra id n s) : ∃ past, Run (bare stage extra) past s := by
  induction h with
  | built t h plan hr _ => exact ⟨_, hr.step (.build t h plan) trivial⟩
  | move m _ ha ih => exact ih.imp' _ fun _ hr => hr.step m ha

theorem ledger (h : Tallied stage extra id n s) : ∃ c v, v ≤ c ∧ s.Ledger id c v n := by
  induction h with
  | built t h plan _ hb => exact ⟨0, 0, Nat.le_refl 0, build_ledger hb⟩
  | move m h _ ih =>
    obtain ⟨c, v, hle, hl⟩ := ih
    obtain ⟨past, hr⟩ := h.run
    obtain ⟨k, hk, hl'⟩ := m.ledger hr hl
    have := m.reports_le id
    exact ⟨c + m.checks id, v + k, by omega, hl'⟩

/-- Whatever happens next, the engine is still tallied. -/
theorem onward (h : Tallied stage extra id n s) (hr : Run s past s') : ∃ n', Tallied stage extra id n' s' := by
  induction hr with
  | start => exact ⟨n, h⟩
  | step m _ ha ih => exact ih.imp' _ fun _ h' => h'.move m ha

end Tallied

/-! ## Inside a check -/

/-- The move is none of a check: it begins and ends none on `t`, and checks no call. A
    classification that is asked for by itself is not excluded. -/
def Move.Inward (t : ThreadId) (s : Site π α) (m : Move π α) : Prop :=
  m.Spares t s ∧ ∀ t' j thread op start, m ≠ .use t' j (.check thread op start)

/-- What is done from `s` on while a check on `t` lasts, and how many classifications engine
    `id` was asked for in it. Handlers' programs may be run in any way. -/
inductive Errands (t : ThreadId) (id : EngineId) (s : Site π α) : Nat → Site π α → Prop
  | start : Errands t id s 0 s
  | move {k : Nat} {s' : Site π α} (m : Move π α) : Errands t id s k s' → m.Allowed s' → m.Inward t s' →
      Errands t id s (k + m.checks id) (m.play s').2
  | context {k : Nat} {s' : Site π α} (j : EngineId) : Errands t id s k s' →
      Errands t id s k (isBlockingContext t j s').2
  | check {k : Nat} {s' : Site π α} (a : Check) (invoke : Invoke π α) : Errands t id s k s' →
      s'.alive a.engine = true → Errands t id s k (a.play invoke t s').2
  | entry {k : Nat} {s' : Site π α} (rt : RuntimeId) (m : MemberRef) (invoke : Invoke π α) : Errands t id s k s' →
      Errands t id s k (enter invoke t rt m s').2

theorem Errands.course {k : Nat} (h : Errands t id s k s') : Course t s s' := by
  induction h with
  | start => exact .start
  | move m _ _ hm ih => exact ih.move m hm.1
  | context j _ ih => exact ih.context j
  | check a invoke _ _ ih => exact ih.check a invoke
  | entry rt m invoke _ ih => exact ih.entry rt m invoke

theorem Move.Inward.reports {m : Move π α} (h : m.Inward t s) (id : EngineId) : m.reports id = 0 := by
  cases m with
  | use t' j u =>
    cases u with
    | check thread op start => exact absurd rfl (h.2 t' j thread op start)
    | _ => exact ite_self 0
  | _ => rfl

namespace Site

variable (hin : s.isChecking t = true)

include hin

/-- Inside a check a native call is its bind. -/
theorem enterNative_inside_site (j : EngineId) (m : MemberRef) (entry : EntryPoint) (invoke : Invoke π α) :
    (enterNative invoke t j m entry s).2 = (bound t j m entry s).2 := by
  have hcalm : s.Calm (bound t j m entry (s.taken j)).2 := bound_calm t j m entry _ (taken_calm j s)
  have hin' := (hcalm.isChecking t).trans hin
  rw [enterNative_at]
  have hadmitted : (admitted invoke t j entry (bound t j m entry (s.taken j)).1
      (bound t j m entry (s.taken j)).2).2 = (bound t j m entry (s.taken j)).2 := by
    cases (bound t j m entry (s.taken j)).1 with
    | none => rfl
    | some b =>
      rw [admitted]
      split
      · rw [bind_at, checking_inside hin']
        rfl
      · rfl
  have hacting := congrArg Prod.snd (keepingAlive_acting t j none (fun h => Engine.bindNative h m entry) s)
  refine Eq.trans ?_ hacting
  show (changeSlot j _ _).2 = (changeSlot j _ (bound t j m entry (s.taken j)).2).2
  rw [hadmitted]

/-- Inside a check a breakpoint that is reached is counted as a hit. -/
theorem breakpointReached_inside_site (j : EngineId) (thread : ThreadId) (op : OperationId) (invoke : Invoke π α) :
    (breakpointReached invoke t j thread op s).2 = (hit t j op s).2 := by
  have hcalm : s.Calm (hit t j op (s.taken j)).2 := hit_calm t j op _ (taken_calm j s)
  have hin' := (hcalm.isChecking t).trans hin
  have hacting := congrArg Prod.snd (keepingAlive_acting t j false (fun _ => counted op) s)
  refine Eq.trans ?_ hacting
  rw [breakpointReached_at]
  split
  · rw [checking_inside hin']
    rfl
  · rfl

end Site

theorem hit_even (t : ThreadId) (j : EngineId) (op : OperationId) :
    Keeps (Site.Ledger id c v n) (hit t j op : Play π α Bool) :=
  acting_even t j false fun _ => Keeps.bind (fun _ hx => hx) fun _ =>
    Keeps.ite (fun _ => Keeps.bind (watch_even Monitor.breakpointHit_even c v n) fun _ => Keeps.pure _)
      fun _ => Keeps.pure _

theorem bound_even (t : ThreadId) (j : EngineId) (m : MemberRef) (entry : EntryPoint) :
    Keeps (Site.Ledger id c v n) (bound t j m entry : Play π α _) :=
  acting_even t j none fun _ => bindNative_even m entry c v n

/-- What `t` asks to be checked inside a check enters nothing. -/
theorem Check.inside_ledger (hin : s.isChecking t = true) (hs : s.Ledger id c v n) (a : Check) (invoke : Invoke π α) :
    (a.play invoke t s).2.Ledger id c v n := by
  cases a with
  | call j op =>
    show (checkBlocking invoke t j op s).2.Ledger id c v n
    rw [call_inside hin]
    exact hs
  | native j m entry =>
    rw [play_native, enterNative_inside_site hin]
    exact bound_even t j m entry s hs
  | breakpoint j thread op =>
    show (breakpointReached invoke t j thread op s).2.Ledger id c v n
    rw [breakpointReached_inside_site hin]
    exact hit_even t j op s hs

/-- The ledger stands like this, and `t` is inside a check. -/
abbrev Site.LedgerInside (t : ThreadId) (id : EngineId) (c v n : Nat) (s : Site π α) : Prop :=
  s.isChecking t = true ∧ s.Ledger id c v n

theorem tellBreakpoint_inside_ledger (thread : ThreadId) (op : OperationId) (invoke : Invoke π α) (l : Listener) :
    Keeps (Site.LedgerInside t id c v n) (tellBreakpoint invoke t thread op l) := by
  intro s hs
  cases l with
  | recorder j =>
    refine Keeps.bind (I := Site.LedgerInside t id c v n) (fun _ hs => ⟨hs.1, hs.2.of_same rfl⟩)
      (fun _ => Keeps.bind (fun _ hs => hs) fun s₁ => ?_) s hs
    cases (s₁.recorders.get? j).bind Recorder.reject <;> exact Keeps.pure _
  | engine j =>
    have hat : tellBreakpoint invoke t thread op (.engine j) s =
        if s.alive j = true then breakpointReached invoke t j thread op s else (.returned (), s) := by
      show (if s.alive j = true then _ else _ : Play π α (Outcome Unit)) s = _
      split <;> rfl
    rw [hat]
    split
    · have hcalm : s.Calm (hit t j op s).2 := hit_calm t j op s (.refl s)
      rw [breakpointReached_inside_site hs.1]
      exact ⟨(hcalm.isChecking t).trans hs.1, hit_even t j op s hs.2⟩
    · exact hs

theorem tellBreakpoints_inside_ledger (thread : ThreadId) (op : OperationId) (invoke : Invoke π α)
    (ls : List Listener) : Keeps (Site.LedgerInside t id c v n) (tellBreakpoints invoke t thread op ls) := by
  induction ls with
  | nil => exact Keeps.pure _
  | cons l ls ih =>
    refine Keeps.bind (tellBreakpoint_inside_ledger thread op invoke l) fun r => ?_
    cases r with
    | returned _ => exact ih
    | _ => exact Keeps.pure _

theorem enter_inside_ledger (hin : s.isChecking t = true) (hs : s.Ledger id c v n) (rt : RuntimeId) (m : MemberRef)
    (invoke : Invoke π α) : (enter invoke t rt m s).2.Ledger id c v n := by
  have hpush : (pushFrame t rt m s).2.Ledger id c v n := (define_even t rt m s hs).of_same rfl
  have hin' : (pushFrame t rt m s).2.isChecking t = true :=
    (Move.Spares.isChecking (m := .push t rt m) (s := s) trivial).trans hin
  rw [enter_at]
  generalize pushFrame t rt m s = r at hpush hin' ⊢
  obtain ⟨g, s₁⟩ := r
  split
  · have hpruned : (listeners rt s₁).2.Ledger id c v n := hpush.of_same rfl
    have hcalm : s₁.Calm (listeners rt s₁).2 := listeners_calm rt s₁ (.refl s₁)
    have htold := (tellBreakpoints_inside_ledger t g.operation invoke (listeners rt s₁).1 _
      ⟨(hcalm.isChecking t).trans hin', hpruned⟩).2
    generalize tellBreakpoints invoke t t g.operation (listeners rt s₁).1 (listeners rt s₁).2 = told at htold ⊢
    obtain ⟨o, s₂⟩ := told
    cases o with
    | returned _ => exact htold
    | _ => exact htold.of_same rfl
  · exact hpush

/-! ### Inside, errand after errand -/

/-- A program that does nothing. -/
def Invoke.idle : Invoke π α := fun _ _ _ => pure (.returned ())

theorem Invoke.idle_honest : (Invoke.idle : Invoke π α).Honest := fun _ _ _ _ => ⟨_, .start⟩

/-- Inside a check no program is run, so whatever is asked there is a run. -/
theorem Check.inside_run (hin : s.isChecking t = true) (a : Check) (ha : s.alive a.engine = true)
    (invoke : Invoke π α) : ∃ evs, Run s evs (a.play invoke t s).2 := by
  obtain ⟨s', -, hplay⟩ := a.play_inside hin
  have hidle : ∃ evs, Run s evs (a.play Invoke.idle t s).2 := by
    cases a with
    | call j op => exact checkBlocking_runs Invoke.idle_honest op s ha
    | native j m entry => exact enterNative_runs Invoke.idle_honest m entry s ha
    | breakpoint j thread op => exact breakpointReached_runs Invoke.idle_honest thread op s ha
  rw [hplay] at hidle ⊢
  exact hidle

theorem enter_inside_run (hin : s.isChecking t = true) (rt : RuntimeId) (m : MemberRef) (invoke : Invoke π α) :
    ∃ evs, Run s evs (enter invoke t rt m s).2 := by
  have hidle : ∃ evs, Run s evs (enter Invoke.idle t rt m s).2 := enter_runs Invoke.idle_honest m s trivial
  obtain ⟨s', -, ⟨g, -, hplay⟩ | ⟨e, -, -, hplay⟩⟩ := (shielded hin).entry rt m
  all_goals
    rw [hplay] at hidle ⊢
    exact hidle

/-- Errands enter the classifications that were asked for, and nothing else under checks or
    violations. -/
theorem Errands.ledger {k : Nat} (h : Errands t id s k s') (hin : s.isChecking t = true)
    (hr : Run (bare stage extra) past s) (hs : s.Ledger id c v n) :
    (∃ past, Run (bare stage extra) past s') ∧ ∃ n', s'.Ledger id (c + k) v n' := by
  induction h with
  | start => exact ⟨⟨past, hr⟩, n, hs⟩
  | move m _ ha hm ih =>
    obtain ⟨⟨past, hr⟩, n', hl⟩ := ih
    obtain ⟨k', hk, hl'⟩ := m.ledger hr hl
    rw [hm.reports] at hk
    obtain rfl := Nat.le_zero.1 hk
    rw [Nat.add_assoc] at hl'
    exact ⟨⟨_, hr.step m ha⟩, _, hl'⟩
  | context j he ih =>
    rw [isBlockingContext_inside (he.course.isChecking hin)]
    exact ih
  | check a invoke he ha ih =>
    have hin' := he.course.isChecking hin
    obtain ⟨⟨past, hr⟩, n', hl⟩ := ih
    obtain ⟨evs, hr'⟩ := a.inside_run hin' ha invoke
    exact ⟨⟨_, hr.trans hr'⟩, n', a.inside_ledger hin' hl invoke⟩
  | entry rt m invoke he ih =>
    have hin' := he.course.isChecking hin
    obtain ⟨⟨past, hr⟩, n', hl⟩ := ih
    obtain ⟨evs, hr'⟩ := enter_inside_run hin' rt m invoke
    exact ⟨⟨_, hr.trans hr'⟩, n', enter_inside_ledger hin' hl rt m invoke⟩

/-! ## Accounted for -/

/-- On any host, and on a site in every state that a run reaches, a handler's program being at
    work or not: the counters of an engine account for each other and for its tables, and
    they do so whatever happens next. While a check lasts, what is done adds as many checks
    as classifications were asked for by themselves, and no violation. -/
theorem counters_account {stage : Stage} {extra : α} :
    (∀ (plan : Plan π) n (e : Engine π), Serving plan n e → e.monitor.Accounts n ∧
      ∀ k e', Sheltered e k e' → e'.monitor.counters.checks = e.monitor.counters.checks + k ∧
        e'.monitor.counters.violations = e.monitor.counters.violations) ∧
      ∀ (id : EngineId) n (s : Site π α), Tallied stage extra id n s →
        ∃ slot, s.slots.get? id = some slot ∧ slot.engine.monitor.Accounts n ∧
          (∀ past s', Run s past s' → ∃ n', Tallied stage extra id n' s') ∧
          ∀ t k s', s.isChecking t = true → Errands t id s k s' →
            ∃ slot', s'.slots.get? id = some slot' ∧
              slot'.engine.monitor.counters.checks = slot.engine.monitor.counters.checks + k ∧
              slot'.engine.monitor.counters.violations = slot.engine.monitor.counters.violations := by
  refine ⟨fun plan n e h => ?_, fun id n s h => ?_⟩
  · obtain ⟨c, v, hle, hl⟩ := h.ledger
    refine ⟨hl.accounts hle, fun k e' hk => ?_⟩
    obtain ⟨n', hl'⟩ := hk.ledger hl
    exact ⟨by rw [hl'.checks, hl.checks], by rw [hl'.violations, hl.violations]⟩
  · obtain ⟨past, hr⟩ := h.run
    obtain ⟨c, v, hle, slot, hf, hl⟩ := h.ledger
    refine ⟨slot, hf, hl.accounts hle, fun past s' => h.onward, fun t k s' hin he => ?_⟩
    obtain ⟨-, n', slot', hf', hl'⟩ := he.ledger hin hr ⟨slot, hf, hl⟩
    exact ⟨slot', hf', by rw [hl'.checks, hl.checks], by rw [hl'.violations, hl.violations]⟩

/-- A thread is classified, declares that it must not block, and is classified again by a
    check that finds a violation. In that check it asks for a classification, a check and an
    entry. -/
theorem counters_account_for_a_violation :
    let r : RuntimeId := ⟨"r"⟩
    let f : MemberRef := ⟨"a::B", "f", false, false⟩
    let plan : Plan Unit := { policy := Policy.empty.markBlocking f.key, handler := .program () }
    let opened : Site Unit Unit := (Move.play (.openRuntime ⟨1⟩ r [f]) (bare {} ())).2
    let built := (build ⟨1⟩ (.runtime r) plan opened).2
    let asked := (Move.play (.use ⟨1⟩ ⟨0⟩ (.classify ⟨1⟩ .context)) built).2
    let declared := (Move.play (.declare ⟨1⟩ r [defaultMarker]) asked).2
    let entered := (Move.play (.checking ⟨1⟩ true) declared).2
    let s := (Move.play (.use ⟨1⟩ ⟨0⟩ (.check ⟨1⟩ ⟨firstNumber⟩ .blockingCall)) entered).2
    let again := (Move.play (.use ⟨1⟩ ⟨0⟩ (.classify ⟨1⟩ .context)) s).2
    let called := (Check.play (Invoke.idle) ⟨1⟩ (.call ⟨0⟩ ⟨firstNumber⟩) again).2
    let s' := (enter Invoke.idle ⟨1⟩ r f called).2
    let counters (s : Site Unit Unit) := (s.engine? ⟨0⟩).map fun e => e.monitor.counters
    (counters s).map (fun c => (c.checks, c.violations, c.classified, c.restricted)) = some (2, 1, 2, 1) ∧
      (∃ slot, s.slots.get? ⟨0⟩ = some slot ∧ slot.engine.monitor.Accounts 1) ∧
      (counters s').map (fun c => (c.checks, c.violations)) = some (3, 1) ∧
      ∀ e, plan.build.1 = .ok e → let started := (Duty.act (h := Stage.host) .start ⟨e, {}, []⟩).2.own
        started.monitor.Accounts 0 ∧ (Duty.act (h := Stage.host) (.use (.classify ⟨1⟩ .context))
          ⟨started, {}, []⟩).2.own.monitor.counters.checks = started.monitor.counters.checks + 1 := by
  intro r f plan opened built asked declared entered s again called s' counters
  have hopened : Run (bare {} ()) _ opened := .move (.openRuntime ⟨1⟩ r [f]) (by decide +kernel)
  have hbuilt : Tallied {} () ⟨0⟩ 0 built := .built ⟨1⟩ (.runtime r) plan hopened (by decide +kernel)
  have hasked : Tallied {} () ⟨0⟩ 0 asked :=
    hbuilt.move (.use ⟨1⟩ ⟨0⟩ (.classify ⟨1⟩ .context)) (by decide +kernel)
  -- The declaration drops the verdict of the first classification.
  have hdropped : (Move.declare ⟨1⟩ r [defaultMarker] : Move Unit Unit).drops ⟨0⟩ asked = 1 := by decide +kernel
  have hdeclared : Tallied {} () ⟨0⟩ 1 declared := by
    have h := hasked.move (.declare ⟨1⟩ r [defaultMarker]) trivial
    rwa [hdropped] at h
  have hentered : Tallied {} () ⟨0⟩ 1 entered := hdeclared.move (.checking ⟨1⟩ true) trivial
  have hs : Tallied {} () ⟨0⟩ 1 s :=
    hentered.move (.use ⟨1⟩ ⟨0⟩ (.check ⟨1⟩ ⟨firstNumber⟩ .blockingCall)) (by decide +kernel)
  have hagain : Errands ⟨1⟩ ⟨0⟩ s 1 again :=
    Errands.start.move (.use ⟨1⟩ ⟨0⟩ (.classify ⟨1⟩ .context)) (by decide +kernel) ⟨trivial, nofun⟩
  have hs' : Errands ⟨1⟩ ⟨0⟩ s 1 s' :=
    (hagain.check (.call ⟨0⟩ ⟨firstNumber⟩) Invoke.idle (by decide +kernel)).entry r f Invoke.idle
  obtain ⟨hserving, hsite⟩ := @counters_account Unit Unit {} ()
  obtain ⟨slot, hf, haccounts, -, hinside⟩ := hsite ⟨0⟩ 1 s hs
  have hcounters : (counters s).map (fun c => (c.checks, c.violations, c.classified, c.restricted)) =
      some (2, 1, 2, 1) := by decide +kernel
  refine ⟨hcounters, ⟨slot, hf, haccounts⟩, ?_, fun e he => ?_⟩
  · obtain ⟨slot', hf', hchecks, hviolations⟩ := hinside ⟨1⟩ 1 s' (by decide +kernel) hs'
    simp only [counters, engine?, hf, hf', Option.map_some, Option.some.injEq, Prod.mk.injEq] at hcounters ⊢
    omega
  · obtain ⟨hstarted, hsheltered⟩ := hserving plan _ _ ((Serving.built he).duty Stage.host .start {} [])
    have hinward : (Duty.use (.classify ⟨1⟩ .context)).Inward := Duty.inward_iff.2 rfl
    exact ⟨hstarted, (hsheltered 1 _ (Sheltered.start.duty Stage.host _ {} [] hinward)).1⟩

end StallGuard
