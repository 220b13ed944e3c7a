/-
  StallGuard.Proofs.Rebuilding — a build that fails, and the one that comes after it.

  A build whose settings turn out unusable touches nothing on the site. Of the plan it uses
  up the composers, as every build does. So the next build from the same plan, its settings
  mended, starts from the marker again. What that makes of the engine is said exactly:
  setting an engine up never looks at its predicate (`Blind`), so both engines come to be
  alike, hooks, breakpoints, notices and all, but for the predicate.
  - `start_blind`: to set up an engine is blind to the predicate.
  - `build_composers`: the composers of a plan show in a build's predicate and nowhere else.
  - `failed_build_uses_up_composers`: a failed build, and the same plan built again.
-/

import StallGuard.Proofs.Lasting

namespace StallGuard

open Act Site

variable {μ σ π α β γ : Type}

/-! ## Acts that do not see a change -/

/-- Whether the change `r` was made before or after the act, its outcome is the same. -/
def Blind (r : μ → μ) (a : Act μ σ β) : Prop :=
  ∀ x : Scene μ σ, a { x with own := r x.own } = ((a x).1, { (a x).2 with own := r (a x).2.own })

namespace Blind

variable {r : μ → μ}

theorem pure (b : β) : Blind r (pure b : Act μ σ β) := fun _ => rfl

theorem bind {a : Act μ σ β} {f : β → Act μ σ γ} (ha : Blind r a) (hf : ∀ b, Blind r (f b)) : Blind r (a >>= f) := by
  intro x
  rw [bind_at, ha x, hf]
  rfl

theorem ask (q : StateM σ β) : Blind r (ask q : Act μ σ β) := fun _ => rfl

theorem give (n : Notice) : Blind r (give n : Act μ σ Unit) := fun _ => rfl

theorem change {f : μ → μ} (h : ∀ m, f (r m) = r (f m)) : Blind r (change f : Act μ σ Unit) := fun x => by
  rw [change_at, change_at, h]

/-- What is read of the own state is not what was changed. -/
theorem own {f : μ → Act μ σ β} (hr : ∀ m, f (r m) = f m) (hf : ∀ m, Blind r (f m)) : Blind r (own >>= f) := by
  intro x
  rw [bind_at, own_at, bind_at, own_at, hr, hf]

theorem ite {c : Prop} [Decidable c] {a b : Act μ σ β} (ha : Blind r a) (hb : Blind r b) :
    Blind r (if c then a else b) := by
  by_cases h : c
  · rwa [if_pos h]
  · rwa [if_neg h]

theorem forM {f : β → Act μ σ PUnit} (hf : ∀ b, Blind r (f b)) (l : List β) : Blind r (l.forM f) := by
  induction l with
  | nil => exact pure _
  | cons b l ih => exact (hf b).bind fun _ => ih

end Blind

/-! ## The predicate on threads that must not block -/

/-- The monitor with another predicate. -/
def Monitor.restricting (q : ThreadPredicate) (m : Monitor) : Monitor :=
  { m with register := { m.register with restricts := q } }

/-- The engine with another predicate. -/
def Engine.restricting (q : ThreadPredicate) (e : Engine π) : Engine π := { e with monitor := e.monitor.restricting q }

/-- The site with another predicate for one engine. -/
def Site.restricting (id : EngineId) (q : ThreadPredicate) (s : Site π α) : Site π α :=
  { s with slots := s.slots.modify id fun slot => { slot with engine := slot.engine.restricting q } }

variable {q : ThreadPredicate} {h : Host σ}

namespace Monitor

theorem mark_blind (t : Tally) : Blind (restricting q) (mark t : Act Monitor σ Unit) :=
  Blind.bind (Blind.change fun _ => rfl) fun _ => Blind.give _

theorem setHook_blind (op : OperationId) (k : Hook) : Blind (restricting q) (setHook op k : Act Monitor σ Unit) :=
  Blind.change fun _ => rfl

theorem setBreakpoint_blind (m : Member) : Blind (restricting q) (setBreakpoint h m) := by
  refine Blind.own (fun _ => rfl) fun w => ?_
  cases w.targets.get? m.id with
  | some target => exact Blind.pure _
  | none =>
    refine (Blind.ask _).bind fun r => ?_
    cases r with
    | error f => exact Blind.pure _
    | ok u => exact Blind.bind (Blind.change fun _ => rfl) fun _ => (mark_blind _).bind fun _ => Blind.pure _

end Monitor

namespace Engine

theorem watch_blind {a : Act Monitor σ β} (ha : Blind (Monitor.restricting q) a) :
    Blind (restricting q) (watch a : Act (Engine π) σ β) := by
  intro x
  have hx := ha ⟨x.own.monitor, x.host, x.notices⟩
  unfold watch
  dsimp only [restricting] at hx ⊢
  rw [hx]

theorem placeBreakpoint_blind (m : Member) : Blind (restricting q) (placeBreakpoint h m : Act (Engine π) σ Unit) := by
  refine (watch_blind (Monitor.setBreakpoint_blind m)).bind fun r => ?_
  match r with
  | .ok true => exact Blind.give _
  | .ok false => exact Blind.pure _
  | .error f => exact watch_blind (Monitor.mark_blind _)

theorem adopt_blind (owner : String) (m : Member) :
    Blind (restricting q) (adopt h owner m : Act (Engine π) σ Unit) := by
  have hplace : Blind (restricting q) (do
      if (← own).policy.isBlocking (owner, m.name) && !m.native then placeBreakpoint h m else pure () :
      Act (Engine π) σ Unit) :=
    Blind.own (fun _ => rfl) fun _ => (placeBreakpoint_blind m).ite (Blind.pure _)
  refine Blind.own (fun _ => rfl) fun e => ?_
  cases e.requests.get? (owner, m.name) with
  | none => exact hplace
  | some a => exact (watch_blind (Monitor.setHook_blind _ _)).bind fun _ => hplace

theorem resolveType_blind (owner : String) :
    Blind (restricting q) (resolveType h owner : Act (Engine π) σ Unit) := by
  refine Blind.own (fun _ => rfl) fun e => Blind.ite ?_ (Blind.pure _)
  refine (Blind.ask _).bind fun r => ?_
  split
  · exact Blind.forM (fun m => adopt_blind owner m) _
  · exact Blind.pure _
  · exact watch_blind (Monitor.mark_blind _)

/-- An engine comes to be set up in one way, whatever its predicate is. -/
theorem start_blind : Blind (restricting q) (start h : Act (Engine π) σ Unit) :=
  Blind.own (fun _ => rfl) fun _ => (Blind.forM (fun owner => resolveType_blind owner) _).bind fun _ =>
    Blind.own (fun _ => rfl) fun _ => Blind.give _

end Engine

/-! ## Sites -/

namespace Site

variable {s : Site π α} {id : EngineId} {t : ThreadId} {slot : Slot π}

theorem restricting_found (hf : s.slots.get? id = some slot) :
    s.restricting id q = { s with slots := s.slots.insert id { slot with engine := slot.engine.restricting q } } :=
  changeSlot_at hf fun slot => { slot with engine := slot.engine.restricting q }

/-- The change is none exactly if the predicates agree. -/
theorem restricting_eq_iff (hf : s.slots.get? id = some slot) :
    s.restricting id q = s ↔ ∀ i, slot.engine.monitor.register.restricts i = q i := by
  rw [restricting_found hf]
  constructor
  · intro hsame i
    have hslot : (s.slots.insert id { slot with engine := slot.engine.restricting q }).get? id = some slot :=
      (congrArg (fun s => s.slots.get? id) hsame).trans hf
    rw [Table.get?_insert, if_pos rfl] at hslot
    rw [← Option.some.inj hslot]
    rfl
  · intro hq
    obtain rfl : slot.engine.monitor.register.restricts = q := funext hq
    have hslot : s.slots.insert id { slot with engine := slot.engine.restricting slot.engine.monitor.register.restricts } =
        s.slots := Table.insert_same hf
    rw [hslot]

theorem alive_restricting (id j : EngineId) (q : ThreadPredicate) (s : Site π α) :
    (s.restricting id q).alive j = s.alive j := by
  show ((s.slots.modify id _).get? j).any Slot.alive = (s.slots.get? j).any Slot.alive
  rw [Table.get?_modify]
  split
  · rename_i e
    rw [e]
    cases s.slots.get? id <;> rfl
  · rfl

theorem isDetached_restricting (id : EngineId) (q : ThreadPredicate) (s : Site π α) :
    (s.restricting id q).isDetached = s.isDetached := by
  funext l
  cases l with
  | engine j => exact congrArg (fun b => !b) (alive_restricting id j q s)
  | recorder j => rfl

theorem listeners_restricting (rt : RuntimeId) (id : EngineId) (q : ThreadPredicate) (s : Site π α) :
    listeners rt (s.restricting id q) = ((listeners rt s).1, (listeners rt s).2.restricting id q) := by
  unfold listeners
  simp only [bind_at, get_at, isDetached_restricting]
  rfl

theorem subscribe_restricting (h : HostId) (l : Listener) (id : EngineId) (q : ThreadPredicate) (s : Site π α) :
    (subscribe h l (s.restricting id q)).2 = (subscribe h l s).2.restricting id q := by
  match h, l with
  | .stage, .engine _ => rfl
  | .stage, .recorder _ => rfl
  | .runtime rt, l =>
    rw [subscribe_runtime, listeners_restricting]
    rfl

theorem acting_restricting {fallback : β} {act : Host World → Act (Engine π) World β}
    (hact : ∀ h, Blind (Engine.restricting q) (act h)) (s : Site π α) :
    acting t id fallback act (s.restricting id q) =
      ((acting t id fallback act s).1, (acting t id fallback act s).2.restricting id q) := by
  cases hf : s.slots.get? id with
  | none =>
    have hsame : s.restricting id q = s := changeSlot_none hf _
    rw [hsame, acting_none hf, hsame]
  | some slot =>
    have hf' : (s.restricting id q).slots.get? id = some { slot with engine := slot.engine.restricting q } := by
      show (s.slots.modify id _).get? id = _
      rw [Table.get?_modify, if_pos rfl, hf]
      rfl
    have hblind := hact (World.host slot.host t) ⟨slot.engine, s.world, []⟩
    rw [acting_at hf', acting_at hf, restricting_found (acted_found ..), restricting_found hf]
    dsimp only at hblind ⊢
    rw [hblind]
    unfold acted
    dsimp only
    rw [Table.insert_insert, Table.insert_insert]

end Site

/-! ## Builds -/

variable {plan : Plan π} {s : Site π α} {t : ThreadId}

/-- The engine made by a plan with these composers instead of its own. -/
theorem Plan.build_composers {e : Engine π} (hb : plan.build.1 = .ok e)
    (l : List (ThreadPredicate → ThreadPredicate)) :
    ({ plan with composers := l }).build =
      (.ok (e.restricting ({ plan with composers := l }).restricts), plan.build.2) := by
  unfold Plan.build at hb ⊢
  cases hw : plan.settings.window with
  | error f => rw [hw] at hb; cases hb
  | ok w =>
    rw [hw] at hb
    cases hb
    rfl

/-- The composers of a plan show in the predicate of the engine that is built, and nowhere else. -/
theorem build_composers (t : ThreadId) (h : HostId) {e : Engine π} (hb : plan.build.1 = .ok e)
    (l : List (ThreadPredicate → ThreadPredicate)) (s : Site π α) :
    build t h { plan with composers := l } s =
      ((build t h plan s).1,
        (build t h plan s).2.restricting ⟨s.slots.size⟩ ({ plan with composers := l }).restricts) := by
  have hb' := Plan.build_composers hb l
  generalize ({ plan with composers := l }).restricts = q at hb' ⊢
  have hgained : s.gained { engine := e.restricting q, host := h } =
      (s.gained { engine := e, host := h }).restricting ⟨s.slots.size⟩ q := by
    have hfound : (s.gained { engine := e, host := h }).slots.get? ⟨s.slots.size⟩ = some { engine := e, host := h } := by
      show (s.slots.insert _ _).get? _ = _
      rw [Table.get?_insert, if_pos rfl]
    rw [restricting_found hfound]
    unfold gained
    dsimp only
    rw [Table.insert_insert]
  rw [build_ok hb, build_ok (congrArg Prod.fst hb'), hb', hgained, subscribe_restricting,
    acting_restricting fun _ => Engine.start_blind]

/-- The engine that a plan makes, with the predicate that the composers made. -/
theorem build_engine (t : ThreadId) (h : HostId) {e : Engine π} (hb : plan.build.1 = .ok e) (s : Site π α) :
    ∃ e', (build t h plan s).2.engine? ⟨s.slots.size⟩ = some e' ∧ e'.monitor.register.restricts = plan.restricts := by
  have hfound : ((subscribe h (.engine ⟨s.slots.size⟩) (s.gained { engine := e, host := h })).2.slots.get?
      ⟨s.slots.size⟩) = some { engine := e, host := h } := by
    rw [(subscribe_quiet h _ _).slots]
    show (s.slots.insert _ _).get? _ = _
    rw [Table.get?_insert, if_pos rfl]
  rw [build_ok hb]
  dsimp only
  rw [acting_at hfound]
  refine ⟨_, congrArg (Option.map Slot.engine) (acted_found _ _ _), ?_⟩
  have hJ : Engine.Aside fun e' : Engine π => e'.monitor.register.restricts = plan.restricts := fun _ _ _ _ h => h
  have hminds : Engine.Minds plan ⟨0⟩ [] {} (fun _ => False) e := Engine.minds_unresolved hb {}
  have hmade : e.monitor.register.restricts = plan.restricts := hminds.follows.restricts
  exact (Engine.start_keeps hJ (Host.keeps_true (World.host h t)) _ ⟨hmade, trivial⟩).own

/-- A build that fails leaves the site as it was, and of the plan it uses up the composers
    and nothing else. So if the settings are mended and the plan is built again, that comes
    to what the build would have come to had the first never been tried, but for the
    predicate of the engine, which is the marker's alone; and to the very same exactly if
    the composers make no difference to the marker's predicate. -/
theorem failed_build_uses_up_composers (t : ThreadId) (h : HostId) (plan : Plan π) (s : Site π α) {f : SetupError}
    (hfail : (build t h plan s).1.1 = .error f) :
    build t h plan s = ((.error f, { plan with composers := [] }), s) ∧
      ∀ c : Settings, c.validate = .ok () →
        let again := build t h { (build t h plan s).1.2 with settings := c } (build t h plan s).2
        let anew := build t h { plan with settings := c } s
        again.1 = anew.1 ∧ ∃ id e, anew.1.1 = .ok id ∧ anew.2.engine? id = some e ∧
          e.monitor.register.restricts = ({ plan with settings := c }).restricts ∧
          again.2 = anew.2.restricting id (markerPredicate c.marker) ∧
          (again = anew ↔ ∀ i, ({ plan with settings := c }).restricts i = markerPredicate c.marker i) := by
  have hfailed : build t h plan s = ((.error f, { plan with composers := [] }), s) := by
    cases hb : plan.build.1 with
    | error f' =>
      rw [build_error hb] at hfail ⊢
      cases hfail
      rfl
    | ok e =>
      rw [build_ok hb] at hfail
      cases hfail
  refine ⟨hfailed, fun c hc => ?_⟩
  rw [hfailed]
  dsimp only
  obtain ⟨e, hb⟩ : ∃ e, ({ plan with settings := c }).build.1 = .ok e := by
    unfold Settings.validate at hc
    unfold Plan.build
    cases hw : c.window with
    | error f' => rw [hw] at hc; cases hc
    | ok w => exact ⟨_, rfl⟩
  obtain ⟨e', hfound, hrestricts⟩ := build_engine t h hb s
  have hagain := build_composers t h hb [] s
  have hid : (build t h { plan with settings := c } s).1.1 = .ok ⟨s.slots.size⟩ := by rw [build_ok hb]
  dsimp only at hagain
  rw [hagain]
  refine ⟨rfl, _, e', hid, hfound, hrestricts, rfl, ?_⟩
  rw [← hrestricts]
  generalize build t h { plan with settings := c } s = anew at hfound
  obtain ⟨r, s'⟩ := anew
  obtain ⟨slot, hslot, rfl⟩ := Option.map_eq_some_iff.1 hfound
  rw [Prod.mk.injEq, and_iff_right rfl]
  exact restricting_eq_iff hslot

/-- A composer is pending when the settings turn out unusable. After they are mended the
    engine is not the one that the plan would have made at first. -/
theorem failed_build_uses_up_a_composer :
    let r : RuntimeId := ⟨"r"⟩
    let plan : Plan Unit := ({ settings := { depth := 0 }, policy := .empty } : Plan Unit).compose fun before i =>
      before i || i.declares "x"
    let s : Site Unit Unit := bare {} ()
    let failed := build ⟨1⟩ (.runtime r) plan s
    failed.1.1 = .error (.invalidSettings "max_stack_depth must be > 0") ∧
      build ⟨1⟩ (.runtime r) { failed.1.2 with settings := {} } failed.2 ≠
        build ⟨1⟩ (.runtime r) { plan with settings := {} } s := by
  intro r plan s failed
  have hfail : failed.1.1 = .error (.invalidSettings "max_stack_depth must be > 0") := rfl
  obtain ⟨-, hrebuilt⟩ := failed_build_uses_up_composers ⟨1⟩ (.runtime r) plan s hfail
  obtain ⟨-, id, e, -, -, -, -, hsame⟩ := hrebuilt {} rfl
  refine ⟨hfail, fun h => ?_⟩
  have hagree := hsame.1 h ⟨⟨1⟩, none, ["x"]⟩
  exact absurd hagree (by decide +kernel)

/-- And it finds a thread free that the other would find restricted. -/
theorem mended_build_forgets_predicate :
    let r : RuntimeId := ⟨"r"⟩
    let plan : Plan Unit := ({ settings := { depth := 0 }, policy := .empty } : Plan Unit).compose fun before i =>
      before i || i.declares "x"
    let s : Site Unit Unit := (Move.playAll (bare {} ()) [.openRuntime ⟨1⟩ r [], .declare ⟨1⟩ r ["x"]]).2
    let failed := build ⟨1⟩ (.runtime r) plan s
    let restricted (s : Site Unit Unit) : Bool :=
      (acting ⟨1⟩ ⟨0⟩ false (fun h => Engine.watch (Monitor.isRestricted h ⟨1⟩)) s).1
    failed.1.1 = .error (.invalidSettings "max_stack_depth must be > 0") ∧
      restricted (build ⟨1⟩ (.runtime r) { failed.1.2 with settings := {} } failed.2).2 = false ∧
      restricted (build ⟨1⟩ (.runtime r) { plan with settings := {} } s).2 = true := by
  refine ⟨rfl, ?_, ?_⟩ <;> decide +kernel

end StallGuard
