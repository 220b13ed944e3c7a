/-
  StallGuard.Proofs.Adopting — resolving a type on a host that may refuse anything.

  An engine that looks at a type goes through the members the host lists: each is hooked if
  something was requested of it, and one that blocks, is not native and has no target yet
  (`Engine.wants`) has its breakpoint asked for. Nothing is assumed of the host but that no
  two members it lists share an id; it may answer each request as it likes.
  - `Adopting`: how the members are gone through, with the answer to each request. It is
    read off the requests that are really made (`Host.logged`).
  - `Adopts`: what comes of it, member by member. One member's refusal is seen in the fault
    counted and in its own missing target, and nowhere else.

  Proved:
  - `Adopting.adopts`: the promises, by induction on the members gone through.
  - `resolution_on_any_host`: these for every host, engine and type; that the next load asks
    again for what was refused and for nothing else; what a refused listing leaves behind;
    and that a request of a hook does the same for the members of one name.
-/

import StallGuard.Proofs.Binding
import StallGuard.Proofs.FailOpen

namespace StallGuard

open Act

variable {π σ σ' β : Type} {owner : String} {m : Member} {ms : List Member}

/-- A breakpoint that was asked for, with the answer. -/
abbrev Placing := Member × Except Fault Unit

/-- The request that was put to the host. -/
def Placing.exchange (p : Placing) : Exchange := .setBreakpoint p.1.id p.2

def Placing.refused (p : Placing) : Bool := (refusal p.2).isSome

def Placing.accepted (p : Placing) : Bool := !p.refused

namespace Engine

variable {e e₁ e' : Engine π} {placings : List Placing}

/-- The member blocks, is reached through a breakpoint, and has no target yet. -/
def wants (e : Engine π) (owner : String) (m : Member) : Bool :=
  e.policy.isBlocking (owner, m.name) && !m.native && (e.monitor.targets.get? m.id).isNone

/-- The engine once the host has answered for a breakpoint on the member. -/
def answered (e : Engine π) (m : Member) : Except Fault Unit → Engine π
  | .ok () => e.placing m
  | .error f => e.faulted f

/-- The engine once the host would not list the members of a type. -/
def unlisted (e : Engine π) : Fault → Engine π
  | .typeNotLoaded _ => e
  | f => e.faulted f

/-! ## The members gone through -/

/-- Adopting these members, an engine has these breakpoints asked for and becomes this one. -/
inductive Adopting (owner : String) : List Member → Engine π → List Placing → Engine π → Prop
  | done {e : Engine π} : Adopting owner [] e [] e
  | passed {m : Member} {ms : List Member} {e e' : Engine π} {placings : List Placing} : e.wants owner m = false →
      Adopting owner ms (hooked e owner m) placings e' → Adopting owner (m :: ms) e placings e'
  | asked {m : Member} {ms : List Member} {e e' : Engine π} {placings : List Placing} (a : Except Fault Unit) :
      e.wants owner m = true → Adopting owner ms ((hooked e owner m).answered m a) placings e' →
      Adopting owner (m :: ms) e ((m, a) :: placings) e'

theorem watch_logs {a : Act Monitor σ β} {a' : Act Monitor (σ × List Exchange) β} {x : Scene (Engine π) σ}
    {P : List Exchange → β × Scene (Engine π) σ → Prop}
    (h : Logs Scene.logging a a' ⟨x.own.monitor, x.host, x.notices⟩ fun new r =>
      P new (r.1, ⟨{ x.own with monitor := r.2.own }, r.2.host, r.2.notices⟩)) :
    Logs Scene.logging (watch a) (watch a') x P := by
  obtain ⟨new, ha, hp⟩ := h
  refine ⟨new, fun log => ?_, hp⟩
  have hx : (⟨(x.logging log).own.monitor, (x.logging log).host, (x.logging log).notices⟩ : Scene Monitor _) =
      Scene.logging ⟨x.own.monitor, x.host, x.notices⟩ log := rfl
  unfold watch
  rw [hx, ha log]
  rfl

/-- A member with a target is left alone; of any other the host is asked once. -/
theorem placeBreakpoint_logs (h : Host σ) (m : Member) (x : Scene (Engine π) σ) :
    Logs Scene.logging (placeBreakpoint h m) (placeBreakpoint h.logged m) x fun log r =>
      ((x.own.monitor.targets.get? m.id).isNone = false ∧ log = [] ∧ r.2.own = x.own) ∨
      ((x.own.monitor.targets.get? m.id).isNone = true ∧ ∃ a,
        log = [Placing.exchange (m, a)] ∧ r.2.own = x.own.answered m a) := by
  unfold placeBreakpoint
  refine .bind (watch_logs ?_)
  unfold Monitor.setBreakpoint
  refine .bind (.own ?_)
  cases ht : x.own.monitor.targets.get? m.id with
  | some tg => exact .pure (.pure (.inl ⟨rfl, rfl, rfl⟩))
  | none =>
    refine .bind (.ask (.recording ?_))
    cases (h.setBreakpoint m.id x.host).1 with
    | error f =>
      dsimp only
      exact .pure (watch_logs (Monitor.mark_logs (.inr ⟨rfl, .error f, rfl, rfl⟩)))
    | ok u =>
      dsimp only
      refine .bind (.change (.bind (Monitor.mark_logs (.pure ?_))))
      exact .give (.inr ⟨rfl, .ok (), rfl, rfl⟩)

theorem adopt_logs (h : Host σ) (owner : String) (m : Member) (x : Scene (Engine π) σ) :
    Logs Scene.logging (adopt h owner m) (adopt h.logged owner m) x fun log r =>
      (x.own.wants owner m = false ∧ log = [] ∧ r.2.own = hooked x.own owner m) ∨
      (x.own.wants owner m = true ∧ ∃ a,
        log = [Placing.exchange (m, a)] ∧ r.2.own = (hooked x.own owner m).answered m a) := by
  obtain ⟨ht, -, -, -⟩ := hooked_aside x.own owner m
  -- Hooking asks nothing, so the exchanges are those of the breakpoint that follows.
  suffices hplace : Logs Scene.logging
      (if x.own.policy.isBlocking (owner, m.name) && !m.native then placeBreakpoint h m else pure ())
      (if x.own.policy.isBlocking (owner, m.name) && !m.native then placeBreakpoint h.logged m else pure ())
      { x with own := hooked x.own owner m } fun log r =>
        (x.own.wants owner m = false ∧ log = [] ∧ r.2.own = hooked x.own owner m) ∨
        (x.own.wants owner m = true ∧ ∃ a,
          log = [Placing.exchange (m, a)] ∧ r.2.own = (hooked x.own owner m).answered m a) by
    obtain ⟨new, he, hp⟩ := hplace
    refine ⟨new, fun log => ?_, ?_⟩
    · rw [adopt_at, adopt_at]
      exact he log
    · rw [adopt_at]
      exact hp
  by_cases hb : (x.own.policy.isBlocking (owner, m.name) && !m.native) = true
  · rw [if_pos hb, if_pos hb]
    refine (placeBreakpoint_logs h m _).imp fun log hlog => ?_
    simpa only [wants, hb, Bool.true_and, ht] using hlog
  · rw [if_neg hb, if_neg hb]
    exact .pure (.inl ⟨by simp only [wants, Bool.eq_false_iff.2 hb, Bool.false_and], rfl, rfl⟩)

/-- Every turn is over before the next, whatever it came to. -/
theorem forM_adopt_logs (h : Host σ) (owner : String) (ms : List Member) (x : Scene (Engine π) σ) :
    Logs Scene.logging (ms.forM (adopt h owner)) (ms.forM (adopt h.logged owner)) x fun log r =>
      ∃ placings : List Placing, log = placings.map Placing.exchange ∧ Adopting owner ms x.own placings r.2.own := by
  induction ms generalizing x with
  | nil => exact .pure ⟨[], rfl, .done⟩
  | cons m ms ih =>
    refine .bind ((adopt_logs h owner m x).imp fun log hlog => (ih _).imp ?_)
    rintro log' ⟨placings, rfl, hrest⟩
    obtain ⟨hno, rfl, hown⟩ | ⟨hwants, a, rfl, hown⟩ := hlog
    · exact ⟨placings, rfl, .passed hno (hown ▸ hrest)⟩
    · exact ⟨(m, a) :: placings, rfl, .asked a hwants (hown ▸ hrest)⟩

/-- An engine that the type concerns has its members listed, and goes through them. -/
theorem resolveType_logs (h : Host σ) {x : Scene (Engine π) σ} (hc : x.own.concerns owner = true)
    (hl : (h.typeMembers owner x.host).1 = .ok ms) :
    Logs Scene.logging (resolveType h owner) (resolveType h.logged owner) x fun log r =>
      ∃ placings : List Placing, log = .typeMembers owner (.ok ms) :: placings.map Placing.exchange ∧
        Adopting owner ms x.own placings r.2.own := by
  unfold resolveType
  refine .bind (.own ?_)
  rw [if_pos hc, if_pos hc]
  refine .bind (.ask (.recording ?_))
  rw [hl]
  refine (forM_adopt_logs h owner ms _).imp fun log hlog => ?_
  obtain ⟨placings, rfl, hrest⟩ := hlog
  exact ⟨placings, rfl, hrest⟩

/-! ## What comes of it -/

/-- What adopting the members makes of engine `e`, given the answers to its requests. -/
structure Adopts (owner : String) (ms : List Member) (placings : List Placing) (e e' : Engine π) : Prop where
  /-- One request for each member that wants a breakpoint, in the order of the listing. -/
  asked : placings.map Prod.fst = ms.filter (e.wants owner)
  /-- A member of which something was requested carries the last request. -/
  hooked : ∀ m ∈ ms, ∀ a, e.requests.get? (owner, m.name) = some a →
    e'.monitor.hooks.get? m.id = some ⟨owner, m.name, a⟩
  /-- No other operation is hooked or loses its hook. -/
  unhooked : ∀ op, (∀ m ∈ ms, m.id = op → e.requests.get? (owner, m.name) = none) →
    e'.monitor.hooks.get? op = e.monitor.hooks.get? op
  /-- A member that was asked for has a call site exactly if the host accepted. -/
  placed : ∀ p ∈ placings, e'.monitor.targets.get? p.1.id = if p.accepted then some (.callSite p.1) else none
  /-- No other operation gets a target, and what has one keeps it. -/
  kept : ∀ op, (∀ m ∈ ms, e.wants owner m = true → m.id ≠ op) →
    e'.monitor.targets.get? op = e.monitor.targets.get? op
  /-- Refusals and accepted breakpoints are counted one by one. -/
  counted : e'.monitor.counters = { e.monitor.counters with
    faults := e.monitor.counters.faults + placings.countP Placing.refused
    breakpointsSet := e.monitor.counters.breakpointsSet + placings.countP Placing.accepted }
  /-- Nothing else of the engine changes. -/
  rest : e' = { e with monitor := { e.monitor with
    hooks := e'.monitor.hooks, targets := e'.monitor.targets, counters := e'.monitor.counters } }

theorem hooked_requested {a : Bool} (ha : e.requests.get? (owner, m.name) = some a) :
    (Engine.hooked e owner m).monitor.hooks.get? m.id = some ⟨owner, m.name, a⟩ := by
  unfold Engine.hooked
  rw [ha]
  exact (Table.get?_insert _ _ _ _).trans (if_pos rfl)

theorem hooked_other {op : OperationId} (hop : m.id = op → e.requests.get? (owner, m.name) = none) :
    (Engine.hooked e owner m).monitor.hooks.get? op = e.monitor.hooks.get? op := by
  unfold Engine.hooked
  cases ha : e.requests.get? (owner, m.name) with
  | none => rfl
  | some a =>
    have hne : op ≠ m.id := by
      rintro rfl
      rw [hop rfl] at ha
      cases ha
    exact (Table.get?_insert _ _ _ _).trans (if_neg hne)

namespace Adopts

theorem requests_eq (h : Adopts owner ms placings e e') : e'.requests = e.requests := by
  rw [h.rest]

theorem policy_eq (h : Adopts owner ms placings e e') : e'.policy = e.policy := by
  rw [h.rest]

theorem mem_of_placing (h : Adopts owner ms placings e e') {p : Placing} (hp : p ∈ placings) :
    p.1 ∈ ms ∧ e.wants owner p.1 = true :=
  List.mem_filter.1 (h.asked ▸ List.mem_map_of_mem hp)

/-- Members of other ids are left for a later turn as they are. -/
theorem wants_apart (h : Adopts owner ms placings e e') {n : Member} (hn : ∀ m ∈ ms, m.id ≠ n.id) :
    e'.wants owner n = e.wants owner n := by
  simp only [wants, h.policy_eq, h.kept n.id fun m hm _ => hn m hm]

/-- Members gone through one after another, the later ones with ids of their own. -/
theorem append {ns : List Member} {placings' : List Placing} (h : Adopts owner ms placings e e₁)
    (h' : Adopts owner ns placings' e₁ e') (hap : ∀ m ∈ ms, ∀ n ∈ ns, m.id ≠ n.id) :
    Adopts owner (ms ++ ns) (placings ++ placings') e e' where
  asked := by
    rw [List.map_append, List.filter_append, h.asked, h'.asked]
    congr 1
    exact List.filter_congr fun n hn => h.wants_apart fun m hm => hap m hm n hn
  hooked n hn a ha := by
    obtain hn | hn := List.mem_append.1 hn
    · rw [h'.unhooked n.id fun k hk he => absurd he.symm (hap n hn k hk)]
      exact h.hooked n hn a ha
    · exact h'.hooked n hn a (h.requests_eq ▸ ha)
  unhooked op hop := by
    rw [h'.unhooked op fun n hn he => h.requests_eq ▸ hop n (List.mem_append_right _ hn) he]
    exact h.unhooked op fun n hn he => hop n (List.mem_append_left _ hn) he
  placed p hp := by
    obtain hp | hp := List.mem_append.1 hp
    · rw [h'.kept p.1.id fun n hn _ => (hap _ (h.mem_of_placing hp).1 n hn).symm]
      exact h.placed p hp
    · exact h'.placed p hp
  kept op hop := by
    rw [h'.kept op fun n hn hw => hop n (List.mem_append_right _ hn)
      (h.wants_apart (fun m hm => hap m hm n hn) ▸ hw)]
    exact h.kept op fun m hm => hop m (List.mem_append_left _ hm)
  counted := by
    rw [h'.counted, h.counted, List.countP_append, List.countP_append, Nat.add_assoc, Nat.add_assoc]
  rest := by
    refine h'.rest.trans ?_
    rw [h.rest]

end Adopts

/-- The turn of a member that wants no breakpoint. -/
theorem adopts_passed (hno : e.wants owner m = false) : Adopts owner [m] [] e (Engine.hooked e owner m) where
  asked := by simp [hno]
  hooked := List.forall_mem_singleton.2 fun _ ha => hooked_requested ha
  unhooked _ hop := hooked_other (hop m List.mem_cons_self)
  placed := nofun
  kept op _ := by rw [(hooked_aside e owner m).1]
  counted := by
    unfold Engine.hooked
    split <;> rfl
  rest := by
    unfold Engine.hooked
    split <;> rfl

/-- The turn of a member that wants one, whatever the host answers. -/
theorem adopts_asked (hwants : e.wants owner m = true) (a : Except Fault Unit) :
    Adopts owner [m] [(m, a)] e ((Engine.hooked e owner m).answered m a) := by
  obtain ⟨ht, -, -, -⟩ := hooked_aside e owner m
  have hnone : e.monitor.targets.get? m.id = none := by
    simp only [wants, Bool.and_eq_true, Option.isNone_iff_eq_none] at hwants
    exact hwants.2
  have hhooks : ((Engine.hooked e owner m).answered m a).monitor.hooks = (Engine.hooked e owner m).monitor.hooks := by
    cases a <;> rfl
  exact {
    asked := by simp [hwants]
    hooked := List.forall_mem_singleton.2 fun _ ha => hhooks ▸ hooked_requested ha
    unhooked := fun _ hop => hhooks ▸ hooked_other (hop m List.mem_cons_self)
    placed := by
      refine List.forall_mem_singleton.2 ?_
      cases a with
      | ok u => exact (Table.get?_insert _ _ _ _).trans (if_pos rfl)
      | error f => exact (congrArg (Table.get? · m.id) ht).trans hnone
    kept := fun op hop => by
      rw [← ht]
      cases a with
      | ok u => exact (Table.get?_insert _ _ _ _).trans (if_neg fun he => hop m List.mem_cons_self hwants he.symm)
      | error f => rfl
    counted := by
      unfold Engine.hooked
      cases a <;> split <;> rfl
    rest := by
      unfold Engine.hooked
      cases a <;> split <;> rfl }

/-- Whatever is answered to one member's request, the others have the same said of them. -/
theorem Adopting.adopts (h : Adopting owner ms e placings e') (hn : (ms.map Member.id).Nodup) :
    Adopts owner ms placings e e' := by
  have hhead : ∀ {m : Member} {ms : List Member}, ((m :: ms).map Member.id).Nodup →
      (∀ k ∈ [m], ∀ n ∈ ms, k.id ≠ n.id) ∧ (ms.map Member.id).Nodup := by
    intro m ms hn
    obtain ⟨hm, hn⟩ := List.nodup_cons.1 hn
    refine ⟨fun k hk n hin he => hm ?_, hn⟩
    rw [← List.mem_singleton.1 hk, he]
    exact List.mem_map_of_mem hin
  induction h with
  | done => exact ⟨rfl, nofun, fun _ _ => rfl, nofun, fun _ _ => rfl, rfl, rfl⟩
  | passed hno _ ih => exact (adopts_passed hno).append (ih (hhead hn).2) (hhead hn).1
  | asked a hwants _ ih => exact (adopts_asked hwants a).append (ih (hhead hn).2) (hhead hn).1

/-! ## The next load -/

theorem Adopts.wants_iff (h : Adopts owner ms placings e e') {p : Placing} (hp : p ∈ placings) :
    e'.wants owner p.1 = p.refused := by
  have hwants := (h.mem_of_placing hp).2
  simp only [wants, Bool.and_eq_true] at hwants
  simp only [wants, h.policy_eq, hwants.1, h.placed p hp, Placing.accepted]
  by_cases hr : p.refused = true <;> simp [hr]

/-- What was refused is wanted still, and nothing else. -/
theorem Adopts.left_over (h : Adopts owner ms placings e e') (hn : (ms.map Member.id).Nodup) :
    ms.filter (e'.wants owner) = (placings.filter Placing.refused).map Prod.fst := by
  have hmore : ∀ m ∈ ms, (e'.wants owner m && e.wants owner m) = e'.wants owner m := by
    intro m hm
    cases hw : e.wants owner m with
    | true => exact Bool.and_true _
    | false =>
      have hnot : ∀ n ∈ ms, e.wants owner n = true → n.id ≠ m.id := by
        intro n hin hwants he
        rw [List.inj_on_of_nodup_map hn hin hm he, hw] at hwants
        cases hwants
      have hsame : e'.wants owner m = e.wants owner m := by
        simp only [wants, h.policy_eq, h.kept m.id hnot]
      rw [hsame, hw, Bool.and_self]
  calc ms.filter (e'.wants owner)
      = ms.filter fun m => e'.wants owner m && e.wants owner m := (List.filter_congr hmore).symm
    _ = (ms.filter (e.wants owner)).filter (e'.wants owner) := List.filter_filter.symm
    _ = (placings.map Prod.fst).filter (e'.wants owner) := by rw [h.asked]
    _ = (placings.filter fun p => e'.wants owner p.1).map Prod.fst := List.filter_map
    _ = (placings.filter Placing.refused).map Prod.fst := by
      rw [List.filter_congr fun p hp => h.wants_iff hp]

/-- A member that has its hook and wants no breakpoint has nothing done about it. -/
theorem adopt_settled (h : Host σ) {x : Scene (Engine π) σ}
    (hh : ∀ a, x.own.requests.get? (owner, m.name) = some a →
      x.own.monitor.hooks.get? m.id = some ⟨owner, m.name, a⟩)
    (hw : x.own.wants owner m = false) : (adopt h owner m x).2 = x := by
  have hown : Engine.hooked x.own owner m = x.own := by
    unfold Engine.hooked
    cases ha : x.own.requests.get? (owner, m.name) with
    | none => rfl
    | some a =>
      dsimp only
      rw [Table.insert_same (hh a ha)]
  rw [adopt_at, hown]
  split
  · rename_i hb
    simp only [wants, hb, Bool.true_and] at hw
    obtain ⟨_, -, hx⟩ | ⟨hnone, -⟩ | ⟨hnone, -⟩ := placeBreakpoint_cases h m x
    · exact hx
    · rw [hnone] at hw; cases hw
    · rw [hnone] at hw; cases hw
  · rfl

theorem forM_adopt_settled (h : Host σ) {x : Scene (Engine π) σ}
    (hh : ∀ m ∈ ms, ∀ a, x.own.requests.get? (owner, m.name) = some a →
      x.own.monitor.hooks.get? m.id = some ⟨owner, m.name, a⟩)
    (hw : ∀ m ∈ ms, x.own.wants owner m = false) : (ms.forM (adopt h owner) x).2 = x := by
  induction ms with
  | nil => rfl
  | cons m ms ih =>
    rw [forM_cons_at, adopt_settled h (hh m List.mem_cons_self) (hw m List.mem_cons_self)]
    exact ih (fun n hn => hh n (List.mem_cons_of_mem _ hn)) fun n hn => hw n (List.mem_cons_of_mem _ hn)

/-- One load of the type, with the host listing these members: what it is asked, with its
    answers, and what the engine makes of it. -/
structure Loads (h : Host σ) (owner : String) (ms : List Member) (x : Scene (Engine π) σ) (placings : List Placing) :
    Prop where
  exchanges : ∀ past, resolveType h.logged owner (x.logging past) =
    ((), (resolveType h owner x).2.logging
      (past ++ .typeMembers owner (.ok ms) :: placings.map Placing.exchange))
  adopts : Adopts owner ms placings x.own (resolveType h owner x).2.own

theorem resolveType_loads (h : Host σ) {x : Scene (Engine π) σ} (hc : x.own.concerns owner = true)
    (hl : (h.typeMembers owner x.host).1 = .ok ms) (hn : (ms.map Member.id).Nodup) :
    ∃ placings, Loads h owner ms x placings := by
  obtain ⟨_, hlogged, placings, rfl, hrun⟩ := resolveType_logs h hc hl
  exact ⟨placings, hlogged, hrun.adopts hn⟩

/-- The next load, on whatever host, asks for what was refused; if that is nothing, it
    changes nothing. -/
theorem Adopts.next_load (hfirst : Adopts owner ms placings e e') (hc : e.concerns owner = true)
    (hn : (ms.map Member.id).Nodup) (h : Host σ) {x : Scene (Engine π) σ} (hx : x.own = e')
    (hl : (h.typeMembers owner x.host).1 = .ok ms) :
    (∃ placings', Loads h owner ms x placings' ∧
      placings'.map Prod.fst = (placings.filter Placing.refused).map Prod.fst) ∧
    ((∀ p ∈ placings, p.accepted = true) →
      (resolveType h owner x).2 = { x with host := (h.typeMembers owner x.host).2 }) := by
  subst hx
  have hc' : x.own.concerns owner = true := by
    simpa only [concerns, hfirst.requests_eq, hfirst.policy_eq] using hc
  obtain ⟨placings', hload⟩ := resolveType_loads h hc' hl hn
  refine ⟨⟨placings', hload, hload.adopts.asked.trans (hfirst.left_over hn)⟩, fun hall => ?_⟩
  have hnone : ms.filter (x.own.wants owner) = [] := by
    rw [hfirst.left_over hn, List.map_eq_nil_iff, List.filter_eq_nil_iff]
    exact fun p hp => by simpa [Placing.accepted] using hall p hp
  unfold resolveType
  rw [bind_at, own_at]
  dsimp only
  rw [if_pos hc', bind_at, ask_at, hl]
  refine forM_adopt_settled h (fun m hm a ha => ?_) fun m hm => ?_
  · exact hfirst.hooked m hm a (hfirst.requests_eq ▸ ha)
  · exact Bool.eq_false_iff.2 fun hw => List.not_mem_nil (hnone ▸ List.mem_filter.2 ⟨hm, hw⟩)

/-! ## A refused listing -/

/-- A type the host does not know yet is no fault; any other refusal is one. Nothing is
    adopted. -/
theorem resolveType_unlisted (h : Host σ) {x : Scene (Engine π) σ} {f : Fault} (hc : x.own.concerns owner = true)
    (hl : (h.typeMembers owner x.host).1 = .error f) : (resolveType h owner x).2.own = x.own.unlisted f := by
  unfold resolveType
  rw [bind_at, own_at]
  dsimp only
  rw [if_pos hc, bind_at, ask_at, hl]
  cases f <;> rfl

/-! ## A request -/

/-- What a request for all members of a name does on a host that may refuse to list them. -/
structure Registers (h : Host σ) (owner name : String) (a : Bool) (x : Scene (Engine π) σ) : Prop where
  /-- It hooks exactly the members of that name, and says how many there are. -/
  listed : ∀ ms, (h.typeMembers owner x.host).1 = .ok ms →
    (registerHook h owner name a x).1 = ms.countP (·.name = name) ∧
      ∃ hooks : Hooks, (registerHook h owner name a x).2.own = { x.own with
          monitor := { x.own.monitor with hooks }
          requests := x.own.requests.insert (owner, name) a } ∧
        ∀ op, hooks.get? op = if ∃ m ∈ ms, m.name = name ∧ m.id = op
          then some ⟨owner, name, a⟩ else x.own.monitor.hooks.get? op
  /-- Without a listing it is kept for the next load and hooks nothing. -/
  refused : ∀ f, (h.typeMembers owner x.host).1 = .error f →
    (registerHook h owner name a x).1 = 0 ∧
      (registerHook h owner name a x).2.own =
        Engine.unlisted { x.own with requests := x.own.requests.insert (owner, name) a } f

theorem registerHook_registers (h : Host σ) (owner name : String) (a : Bool) (x : Scene (Engine π) σ) :
    Registers h owner name a x where
  listed ms hl := by
    let x' : Scene (Engine π) σ :=
      ⟨{ x.own with requests := x.own.requests.insert (owner, name) a }, (h.typeMembers owner x.host).2, x.notices⟩
    obtain ⟨hooks, he, hg⟩ := forM_setHook ⟨owner, name, a⟩ ((ms.filter fun m => m.name = name).map Member.id) x'
    unfold registerHook Host.resolve
    rw [bind_at, change_at, bind_at, ask_at, bind_at]
    dsimp only
    rw [hl]
    refine ⟨by simp [List.countP_eq_length_filter], hooks, congrArg Scene.own he, fun op => ?_⟩
    rw [hg]
    simp [x', and_assoc]
  refused f hl := by
    unfold registerHook Host.resolve
    rw [bind_at, change_at, bind_at, ask_at, bind_at]
    dsimp only
    rw [hl]
    cases f <;> exact ⟨rfl, rfl⟩

/-- A type that an engine has requests for, or that declares a blocking member, is resolved
    on whatever host lists members of distinct ids. Of each member the engine then holds what
    `Adopts` says, for the answers that were really given; the next load of the type puts to
    the host what was refused and no more, and if nothing was, it changes nothing. A listing
    that is refused leaves everything but the count of faults as it was. A request made later
    does the same for the members of its name. -/
theorem resolution_on_any_host (h : Host σ) (owner : String) (x : Scene (Engine π) σ) :
    (x.own.concerns owner = true →
      (∀ ms, (h.typeMembers owner x.host).1 = .ok ms → (ms.map Member.id).Nodup →
        ∃ placings, Loads h owner ms x placings ∧
          ∀ {σ' : Type} (h' : Host σ') (y : Scene (Engine π) σ'), y.own = (resolveType h owner x).2.own →
            (h'.typeMembers owner y.host).1 = .ok ms →
            (∃ placings', Loads h' owner ms y placings' ∧
              placings'.map Prod.fst = (placings.filter Placing.refused).map Prod.fst) ∧
            ((∀ p ∈ placings, p.accepted = true) →
              (resolveType h' owner y).2 = { y with host := (h'.typeMembers owner y.host).2 })) ∧
      ∀ f, (h.typeMembers owner x.host).1 = .error f → (resolveType h owner x).2.own = x.own.unlisted f) ∧
    ∀ name a, Registers h owner name a x := by
  refine ⟨fun hc => ⟨fun ms hl hn => ?_, fun f hl => resolveType_unlisted h hc hl⟩,
    fun name a => registerHook_registers h owner name a x⟩
  obtain ⟨placings, hload⟩ := resolveType_loads h hc hl hn
  exact ⟨placings, hload, fun h' y hy hl' => hload.adopts.next_load hc hn h' hy hl'⟩

/-- Three members of one name, a native among them; the host will not have a breakpoint on
    the second at first, and the next load asks for that one alone. -/
theorem resolution_retries_a_refusal :
    let member (id : Nat) (native : Bool) : Member := { id := ⟨id⟩, owner := "a::B", name := "read", native }
    let ms := [member 1 false, member 2 false, member 3 true]
    let stage : Stage := { ms.foldl Stage.addMember {} with loaded := ["a::B"] }
    let e : Engine Unit := unresolved {} ⟨2, 1, by decide, by decide⟩
      ((Policy.empty.markBlocking ("a::B", "read")).setAllowance ("a::B", "read") true) .fail (fun _ => true) none
    let x : Scene (Engine Unit) Stage := ⟨e, { stage with rejected := [⟨2⟩] }, []⟩
    let e' := (resolveType Stage.host "a::B" x).2.own
    (∃ placings, Loads Stage.host "a::B" ms x placings ∧
      placings.map Prod.fst = [member 1 false, member 2 false]) ∧
    (∀ op ∈ [1, 2, 3], e'.monitor.hooks.get? ⟨op⟩ = some ⟨"a::B", "read", true⟩) ∧
    ∀ y : Scene (Engine Unit) Stage, y.own = e' → y.host = stage →
      ∃ placings, Loads Stage.host "a::B" ms y placings ∧ placings.map Prod.fst = [member 2 false] := by
  intro member ms stage e x e'
  obtain ⟨hlisted, -⟩ := (resolution_on_any_host Stage.host "a::B" x).1 (by decide +kernel)
  obtain ⟨placings, hload, hnext⟩ := hlisted ms (by decide +kernel) (by decide)
  have hasked : placings.map Prod.fst = [member 1 false, member 2 false] :=
    hload.adopts.asked.trans (by decide +kernel)
  have hwanted : ms.filter (e'.wants "a::B") = [member 2 false] := by decide +kernel
  have hlists : (Stage.host.typeMembers "a::B" stage).1 = .ok ms := by decide +kernel
  refine ⟨⟨placings, hload, hasked⟩, by decide +kernel, fun y hy hstage => ?_⟩
  obtain ⟨again, hagain, hleft⟩ := (hnext Stage.host y hy (hstage ▸ hlists)).1
  exact ⟨again, hagain, hleft.trans ((hload.adopts.left_over (by decide)).symm.trans hwanted)⟩

end Engine

end StallGuard
