/-
  StallGuard.Proofs.Looking — what an engine makes of the members it looks at.

  A runtime grants every breakpoint on a member it lists, so what looking at members does to
  an engine is settled by the engine and the members (`Engine.Looked`): each is hooked as was
  last requested, each that is to be broken on and has no target gets its call site, and one
  breakpoint is counted for each target that is new.

  Looking again at what was seen before, or in another order, comes to the same:
  - `Looked.trans`: two looks are a look at all that was seen in either.
  - `Looked.unique`: the same members seen, in whatever order and however often, leave the
    same hooks, targets and counters.
  - `resolveType_looks`: resolving a type is a look at its members, and the runtime has new
    breakpoints exactly where the engine has new targets.
-/

import StallGuard.Proofs.Adopting
import StallGuard.Proofs.Mirroring

namespace StallGuard

/-- Tables that hold the same at every key are of one size. -/
theorem Table.size_congr {κ ν : Type} [DecidableEq κ] {s t : Table κ ν} (h : ∀ k, s.get? k = t.get? k) :
    s.size = t.size := by
  have hkeys : s.keys.Perm t.keys := by
    refine (List.perm_ext_iff_of_nodup s.nodup t.nodup).2 fun k => ?_
    have hk : k ∉ s.keys ↔ k ∉ t.keys := by rw [← Table.get?_eq_none, ← Table.get?_eq_none, h]
    exact not_iff_not.1 hk
  simpa [Table.keys, Table.size] using hkeys.length_eq

variable {π : Type}

namespace Engine

variable {seen seen' : List Member} {m : Member} {e e₁ e' : Engine π}

/-- What has become of engine `e` once it has looked at these members. -/
structure Looked (seen : List Member) (e e' : Engine π) : Prop where
  hooked : ∀ m ∈ seen, ∀ k, e.hookFor m = some k → e'.monitor.hooks.get? m.id = some k
  unhooked : ∀ op, (∀ m ∈ seen, m.id = op → e.hookFor m = none) →
    e'.monitor.hooks.get? op = e.monitor.hooks.get? op
  placed : ∀ m ∈ seen, e.breaksOn m = true → e.monitor.targets.get? m.id = none →
    e'.monitor.targets.get? m.id = some (.callSite m)
  unplaced : ∀ op, (∀ m ∈ seen, m.id = op → e.breaksOn m = false) →
    e'.monitor.targets.get? op = e.monitor.targets.get? op
  /-- A target that was there stays what it was. -/
  standing : ∀ op tg, e.monitor.targets.get? op = some tg → e'.monitor.targets.get? op = some tg
  /-- Every new target is a breakpoint that was counted, and nothing else is. -/
  counted : ∃ n, e'.monitor.targets.size = e.monitor.targets.size + n ∧
    e'.monitor.counters = { e.monitor.counters with breakpointsSet := e.monitor.counters.breakpointsSet + n }
  rest : e' = { e with monitor := { e.monitor with
    hooks := e'.monitor.hooks, targets := e'.monitor.targets, counters := e'.monitor.counters } }

/-- Engines that differ in the order of their tables, at most. -/
structure Same (e e' : Engine π) : Prop where
  hooks : ∀ op, e'.monitor.hooks.get? op = e.monitor.hooks.get? op
  targets : ∀ op, e'.monitor.targets.get? op = e.monitor.targets.get? op
  rest : e' = { e with monitor := { e.monitor with hooks := e'.monitor.hooks, targets := e'.monitor.targets } }

namespace Looked

theorem refl (e : Engine π) : Looked [] e e where
  hooked := nofun
  unhooked _ _ := rfl
  placed := nofun
  unplaced _ _ := rfl
  standing _ _ h := h
  counted := ⟨0, rfl, rfl⟩
  rest := rfl

/-- Neither order nor repetition matters. -/
theorem congr (h : Looked seen e e') (hs : ∀ m, m ∈ seen' ↔ m ∈ seen) : Looked seen' e e' where
  hooked m hm := h.hooked m ((hs m).1 hm)
  unhooked op hop := h.unhooked op fun m hm => hop m ((hs m).2 hm)
  placed m hm := h.placed m ((hs m).1 hm)
  unplaced op hop := h.unplaced op fun m hm => hop m ((hs m).2 hm)
  standing := h.standing
  counted := h.counted
  rest := h.rest

theorem hookFor_eq (h : Looked seen e e') (m : Member) : e'.hookFor m = e.hookFor m := by rw [h.rest]; rfl

theorem breaksOn_eq (h : Looked seen e e') (m : Member) : e'.breaksOn m = e.breaksOn m := by rw [h.rest]; rfl

/-- A member that was seen, or is new to the engine under an id of its own, has no target or
    its call site after the look. -/
theorem target_of_none (h : Looked seen e e') (hm : ∀ n ∈ seen, n.id = m.id → n = m) (hb : e.breaksOn m = true)
    (hnone : e.monitor.targets.get? m.id = none) :
    e'.monitor.targets.get? m.id = none ∨ e'.monitor.targets.get? m.id = some (.callSite m) := by
  by_cases hin : m ∈ seen
  · exact .inr (h.placed m hin hb hnone)
  · refine .inl ((h.unplaced m.id fun n hn he => ?_).trans hnone)
    exact absurd (hm n hn he ▸ hn) hin

theorem trans (h : Looked seen e e₁) (h' : Looked seen' e₁ e') (hap : Apart (seen ++ seen')) :
    Looked (seen ++ seen') e e' where
  hooked m hm k hk := by
    -- The last look at the member is what counts, and both looks see the same request.
    by_cases hin : m ∈ seen'
    · exact h'.hooked m hin k (h.hookFor_eq m ▸ hk)
    · have hm₁ : m ∈ seen := (List.mem_append.1 hm).resolve_right hin
      rw [h'.unhooked m.id fun n hn he => absurd ?_ hin]
      · exact h.hooked m hm₁ k hk
      · rw [← hap n (List.mem_append_right _ hn) m hm he]
        exact hn
  unhooked op hop := by
    rw [h'.unhooked op fun m hm he => h.hookFor_eq m ▸ hop m (List.mem_append_right _ hm) he]
    exact h.unhooked op fun m hm => hop m (List.mem_append_left _ hm)
  placed m hm hb hnone := by
    obtain hstill | hset := h.target_of_none
      (fun n hn he => hap n (List.mem_append_left _ hn) m hm he) hb hnone
    · by_cases hin : m ∈ seen'
      · exact h'.placed m hin (h.breaksOn_eq m ▸ hb) hstill
      · have hm₁ : m ∈ seen := (List.mem_append.1 hm).resolve_right hin
        rw [h.placed m hm₁ hb hnone] at hstill
        cases hstill
    · exact h'.standing _ _ hset
  unplaced op hop := by
    rw [h'.unplaced op fun m hm he => h.breaksOn_eq m ▸ hop m (List.mem_append_right _ hm) he]
    exact h.unplaced op fun m hm => hop m (List.mem_append_left _ hm)
  standing op tg htg := h'.standing op tg (h.standing op tg htg)
  counted := by
    obtain ⟨n, hs, hc⟩ := h.counted
    obtain ⟨n', hs', hc'⟩ := h'.counted
    exact ⟨n + n', by rw [hs', hs, Nat.add_assoc], by rw [hc', hc, Nat.add_assoc]⟩
  rest := by
    refine h'.rest.trans ?_
    rw [h.rest]

/-- Whoever has seen the same members knows the same. -/
theorem unique (h : Looked seen e e₁) (h' : Looked seen' e e') (hs : ∀ m, m ∈ seen' ↔ m ∈ seen) : Same e₁ e' := by
  replace h' := h'.congr fun m => (hs m).symm
  have hhooks : ∀ op, e'.monitor.hooks.get? op = e₁.monitor.hooks.get? op := by
    intro op
    by_cases hop : ∃ m ∈ seen, m.id = op ∧ e.hookFor m ≠ none
    · obtain ⟨m, hm, rfl, hk⟩ := hop
      obtain ⟨k, hk⟩ := Option.ne_none_iff_exists'.1 hk
      rw [h.hooked m hm k hk, h'.hooked m hm k hk]
    · have hnone : ∀ m ∈ seen, m.id = op → e.hookFor m = none := fun m hm he =>
        Classical.not_not.1 fun hk => hop ⟨m, hm, he, hk⟩
      rw [h.unhooked op hnone, h'.unhooked op hnone]
  have htargets : ∀ op, e'.monitor.targets.get? op = e₁.monitor.targets.get? op := by
    intro op
    cases htg : e.monitor.targets.get? op with
    | some tg => rw [h.standing op tg htg, h'.standing op tg htg]
    | none =>
      by_cases hop : ∃ m ∈ seen, m.id = op ∧ e.breaksOn m = true
      · obtain ⟨m, hm, rfl, hb⟩ := hop
        rw [h.placed m hm hb htg, h'.placed m hm hb htg]
      · have hfree : ∀ m ∈ seen, m.id = op → e.breaksOn m = false := fun m hm he =>
          Bool.eq_false_iff.2 fun hb => hop ⟨m, hm, he, hb⟩
        rw [h.unplaced op hfree, h'.unplaced op hfree]
  have hcounters : e'.monitor.counters = e₁.monitor.counters := by
    obtain ⟨n, hsize, hc⟩ := h.counted
    obtain ⟨n', hsize', hc'⟩ := h'.counted
    have hsame := Table.size_congr htargets
    rw [hc, hc', show n' = n by omega]
  refine ⟨hhooks, htargets, h'.rest.trans ?_⟩
  rw [hcounters, h.rest]

end Looked

/-! ## One member -/

theorem hooked_looked (hfree : e.breaksOn m = true → (e.monitor.targets.get? m.id).isSome = true) :
    Looked [m] e (Engine.hooked e m.owner m) := by
  obtain ⟨ht, -, -, -⟩ := hooked_aside e m.owner m
  exact {
    hooked := List.forall_mem_singleton.2 fun k hk => by
      obtain ⟨a, ha, rfl⟩ := Option.map_eq_some_iff.1 hk
      exact hooked_requested ha
    unhooked := fun op hop => hooked_other fun he => Option.map_eq_none_iff.1 (hop m List.mem_cons_self he)
    placed := List.forall_mem_singleton.2 fun hb hnone => by
      have := hfree hb
      rw [hnone] at this
      cases this
    unplaced := fun op _ => by rw [ht]
    standing := fun op tg htg => ht ▸ htg
    counted := ⟨0, by rw [ht]; rfl, by unfold Engine.hooked; split <;> rfl⟩
    rest := by unfold Engine.hooked; split <;> rfl }

theorem placing_looked (hb : e.breaksOn m = true) (hnone : e.monitor.targets.get? m.id = none) :
    Looked [m] e ((Engine.hooked e m.owner m).placing m) := by
  obtain ⟨ht, -, -, -⟩ := hooked_aside e m.owner m
  have hget : ∀ op, ((Engine.hooked e m.owner m).placing m).monitor.targets.get? op =
      if op = m.id then some (.callSite m) else e.monitor.targets.get? op := fun op =>
    (Table.get?_insert _ _ _ _).trans (by rw [ht])
  have hsize : ((Engine.hooked e m.owner m).placing m).monitor.targets.size = e.monitor.targets.size + 1 := by
    refine (Table.size_insert _ _ _).trans ?_
    rw [ht, if_neg (by rw [Table.contains, hnone]; exact Bool.false_ne_true)]
  exact {
    hooked := List.forall_mem_singleton.2 fun k hk => by
      obtain ⟨a, ha, rfl⟩ := Option.map_eq_some_iff.1 hk
      exact hooked_requested ha
    unhooked := fun op hop => hooked_other fun he => Option.map_eq_none_iff.1 (hop m List.mem_cons_self he)
    placed := List.forall_mem_singleton.2 fun _ _ => (hget _).trans (if_pos rfl)
    unplaced := fun op hop => by
      refine (hget op).trans (if_neg fun he => ?_)
      rw [hop m List.mem_cons_self he.symm] at hb
      cases hb
    standing := fun op tg htg => by
      refine (hget op).trans ((if_neg fun he => ?_).trans htg)
      rw [he, hnone] at htg
      cases htg
    counted := ⟨1, hsize, by unfold Engine.hooked; split <;> rfl⟩
    rest := by unfold Engine.hooked; split <;> rfl }

/-! ## A look at a runtime -/

section Runtime

variable {rt : RuntimeId} {t : ThreadId} {owner : String} {x y z : Scene (Engine π) World}

/-- The engine went from `x` to `y` by looking at these members of the runtime: breakpoints
    were set where it has new targets, and nowhere else. -/
structure Looks (rt : RuntimeId) (seen : List Member) (x y : Scene (Engine π) World) : Prop where
  engine : Looked seen x.own y.own
  breaks : ∀ rt' op, (watched rt' y).breaksAt op = true ↔ (watched rt' x).breaksAt op = true ∨
    rt' = rt ∧ x.own.monitor.targets.get? op = none ∧ y.own.monitor.targets.get? op ≠ none

theorem Looks.refl (rt : RuntimeId) (x : Scene (Engine π) World) : Looks rt [] x x :=
  ⟨.refl x.own, fun _ _ => ⟨.inl, fun h => h.elim id fun h => absurd h.2.1 h.2.2⟩⟩

/-- Of two looks, one after the other, targets are new by the first or by the second. -/
theorem Looked.new_iff (h : Looked seen e e₁) (h' : Looked seen' e₁ e') (op : OperationId) :
    (e.monitor.targets.get? op = none ∧ e'.monitor.targets.get? op ≠ none) ↔
      (e.monitor.targets.get? op = none ∧ e₁.monitor.targets.get? op ≠ none) ∨
        (e₁.monitor.targets.get? op = none ∧ e'.monitor.targets.get? op ≠ none) := by
  cases h₀ : e.monitor.targets.get? op with
  | some tg => simp [h.standing op tg h₀]
  | none =>
    cases h₁ : e₁.monitor.targets.get? op with
    | some tg => simp [h'.standing op tg h₁]
    | none => simp

theorem Looks.trans (h : Looks rt seen x y) (h' : Looks rt seen' y z) (hap : Apart (seen ++ seen')) :
    Looks rt (seen ++ seen') x z := by
  refine ⟨h.engine.trans h'.engine hap, fun rt' op => ?_⟩
  rw [h'.breaks, h.breaks, h.engine.new_iff h'.engine op, or_assoc, ← and_or_left]

theorem adopt_looks (hd : (watched rt x).Distinct) (hm : m ∈ (watched rt x).members) :
    Looks rt [m] x (adopt (World.host (.runtime rt) t) m.owner m x).2 := by
  obtain ⟨ht, -, -, -⟩ := hooked_aside x.own m.owner m
  have hasked : (x.own.policy.isBlocking (m.owner, m.name) && !m.native) = x.own.breaksOn m := rfl
  -- Without a request the look is hooking alone.
  have hquiet : (x.own.breaksOn m = true → (x.own.monitor.targets.get? m.id).isSome = true) →
      Looks rt [m] x { x with own := Engine.hooked x.own m.owner m } := fun hfree =>
    ⟨hooked_looked hfree, fun _ op => ⟨.inl, fun h => h.elim id fun h => absurd (ht ▸ h.2.1) h.2.2⟩⟩
  rw [adopt_at, hasked]
  by_cases hb : x.own.breaksOn m = true
  · rw [if_pos hb]
    have hknown := (Runtime.byId?_eq_some hd).2 ⟨hm, rfl⟩
    obtain ⟨tg, htg, hsame⟩ | ⟨hnone, -, hhost, hown⟩ | ⟨-, f, hf, -⟩ :=
      placeBreakpoint_cases (World.host (.runtime rt) t) m { x with own := Engine.hooked x.own m.owner m }
    · rw [hsame]
      exact hquiet fun _ => by rw [← ht, htg]; rfl
    · have hnone : x.own.monitor.targets.get? m.id = none := ht ▸ hnone
      have hlook := placing_looked hb hnone
      have hget : ∀ op, ((Engine.hooked x.own m.owner m).placing m).monitor.targets.get? op =
          if op = m.id then some (.callSite m) else x.own.monitor.targets.get? op := fun op =>
        (Table.get?_insert _ _ _ _).trans (by rw [ht])
      refine ⟨hown ▸ hlook, fun rt' op => ?_⟩
      have hnew : (x.own.monitor.targets.get? op = none ∧
          ((Engine.hooked x.own m.owner m).placing m).monitor.targets.get? op ≠ none) ↔ op = m.id := by
        rw [hget]
        by_cases he : op = m.id
        · simp [he, hnone]
        · simp [he]
      rw [hown, hnew, watched, hhost, World.host_setBreakpoint, Process.runtime_changeRuntime]
      by_cases hrt : rt' = rt
      · subst hrt
        rw [if_pos rfl, Runtime.breaksAt_setBreakpoint, hknown]
        simp
      · simp [hrt]
    · rw [World.host_setBreakpoint, (Runtime.setBreakpoint_known hknown).1] at hf
      cases hf
  · rw [if_neg hb]
    exact hquiet fun h => absurd h hb

theorem forM_adopt_looks (owner : String) (l : List Member) (hd : (watched rt x).Distinct)
    (hl : ∀ m ∈ l, m ∈ (watched rt x).members ∧ m.owner = owner) :
    Looks rt l x (l.forM (adopt (World.host (.runtime rt) t) owner) x).2 := by
  induction l generalizing x with
  | nil => exact .refl rt x
  | cons m l ih =>
    obtain ⟨hm, rfl⟩ := hl m List.mem_cons_self
    have hmore := (adopt_more (t := t) m.owner m x (.runtime rt)).members rt
    have hd' : (watched rt (adopt (World.host (.runtime rt) t) m.owner m x).2).Distinct :=
      ⟨by rw [watched, hmore]; exact hd.keys, by rw [watched, hmore]; exact hd.ids⟩
    rw [forM_cons_at]
    refine (adopt_looks hd hm).trans (ih hd' fun n hn => ?_) fun n hn k hk => hd.eq_of_id (hl n hn).1 (hl k hk).1
    rw [watched, hmore]
    exact hl n (List.mem_cons_of_mem _ hn)

/-- Resolving a type is a look at its members, whether or not the engine is concerned. -/
theorem resolveType_looks (owner : String) (hd : (watched rt x).Distinct) :
    Looks rt ((watched rt x).membersOf owner) x (resolveType (World.host (.runtime rt) t) owner x).2 := by
  rw [resolveType_at]
  split
  · exact forM_adopt_looks owner _ hd fun m hm => Runtime.mem_membersOf.1 hm
  · rename_i hc
    have hnot : ∀ m ∈ (watched rt x).membersOf owner, x.own.hookFor m = none ∧ x.own.breaksOn m = false := fun m hm =>
      not_concerned (by simpa using hc) (Runtime.mem_membersOf.1 hm).2
    refine ⟨⟨fun m hm k hk => ?_, fun _ _ => rfl, fun m hm hb => ?_, fun _ _ => rfl, fun _ _ h => h, ⟨0, rfl, rfl⟩, rfl⟩,
      (Looks.refl rt x).breaks⟩
    · rw [(hnot m hm).1] at hk
      cases hk
    · rw [(hnot m hm).2] at hb
      cases hb

end Runtime

end Engine

end StallGuard
