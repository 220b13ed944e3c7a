/-
  StallGuard.Proofs.Resolution — names become hooks and breakpoints, in whatever order.

  A request may come from the policy or later, before or after its member is defined, its
  type loaded or the engine built. What the engine then has is read off the record:
  - `resolution_exact`: its hooks are the last requests for the members catalogued, its call
    sites the catalogued members that its policy marks blocking and that are not native,
    each with a breakpoint; so runs that agree on the order of the definitions, and for
    each member on the order of the requests, come to the same, however they interleave.
-/

import StallGuard.Proofs.Lasting

namespace StallGuard

open Engine Site

variable {π α : Type} {rt : RuntimeId} {plan : Plan π} {id : EngineId} {past since : List Event} {s : Site π α}

/-- What an engine that is alive has come to know. -/
theorem Built.minds (h : Built rt plan id past since s) (ha : s.alive id = true) :
    ∃ slot, s.slots.get? id = some slot ∧ slot.host = .runtime rt ∧ s.process.Catalogued ∧
      Minds plan id since (s.process.runtime rt) (fun _ => True) slot.engine := by
  obtain ⟨ho, slot, hs⟩ := h.attends
  rw [alive_iff hs.found] at ha
  exact ⟨slot, hs.found, hs.host, ho.catalogued, hs.minds.mono fun _ _ _ => ⟨ha, trivial⟩⟩

namespace Engine

variable {r : Runtime} {e : Engine π}

theorem Minds.hookFor_eq (h : Minds plan id since r (fun _ => True) e) (m : Member) :
    e.hookFor m = (lastRequest plan id since m.key).map fun a => ⟨m.owner, m.name, a⟩ := by
  rw [hookFor, h.requests]

/-- The hooks are the last requests for what is catalogued. -/
theorem Minds.get?_hooks (h : Minds plan id since r (fun _ => True) e) (hc : ∀ ev ∈ since, ev ≠ .hooked id)
    (op : OperationId) (k : Hook) :
    e.monitor.hooks.get? op = some k ↔ ∃ m ∈ r.members, m.id = op ∧
      ∃ a, lastRequest plan id since m.key = some a ∧ k = ⟨m.owner, m.name, a⟩ := by
  constructor
  · intro hk
    obtain ⟨m, hm, hid, hfor⟩ := (h.hooks hc).sound op k hk
    rw [h.hookFor_eq, Option.map_eq_some_iff] at hfor
    obtain ⟨a, ha, rfl⟩ := hfor
    exact ⟨m, hm, hid, a, ha, rfl⟩
  · rintro ⟨m, hm, rfl, a, ha, rfl⟩
    refine (h.hooks hc).complete m hm trivial _ ?_
    rw [h.hookFor_eq, ha]
    rfl

theorem Minds.breaksOn_iff (h : Minds plan id since r (fun _ => True) e) (m : Member) :
    e.breaksOn m = true ↔ m.native = false ∧ plan.policy.isBlocking m.key = true := by
  rw [breaksOn, h.follows.policy, Bool.and_eq_true, Bool.not_eq_true', and_comm]

/-- The call sites are the blocking members that are not native. -/
theorem Minds.get?_callSite (h : Minds plan id since r (fun _ => True) e) (op : OperationId) (m : Member) :
    e.monitor.targets.get? op = some (.callSite m) ↔
      m ∈ r.members ∧ m.id = op ∧ m.native = false ∧ plan.policy.isBlocking m.key = true := by
  rw [← h.breaksOn_iff]
  constructor
  · intro hm
    obtain ⟨h1, h2, h3, -⟩ := h.targets.callSite op m hm
    exact ⟨h1, h2, h3⟩
  · rintro ⟨hm, rfl, hb⟩
    exact h.targets.complete m hm trivial hb

theorem Minds.breaksAt (h : Minds plan id since r (fun _ => True) e) {m : Member} (hm : m ∈ r.members)
    (hn : m.native = false) (hb : plan.policy.isBlocking m.key = true) : r.breaksAt m.id = true :=
  (h.targets.callSite m.id m ((h.get?_callSite m.id m).2 ⟨hm, rfl, hn, hb⟩)).2.2.2

end Engine

/-- The catalogues of two runs agree if the same members were introduced in one order. -/
theorem Built.same_members {rt' : RuntimeId} {plan' : Plan π} {id' : EngineId} {past' since' : List Event}
    {s' : Site π α}
    (h : Built rt plan id past since s) (h' : Built rt' plan' id' past' since' s')
    (hd : Process.introductions (definitions (past' ++ since')) = Process.introductions (definitions (past ++ since)))
    (r : RuntimeId) : (s'.process.runtime r).members = (s.process.runtime r).members := by
  rw [h.catalogues.members, h'.catalogues.members, Process.catalogueEach_introductions, hd,
    ← Process.catalogueEach_introductions]

/-- The hooks of an engine that is alive are exactly the last requests made of it for the
    catalogued members, and its call sites exactly the catalogued members that its policy
    marks blocking and that are not native, each with a breakpoint set. Any other run that
    introduced the same members in one order, and made the same requests for each member
    in one order, ends with the same hooks and the same call sites. -/
theorem resolution_exact (h : Built rt plan id past since s) (ha : s.alive id = true)
    (hc : ∀ ev ∈ since, ev ≠ .hooked id) :
    ∃ e, s.engine? id = some e ∧
      (∀ op k, e.monitor.hooks.get? op = some k ↔ ∃ m ∈ (s.process.runtime rt).members, m.id = op ∧
        ∃ a, lastRequest plan id since m.key = some a ∧ k = ⟨m.owner, m.name, a⟩) ∧
      (∀ op m, e.monitor.targets.get? op = some (.callSite m) ↔
        m ∈ (s.process.runtime rt).members ∧ m.id = op ∧ m.native = false ∧ plan.policy.isBlocking m.key = true) ∧
      (∀ m ∈ (s.process.runtime rt).members, m.native = false → plan.policy.isBlocking m.key = true →
        (s.process.runtime rt).breaksAt m.id = true) ∧
      ∀ (plan' : Plan π) (id' : EngineId) (past' since' : List Event) (s' : Site π α),
        Built rt plan' id' past' since' s' → s'.alive id' = true → (∀ ev ∈ since', ev ≠ .hooked id') →
        Process.introductions (definitions (past' ++ since')) = Process.introductions (definitions (past ++ since)) →
        (∀ key, requestsFor plan' id' since' key = requestsFor plan id since key) →
        (∀ key, plan'.policy.isBlocking key = plan.policy.isBlocking key) →
        ∃ e', s'.engine? id' = some e' ∧ (∀ op, e'.monitor.hooks.get? op = e.monitor.hooks.get? op) ∧
          ∀ op m, e'.monitor.targets.get? op = some (.callSite m) ↔ e.monitor.targets.get? op = some (.callSite m) := by
  obtain ⟨slot, hf, -, -, hm⟩ := h.minds ha
  have hfound : ∀ {s : Site π α} {id : EngineId} {slot : Slot π}, s.slots.get? id = some slot →
      s.engine? id = some slot.engine := fun hf => by rw [engine?, hf]; rfl
  refine ⟨slot.engine, hfound hf, hm.get?_hooks hc, hm.get?_callSite, fun m hin hn hb => hm.breaksAt hin hn hb, ?_⟩
  intro plan' id' past' since' s' h' ha' hc' hdefs hreqs hblock
  obtain ⟨slot', hf', -, -, hm'⟩ := h'.minds ha'
  have hmem := h.same_members h' hdefs rt
  have hlast : ∀ key, lastRequest plan' id' since' key = lastRequest plan id since key := fun key => by
    rw [lastRequest, hreqs, lastRequest]
  refine ⟨slot'.engine, hfound hf', fun op => ?_, fun op m => ?_⟩
  · ext k
    rw [hm'.get?_hooks hc', hm.get?_hooks hc, hmem]
    simp only [hlast]
  · rw [hm'.get?_callSite, hm.get?_callSite, hmem, hblock]

/-- One engine is built and asked after its members are defined, the other before. -/
theorem resolution_exact_in_two_orders :
    let r : RuntimeId := ⟨"r"⟩
    let plan : Plan Unit := { policy := (Policy.empty.markBlocking ("a::B", "g")).setAllowance ("a::B", "f") true }
    let late : Move Unit Unit := .use ⟨1⟩ ⟨0⟩ (.request "a::B" "f" false)
    let members : List MemberRef := [⟨"a::B", "f", false, false⟩, ⟨"a::B", "g", false, false⟩]
    let s := (Move.playAll (build ⟨1⟩ (.runtime r) plan
      (Move.playAll (bare {} ()) [.openRuntime ⟨1⟩ r members]).2).2 [late]).2
    let s' := (Move.playAll (build ⟨1⟩ (.runtime r) plan
      (Move.playAll (bare {} ()) []).2).2 [late, .defineAll ⟨1⟩ r members]).2
    ∃ e e', s.engine? ⟨0⟩ = some e ∧ s'.engine? ⟨0⟩ = some e' ∧
      e.monitor.hooks.get? ⟨firstNumber⟩ = some ⟨"a::B", "f", false⟩ ∧
      e'.monitor.hooks.get? ⟨firstNumber⟩ = some ⟨"a::B", "f", false⟩ ∧
      e'.monitor.targets.get? ⟨firstNumber + 1⟩ = some (.callSite ⟨⟨firstNumber + 1⟩, "a::B", "g", false, false⟩) := by
  intro r plan late members s s'
  have h : Built r plan ⟨0⟩ (members.map (.defined r)) [.requested ⟨0⟩ ("a::B", "f") false] s :=
    .of_moves {} () ⟨1⟩ [.openRuntime ⟨1⟩ r members] [late] (by decide +kernel) rfl (by decide +kernel)
        (by decide +kernel)
      (by decide +kernel)
  have h' : Built r plan ⟨0⟩ [] ([.requested ⟨0⟩ ("a::B", "f") false] ++ members.map (.defined r)) s' :=
    .of_moves {} () ⟨1⟩ [] [late, .defineAll ⟨1⟩ r members] (by decide +kernel) rfl (by decide +kernel)
        (by decide +kernel)
      (by decide +kernel)
  have ha : s.alive ⟨0⟩ = true := by decide +kernel
  have ha' : s'.alive ⟨0⟩ = true := by decide +kernel
  obtain ⟨e, he, hooks, sites, -, hsame⟩ := resolution_exact h ha (by decide)
  obtain ⟨e', he', hhooks, htargets⟩ := hsame plan ⟨0⟩ _ _ s' h' ha' (by decide)
    (by decide +kernel) (fun _ => rfl) (fun _ => rfl)
  have hk : e.monitor.hooks.get? ⟨firstNumber⟩ = some ⟨"a::B", "f", false⟩ :=
    (hooks _ _).2 ⟨⟨⟨firstNumber⟩, "a::B", "f", false, false⟩, by decide +kernel, rfl, false, by decide +kernel, rfl⟩
  refine ⟨e, e', he, he', hk, (hhooks _).trans hk, (htargets _ _).2 ((sites _ _).2 ?_)⟩
  exact ⟨by decide +kernel, rfl, rfl, by decide +kernel⟩

end StallGuard
