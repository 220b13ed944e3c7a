/-
  StallGuard.Proofs.Substitution — which entry point a native call gets, over whole runs.

  A native member is bound once. From the first bind on every call of it gets the entry
  point captured then, whoever calls and whatever they bring; the guard flag is the policy's
  and never changes. Where that cannot be, the call goes through with its own entry point
  and a fault is counted (`FailsOpen`).
  - `Minds.bind_outcome`: a bind either fails open or hands out what the record says.
  - `native_substitution`: what a call comes to, in every state of every run.
-/

import StallGuard.Proofs.Verdict
import StallGuard.Proofs.Operation

namespace StallGuard

open Engine Site

variable {π α β : Type} {rt : RuntimeId} {plan : Plan π} {id : EngineId} {past since : List Event} {t : ThreadId}

/-- The call of a native member is not intercepted: its type is not loaded, the type has no
    such member, the member is reached through a breakpoint instead, or the operation was
    bound with another signature. -/
def FailsOpen (plan : Plan π) (id : EngineId) (past : List Event) (r : Runtime) (m : MemberRef)
    (f : EntryPoint) : Prop :=
  r.membersOf m.owner = [] ∨ r.find? m.key = none ∨ ∃ i, r.find? m.key = some i ∧
    (i.native = false ∧ plan.policy.isBlocking m.key = true ∨
      ∃ c, firstBound id past i.id = some c ∧ c.signature ≠ f.signature)

instance (past : List Event) (r : Runtime) (m : MemberRef) (f : EntryPoint) :
    Decidable (FailsOpen plan id past r m f) :=
  decidable_of_iff (r.membersOf m.owner = [] ∨ r.find? m.key = none ∨ (r.find? m.key).any (fun i =>
    decide (i.native = false ∧ plan.policy.isBlocking m.key = true) ||
      (firstBound id past i.id).any fun c => decide (c.signature ≠ f.signature)) = true)
    (by simp only [FailsOpen, Option.any_eq_true, Bool.or_eq_true, decide_eq_true_eq])

namespace Engine

variable {r : Runtime} {e : Engine π}

theorem Minds.refuses_iff (h : Minds plan id since r (fun _ => True) e) (hd : r.Distinct) (m : MemberRef)
    (f : EntryPoint) : Refuses r e m f ↔ FailsOpen plan id since r m f := by
  refine or_congr_right (or_congr_right (exists_congr fun i => ?_))
  constructor
  · rintro ⟨tg, hi, htg, hno⟩
    obtain ⟨hin, hkey⟩ := (Runtime.find?_eq_some hd).1 hi
    refine ⟨hi, ?_⟩
    cases tg with
    | callSite k =>
      obtain ⟨hk, hid, hb, -⟩ := h.targets.callSite _ k htg
      obtain rfl := hd.eq_of_id hk hin hid
      obtain ⟨hn, hp⟩ := (h.breaksOn_iff k).1 hb
      exact Or.inl ⟨hn, hkey ▸ hp⟩
    | native k g c =>
      refine Or.inr ⟨c, by rw [← h.targets.entries, entryOf, htg], fun hsig => ?_⟩
      exact hno ⟨g, c⟩ (if_pos hsig)
  · rintro ⟨hi, hcase⟩
    obtain ⟨hin, hkey⟩ := (Runtime.find?_eq_some hd).1 hi
    rcases hcase with ⟨hn, hp⟩ | ⟨c, hc, hsig⟩
    · refine ⟨.callSite i, hi, (h.get?_callSite _ _).2 ⟨hin, rfl, hn, hkey.symm ▸ hp⟩, fun b hb => ?_⟩
      cases hb
    · rw [← h.targets.entries, entryOf] at hc
      split at hc
      · rename_i k g c' htg
        cases hc
        refine ⟨_, hi, htg, fun b hb => ?_⟩
        rw [Target.binding, if_neg hsig] at hb
        cases hb
      · cases hc

theorem not_refuses (hd : r.Distinct) {m : MemberRef} {f : EntryPoint} {i : Member} (hi : r.find? m.key = some i)
    (hb : ∀ tg, e.monitor.targets.get? i.id = some tg → ∃ b, tg.binding i.id f.signature = .ok b) :
    ¬Refuses r e m f := by
  rintro (hnil | hnone | ⟨j, tg, hj, htg, hno⟩)
  · obtain ⟨hin, hkey⟩ := (Runtime.find?_eq_some hd).1 hi
    have : i ∈ r.membersOf m.owner := Runtime.mem_membersOf.2 ⟨hin, congrArg Prod.fst hkey⟩
    rw [hnil] at this
    cases this
  · rw [hi] at hnone
    cases hnone
  · rw [hi] at hj
    cases hj
    obtain ⟨b, hb⟩ := hb tg htg
    exact hno b hb

/-- What a bind hands out if it does not fail open, and what it leaves alone. -/
structure BindsTo (plan : Plan π) (id : EngineId) (past : List Event) (f : EntryPoint) (i : Member) (e : Engine π)
    (c : EntryPoint) (e' : Engine π) : Prop where
  first : c = (firstBound id past i.id).getD f
  signature : c.signature = f.signature
  target : e'.monitor.targets.get? i.id = some (.native i (plan.policy.isBlocking i.key) c)
  handler : e'.handler = e.handler
  hooks : e'.monitor.hooks = e.monitor.hooks
  window : e'.monitor.window = e.monitor.window
  register : e'.monitor.register = e.monitor.register
  checks : e'.monitor.counters.checks = e.monitor.counters.checks
  violations : e'.monitor.counters.violations = e.monitor.counters.violations
  faults : e'.monitor.counters.faults = e.monitor.counters.faults

theorem Minds.bind_outcome {x : Scene (Engine π) World} (h : Minds plan id since (watched rt x) (fun _ => True) x.own)
    (hd : (watched rt x).Distinct) (m : MemberRef) (f : EntryPoint) :
    (FailsOpen plan id since (watched rt x) m f ∧ ∃ fault ns, bindNative (World.host (.runtime rt) t) m f x =
        (none, ⟨faulted x.own fault, x.host, ns⟩)) ∨
      (¬FailsOpen plan id since (watched rt x) m f ∧ ∃ i c e' ns, (watched rt x).find? m.key = some i ∧
        BindsTo plan id since f i x.own c e' ∧ bindNative (World.host (.runtime rt) t) m f x =
          (some (i.id, ⟨plan.policy.isBlocking m.key, c⟩), ⟨e', x.host, ns⟩)) := by
  rw [← h.refuses_iff hd]
  have hb := bindNative_binds (t := t) hd h.targets m f
  generalize bindNative (World.host (.runtime rt) t) m f x = y at hb ⊢
  cases hb with
  | refused fault hr => exact Or.inl ⟨hr, fault, _, rfl⟩
  | known i g c hi htg hsig =>
    right
    obtain ⟨-, hkey⟩ := (Runtime.find?_eq_some hd).1 hi
    obtain ⟨-, -, -, hg⟩ := h.targets.native _ _ _ _ htg
    have hfirst : firstBound id since i.id = some c := by rw [← h.targets.entries, entryOf, htg]
    rw [h.follows.policy] at hg
    refine ⟨not_refuses hd hi fun tg htg' => ?_, i, c, _, _, hi, ?_, by rw [← hkey, ← hg]⟩
    · rw [htg] at htg'
      cases htg'
      exact ⟨⟨g, c⟩, if_pos hsig⟩
    · exact ⟨by rw [hfirst]; rfl, hsig, by rw [← hg]; exact htg, rfl, rfl, rfl, rfl, rfl, rfl, rfl⟩
  | captures i hi htg =>
    right
    obtain ⟨-, hkey⟩ := (Runtime.find?_eq_some hd).1 hi
    have hfirst : firstBound id since i.id = none := by rw [← h.targets.entries, entryOf, htg]
    refine ⟨not_refuses hd hi fun tg htg' => ?_, i, f, _, _, hi, ?_, by rw [← h.follows.policy]⟩
    · rw [htg] at htg'
      cases htg'
    · refine ⟨by rw [hfirst]; rfl, rfl, ?_, rfl, rfl, rfl, rfl, rfl, rfl, rfl⟩
      rw [hkey, ← h.follows.policy]
      exact (Table.get?_insert _ _ _ _).trans (if_pos rfl)

theorem BindsTo.poised {i : Member} {c f : EntryPoint} {e' : Engine π} (h : BindsTo plan id past f i e c e') :
    e.Poised e' := ⟨h.handler, h.hooks, h.window, h.register, h.checks, h.violations, h.faults⟩

theorem BindsTo.member? {i : Member} {c f : EntryPoint} {e' : Engine π} (h : BindsTo plan id past f i e c e') :
    e'.monitor.targets.member? i.id = some i := by
  rw [Targets.member?, h.target]
  rfl

end Engine

/-! ## Calls -/

namespace Site

variable {s : Site π α} {slot : Slot π} {e : Engine π} {w : World} {ns : List Notice} {m : MemberRef} {f : EntryPoint}

/-- A call whose bind failed open. -/
theorem enterNative_open (hf : s.slots.get? id = some slot) (hh : slot.host = .runtime rt)
    (hb : bindNative (World.host (.runtime rt) t) m f ⟨slot.engine, s.world, []⟩ = (none, ⟨e, w, ns⟩))
    (invoke : Invoke π α) :
    enterNative invoke t id m f s = (.returned f, s.acted id slot e w (ns.map (t, ·))) := by
  unfold enterNative
  rw [keepingAlive_at, bind_at, acting_eq (taken_found hf) hh hb]
  dsimp only
  rw [taken_acted hf]
  exact released_taken (acted_found ..) _

/-- A call whose bind succeeded: if guarded, a check of the operation on the site that the
    bind left, and then the entry point. -/
theorem enterNative_bound {op : OperationId} {b : Binding} (hf : s.slots.get? id = some slot)
    (hh : slot.host = .runtime rt)
    (hb : bindNative (World.host (.runtime rt) t) m f ⟨slot.engine, s.world, []⟩ = (some (op, b), ⟨e, w, ns⟩))
    (invoke : Invoke π α) :
    enterNative invoke t id m f s =
      if b.guarded = true then
        ((checkBlocking invoke t id op (s.acted id slot e w (ns.map (t, ·)))).1.map fun () => b.entry,
          (checkBlocking invoke t id op (s.acted id slot e w (ns.map (t, ·)))).2)
      else (.returned b.entry, s.acted id slot e w (ns.map (t, ·))) := by
  unfold enterNative
  rw [keepingAlive_at, bind_at, acting_eq (taken_found hf) hh hb]
  dsimp only
  rw [taken_acted hf]
  by_cases hg : b.guarded = true
  · rw [if_pos hg, if_pos hg]
    rfl
  · rw [if_neg hg, if_neg hg]
    exact released_taken (acted_found ..) _

/-- The check that a guarded call makes on the site its bind left. -/
theorem checkBlocking_bound {i : Member} {c : EntryPoint} (hh : slot.host = .runtime rt) (hout : s.isChecking t = false)
    (hto : BindsTo plan id past f i slot.engine c e) (ns : List (ThreadId × Notice)) :
    ∃ s' e', s'.engine? id = some e' ∧
      Monitor.Counted slot.engine.monitor.counters e'.monitor.counters 1
        (if slot.engine.monitor.Condemns (s.process.thread t) t .blockingCall then 1 else 0) True ∧
      ∀ invoke : Invoke π α, checkBlocking invoke t id i.id (s.acted id slot e s.world ns) =
        released id (concluded t (
          if slot.engine.monitor.Condemns (s.process.thread t) t .blockingCall
          then respond invoke t slot.engine.handler (.ofMember i) s' else (.returned (), s'))) := by
  have hf' : (s.acted id slot e s.world ns).slots.get? id = some { slot with engine := e } := acted_found ..
  obtain ⟨v, k, ns', hcount, hcheck⟩ := checkBlocking_at hf' hh hout i.id
  have hcon : e.monitor.Condemns ((s.acted id slot e s.world ns).process.thread t) t .blockingCall ↔
      slot.engine.monitor.Condemns (s.process.thread t) t .blockingCall := hto.poised.condemns_iff _ t _
  have hcalled : e.monitor.called ((s.acted id slot e s.world ns).process.runtime rt) i.id = .ofMember i := by
    rw [Monitor.called, hto.member?]
  have hknown : (e.monitor.targets.member? i.id).isSome = true := by rw [hto.member?]; rfl
  simp only [hcon, hcalled, hto.handler] at hcount hcheck
  refine ⟨_, _, noting_found id _ v k ns', ⟨?_, ?_, fun _ => ?_⟩, hcheck⟩
  · exact hcount.checks.trans (congrArg (· + 1) hto.checks)
  · exact hcount.violations.trans (congrArg (· + _) hto.violations)
  · exact (hcount.faults hknown).trans hto.faults

end Site

/-- A native call either fails open, and then its own entry point comes back, a fault is
    counted and nothing else happens; or the operation is bound, under the guard that the
    policy asks for, to what the first bind of it brought. An unguarded call, or one inside
    a check, gets that at once. A guarded call outside any check is checked first, and gets
    it unless the thread is condemned and the handler stops the call. -/
theorem native_substitution {s : Site π α} (h : Built rt plan id past since s) (ha : s.alive id = true) (t : ThreadId)
    (m : MemberRef) (f : EntryPoint) :
    ∃ slot, s.slots.get? id = some slot ∧
      (FailsOpen plan id since (s.process.runtime rt) m f →
        ∃ fault ns, Run s [] (s.acted id slot (faulted slot.engine fault) s.world ns) ∧
          ∀ invoke : Invoke π α, enterNative invoke t id m f s =
            (.returned f, s.acted id slot (faulted slot.engine fault) s.world ns)) ∧
      (¬FailsOpen plan id since (s.process.runtime rt) m f →
        ∃ i c e ns, (s.process.runtime rt).find? m.key = some i ∧ BindsTo plan id since f i slot.engine c e ∧
          (plan.policy.isBlocking m.key = false ∨ s.isChecking t = true → ∀ invoke : Invoke π α,
            enterNative invoke t id m f s = (.returned c, s.acted id slot e s.world ns)) ∧
          (plan.policy.isBlocking m.key = true → s.isChecking t = false →
            ∃ s' e', s'.engine? id = some e' ∧
              Monitor.Counted slot.engine.monitor.counters e'.monitor.counters 1
                (if slot.engine.monitor.Condemns (s.process.thread t) t .blockingCall then 1 else 0) True ∧
              ∀ invoke : Invoke π α,
                let r := released id (concluded t (
                  if slot.engine.monitor.Condemns (s.process.thread t) t .blockingCall
                  then respond invoke t plan.handler (.ofMember i) s' else (.returned (), s')))
                enterNative invoke t id m f s = (r.1.map fun () => c, r.2)) ∧
          ∀ invoke : Invoke π α, invoke.Honest →
            ∃ evs, Run s (.bound id i.id f :: evs) (enterNative invoke t id m f s).2) := by
  obtain ⟨slot, hf, hh, hcat, hm⟩ := h.minds ha
  refine ⟨slot, hf, ?_⟩
  have hout := Minds.bind_outcome (x := ⟨slot.engine, s.world, []⟩) (t := t) hm (hcat.distinct rt) m f
  rcases hout with ⟨hopen, fault, ns, hb⟩ | ⟨hno, i, c, e, ns, hi, hto, hb⟩
  · refine ⟨fun _ => ⟨fault, _, ?_, enterNative_open hf hh hb⟩, fun hno => absurd hopen hno⟩
    have hrun := bind_run ha t m f
    rwa [acting_eq hf hh hb] at hrun
  · have hcall := enterNative_bound hf hh hb
    refine ⟨fun hopen => absurd hopen hno, fun _ => ⟨i, c, e, ns.map (t, ·), hi, hto, ?_, ?_, ?_⟩⟩
    · rintro hlet invoke
      rw [hcall]
      split
      · rename_i hg
        have hin : s.isChecking t = true := hlet.resolve_left fun h => Bool.false_ne_true (h.symm.trans hg)
        have hf' : (s.acted id slot e s.world (ns.map (t, ·))).slots.get? id = some { slot with engine := e } :=
            acted_found ..
        rw [checkBlocking_inside hf' hin]
        rfl
      · rfl
    · intro hg hout
      obtain ⟨s', e', he', hcount, hcheck⟩ := checkBlocking_bound hh hout hto (ns.map (t, ·))
      rw [hm.follows.handler] at hcheck
      refine ⟨s', e', he', hcount, fun invoke => ?_⟩
      rw [hcall, if_pos hg, hcheck]
    · intro invoke hi
      obtain ⟨evs, hrun⟩ := enterNative_run hi ha m f
      rw [acting_eq (taken_found hf) hh hb] at hrun
      exact ⟨evs, hrun⟩

/-- What another bind brought is what a call gets, if its thread may block. A call with an
    entry point of another signature gets its own. -/
theorem native_substitution_after_another_bind :
    let r : RuntimeId := ⟨"r"⟩
    let m : MemberRef := ⟨"a::B", "f", true, true⟩
    let plan : Plan Unit := { policy := Policy.empty.markBlocking m.key }
    let s := (Move.playAll (build ⟨1⟩ (.runtime r) plan (Move.playAll (bare {} ())
      [.openRuntime ⟨1⟩ r [m], .declare ⟨1⟩ r [defaultMarker]]).2).2 [.use ⟨1⟩ ⟨0⟩ (.bind m (.unary .increment))]).2
    ∀ invoke : Invoke Unit Unit,
      (∃ call, (enterNative invoke ⟨1⟩ ⟨0⟩ m (.unary .double) s).1 = .raised call) ∧
      (enterNative invoke ⟨2⟩ ⟨0⟩ m (.unary .double) s).1 = .returned (.unary .increment) ∧
      (enterNative invoke ⟨1⟩ ⟨0⟩ m (.boolean true) s).1 = .returned (.boolean true) := by
  intro r m plan s invoke
  have h : Built r plan ⟨0⟩ [.defined r m] [.bound ⟨0⟩ ⟨firstNumber⟩ (.unary .increment)] s :=
    .of_moves {} () ⟨1⟩ [.openRuntime ⟨1⟩ r [m], .declare ⟨1⟩ r [defaultMarker]]
      [.use ⟨1⟩ ⟨0⟩ (.bind m (.unary .increment))]
      (by decide +kernel) (by decide +kernel) (by decide +kernel) (by decide +kernel) (by decide +kernel)
  have ha : s.alive ⟨0⟩ = true := by decide +kernel
  have hfind : (s.process.runtime r).find? m.key = some ⟨⟨firstNumber⟩, "a::B", "f", true, true⟩ := by decide +kernel
  have hcon : ∀ t : ThreadId, t = ⟨1⟩ ∨ t = ⟨2⟩ → (s.slots.get? ⟨0⟩).map (fun slot =>
      decide (slot.engine.monitor.Condemns (s.process.thread t) t .blockingCall)) = some (decide (t = ⟨1⟩)) := by
    rintro t (rfl | rfl) <;> decide +kernel
  refine ⟨?_, ?_, ?_⟩
  · obtain ⟨slot, hf, -, hto⟩ := native_substitution h ha ⟨1⟩ m (.unary .double)
    obtain ⟨i, c, e, ns, -, -, -, hchecked, -⟩ := hto (by decide +kernel)
    obtain ⟨s', e', -, -, hcall⟩ := hchecked (by decide +kernel) (by decide +kernel)
    have hviolating := hcon ⟨1⟩ (Or.inl rfl)
    rw [hf] at hviolating
    refine ⟨.ofMember i, ?_⟩
    rw [hcall, if_pos (of_decide_eq_true (Option.some.inj hviolating))]
    rfl
  · obtain ⟨slot, hf, -, hto⟩ := native_substitution h ha ⟨2⟩ m (.unary .double)
    obtain ⟨i, c, e, ns, hi, hbinds, -, hchecked, -⟩ := hto (by decide +kernel)
    obtain ⟨s', e', -, -, hcall⟩ := hchecked (by decide +kernel) (by decide +kernel)
    have hpermitted := hcon ⟨2⟩ (Or.inr rfl)
    rw [hf] at hpermitted
    obtain rfl := Option.some.inj (hfind.symm.trans hi)
    rw [hcall, if_neg (of_decide_eq_false (Option.some.inj hpermitted)), hbinds.first]
    rfl
  · obtain ⟨slot, -, hopen, -⟩ := native_substitution h ha ⟨1⟩ m (.boolean true)
    obtain ⟨fault, ns, -, hcall⟩ := hopen (by decide +kernel)
    rw [hcall]

end StallGuard
