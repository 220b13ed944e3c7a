/-
  StallGuard.Proofs.Reporting — a violation is reported once, and by the name it was given first.

  There are three ways to have a call checked: to ask for it, to call a native member that
  is guarded, and to enter a member at a breakpoint. Each puts its question to the engine
  in its own way (`Engine.Poised` is what none of them touches) and then makes one check.
  - `ReportsOnce`: a check counts itself, and one violation exactly if the verdict is
    violating; the handler is then called, once, and what it answers is the end of it.
  - `Reported`: the call is described as its member was when it was defined for the first
    time, whether a target or the runtime is asked; an operation that the runtime never
    issued is described by its number, and counted as a fault.
  - `isBlockingContext_unanswered`: a question about the context reports nothing, so that
    no handler would make a difference to it.
  - `violations_reported_once`: for every engine that is alive, in every state of every run.
-/

import StallGuard.Proofs.Breakpoint
import StallGuard.Proofs.Substitution

namespace StallGuard

open Engine Site

variable {π α β : Type} {rt : RuntimeId} {plan : Plan π} {id : EngineId} {past since : List Event} {t : ThreadId}
  {s s₀ : Site π α} {slot slot₀ : Slot π} {op : OperationId} {start : ScanStart} {call : BlockingCall}

/-! ## What is reported -/

/-- The runtime has given this operation to a member. -/
def Runtime.Issued (r : Runtime) (op : OperationId) : Prop := ∃ i ∈ r.members, i.id = op

instance (r : Runtime) (op : OperationId) : Decidable (r.Issued op) :=
  inferInstanceAs (Decidable (∃ i ∈ r.members, i.id = op))

/-- The call describes the operation as its member was described first; one that was never
    issued is described by its number. -/
structure Reported (record : List Event) (rt : RuntimeId) (r : Runtime) (op : OperationId) (call : BlockingCall) :
    Prop where
  issued : ∀ i ∈ r.members, i.id = op → ∃ m, Process.firstDefinition (definitions record) rt i.key = some m ∧
    call = ⟨op, TypeName.dotted m.owner, m.name, m.perType⟩
  unissued : ¬r.Issued op → call = .unresolved op ∧ call.describe = "<unresolved>#operation-" ++ toString op.val

theorem BlockingCall.describe_unresolved (op : OperationId) :
    (unresolved op).describe = "<unresolved>#operation-" ++ toString op.val := by
  show "<unresolved>" ++ "#" ++ ("operation-" ++ toString op.val) = _
  rw [← String.append_assoc]
  rfl

theorem Runtime.not_issued {r : Runtime} : ¬r.Issued op ↔ r.byId? op = none := by
  simp [Issued, byId?, List.find?_eq_none]

/-- A runtime knows every member by what was said of it first. -/
theorem Built.firstDefinition (h : Built rt plan id past since s) (rt' : RuntimeId) (key : MemberKey) :
    ((s.process.runtime rt').find? key).map Member.ref =
      Process.firstDefinition (definitions (past ++ since)) rt' key := by
  have hfind : (s.process.runtime rt').find? key =
      ((Process.fresh.catalogueEach (definitions (past ++ since))).runtime rt').find? key := by
    rw [Runtime.find?, h.catalogues.members]
    rfl
  rw [hfind, Process.find?_catalogueEach]
  rfl

/-- The targets that an engine has are members of its runtime. -/
theorem Engine.Minds.byId?_member {r : Runtime} {e : Engine π} (h : Minds plan id since r (fun _ => True) e)
    (hd : r.Distinct) {i : Member} (hi : e.monitor.targets.member? op = some i) : r.byId? op = some i := by
  obtain ⟨target, htarget, rfl⟩ := Option.map_eq_some_iff.1 hi
  rw [Runtime.byId?_eq_some hd]
  cases target with
  | callSite k => exact ⟨(h.targets.callSite op k htarget).1, (h.targets.callSite op k htarget).2.1⟩
  | native k g c => exact ⟨(h.targets.native op k g c htarget).1, (h.targets.native op k g c htarget).2.1⟩

namespace Monitor

variable {m : Monitor} {r : Runtime}

variable (ht : ∀ i, m.targets.member? op = some i → r.byId? op = some i)

include ht

/-- Where targets agree with the catalogue it does not matter which of them is asked. -/
theorem called_issued {i : Member} (hi : r.byId? op = some i) : m.called r op = .ofMember i := by
  unfold called
  cases hm : m.targets.member? op with
  | some k =>
    obtain rfl : i = k := Option.some.inj (hi.symm.trans (ht k hm))
    rfl
  | none => rw [hi]

theorem called_unissued (hno : r.byId? op = none) : m.called r op = .unresolved op := by
  unfold called
  cases hm : m.targets.member? op with
  | some k => cases hno.symm.trans (ht k hm)
  | none => rw [hno]

theorem lacks_iff : m.lacks r op = true ↔ ¬r.Issued op := by
  rw [Runtime.not_issued, lacks, Bool.and_eq_true, Option.isNone_iff_eq_none, Option.isNone_iff_eq_none]
  refine ⟨And.right, fun hno => ⟨?_, hno⟩⟩
  cases hm : m.targets.member? op with
  | none => rfl
  | some k => cases hno.symm.trans (ht k hm)

end Monitor

theorem Built.reported (h : Built rt plan id past since s) (hd : (s.process.runtime rt).Distinct) {m : Monitor}
    (ht : ∀ i, m.targets.member? op = some i → (s.process.runtime rt).byId? op = some i) :
    Reported (past ++ since) rt (s.process.runtime rt) op (m.called (s.process.runtime rt) op) := by
  constructor
  · rintro i hi rfl
    refine ⟨i.ref, ?_, Monitor.called_issued ht ((Runtime.byId?_eq_some hd).2 ⟨hi, rfl⟩)⟩
    rw [← h.firstDefinition, (Runtime.find?_eq_some hd).2 ⟨hi, rfl⟩]
    rfl
  · intro hno
    rw [Monitor.called_unissued ht (Runtime.not_issued.1 hno)]
    exact ⟨rfl, BlockingCall.describe_unresolved op⟩

/-! ## Checks -/

namespace Site

/-- How a check ends once its handler, if one was called, has answered: with the handler's
    error, or else with what the call gets when it proceeds. -/
def ended (t : ThreadId) (id : EngineId) (proceeds : β) (r : Outcome Unit × Site π α) : Outcome β × Site π α :=
  (r.1.map fun () => proceeds, (released id (concluded t r)).2)

end Site

/-- The play, made by `t` on `s`, has engine `id` check one call of `op`; on `s₁` all is
    counted, and the handler has not been called yet. -/
structure ReportsOnce (plan : Plan π) (rt : RuntimeId) (t : ThreadId) (id : EngineId) (start : ScanStart)
    (op : OperationId) (call : BlockingCall) (proceeds : β) (play : Invoke π α → Play π α (Outcome β))
    (s s₁ : Site π α) : Prop where
  counted : ∃ e e₁, s.engine? id = some e ∧ s₁.engine? id = some e₁ ∧
    e₁.monitor.counters.checks = e.monitor.counters.checks + 1 ∧
    e₁.monitor.counters.violations = e.monitor.counters.violations +
      (if s.verdict t id start = .violating then 1 else 0) ∧
    e₁.monitor.counters.faults = e.monitor.counters.faults +
      (if s.verdict t id start = .violating ∧ ¬(s.process.runtime rt).Issued op then 1 else 0)
  others : ∀ j ≠ id, s₁.engine? j = s.engine? j
  extra : s₁.extra = s.extra
  inside : s₁.isChecking t = true
  violating : s.verdict t id start = .violating →
    ∀ invoke, play invoke s = ended t id proceeds (respond invoke t plan.handler call s₁)
  permitted : s.verdict t id start = .permitted → ∀ invoke, play invoke s = ended t id proceeds (.returned (), s₁)
  /-- Nothing more is counted once the handler has answered. -/
  settled : ∀ invoke j, (play invoke s).2.engine? j =
    (if s.verdict t id start = .violating then (respond invoke t plan.handler call s₁).2 else s₁).engine? j

namespace Site

theorem released_engine? (id j : EngineId) (r : β × Site π α) : (released id r).2.engine? j = r.2.engine? j := by
  show ((r.2.slots.modify id _).get? j).map Slot.engine = (r.2.slots.get? j).map Slot.engine
  rw [Table.get?_modify]
  split
  · rename_i h
    subst h
    rw [Option.map_map]
    rfl
  · rfl

theorem ended_engine? (proceeds : β) (r : Outcome Unit × Site π α) (j : EngineId) :
    (ended t id proceeds r).2.engine? j = r.2.engine? j := released_engine? id j (concluded t r)

/-- What is counted by a check, and how the check goes on from there. -/
theorem checking_counts (hf : s.slots.get? id = some slot) (hh : slot.host = .runtime rt)
    (hout : s.isChecking t = false) {thread : Host World → World → ThreadId}
    (hthread : ∀ w, thread (World.host (.runtime rt) t) w = t) (op : OperationId) (start : ScanStart) :
    let condemned := slot.engine.monitor.Condemns (s.process.thread t) t start
    let call := slot.engine.monitor.called (s.process.runtime rt) op
    ∃ s₁ e₁, s₁.engine? id = some e₁ ∧
      e₁.monitor.counters.checks = slot.engine.monitor.counters.checks + 1 ∧
      e₁.monitor.counters.violations = slot.engine.monitor.counters.violations + (if condemned then 1 else 0) ∧
      e₁.monitor.counters.faults = slot.engine.monitor.counters.faults +
        (if condemned ∧ slot.engine.monitor.lacks (s.process.runtime rt) op = true then 1 else 0) ∧
      (∀ j ≠ id, s₁.slots.get? j = s.slots.get? j) ∧ s₁.extra = s.extra ∧ s₁.isChecking t = true ∧
      ∀ invoke : Invoke π α, checking t (.returned ()) (judge invoke t id thread op start) s = concluded t
        (if condemned then respond invoke t slot.engine.handler call s₁ else (.returned (), s₁)) := by
  intro condemned call
  have hf' : (s.entered t).slots.get? id = some slot := hf
  obtain ⟨v, c, ns, hfaults, hcount, hfound⟩ := finding_at (t := t) hf' hh op start
  have hcondemned : slot.engine.monitor.Condemns ((s.entered t).process.thread t) t start ↔ condemned := by
    rw [entered_thread]
    rfl
  simp only [hcondemned] at hfaults hcount hfound
  refine ⟨(s.entered t).noting id slot v c ns, _, noting_found id slot v c ns, hcount.checks, hcount.violations,
    hfaults, fun j hj => acted_other hj _ _ _, rfl, ?_, fun invoke => ?_⟩
  · show ((s.entered t).process.thread t).checking = true
    rw [entered_thread]
  · rw [checking_outside hout, judge_self hf' hh (hthread _), hfound]
    by_cases h : condemned
    · rw [if_pos h, if_pos h]
      rfl
    · rw [if_neg h, if_neg h]
      rfl

end Site

/-- On `s₀` engine `id` is about to check a call of `op`. Nothing that the check hangs on has
    become of the site or the engine since `s`, and what its targets know of the operation is
    what the runtime knows. -/
structure Prepared (rt : RuntimeId) (id : EngineId) (op : OperationId) (slot slot₀ : Slot π) (s s₀ : Site π α) :
    Prop where
  found : s₀.slots.get? id = some slot₀
  host : slot₀.host = .runtime rt
  world : s₀.world = s.world
  extra : s₀.extra = s.extra
  others : ∀ j ≠ id, s₀.slots.get? j = s.slots.get? j
  poised : slot.engine.Poised slot₀.engine
  targets : ∀ i, slot₀.engine.monitor.targets.member? op = some i → (s.process.runtime rt).byId? op = some i

/-- A play that gets as far as the check, and makes it. -/
theorem Prepared.reportsOnce {proceeds : β} {play : Invoke π α → Play π α (Outcome β)}
    (h : Prepared rt id op slot slot₀ s s₀) (thread : Host World → World → ThreadId)
    (hf : s.slots.get? id = some slot) (hh : slot.host = .runtime rt) (hhandler : slot.engine.handler = plan.handler)
    (hout : s.isChecking t = false) (hthread : ∀ w, thread (World.host (.runtime rt) t) w = t)
    (hcall : slot₀.engine.monitor.called (s.process.runtime rt) op = call)
    (hplay : ∀ invoke, play invoke s =
      ((checking t (.returned ()) (judge invoke t id thread op start) s₀).1.map fun () => proceeds,
        (released id (checking t (.returned ()) (judge invoke t id thread op start) s₀)).2)) :
    ∃ s₁, ReportsOnce plan rt t id start op call proceeds play s s₁ := by
  have hprocess : s₀.process = s.process := congrArg World.process h.world
  have hout₀ : s₀.isChecking t = false := by
    rw [isChecking, hprocess]
    exact hout
  obtain ⟨s₁, e₁, he₁, hchecks, hviolations, hfaults, hothers₁, hextra₁, hinside, hrun⟩ :=
    checking_counts h.found h.host hout₀ hthread op start
  rw [hprocess] at hviolations hfaults hrun
  rw [h.poised.checks] at hchecks
  rw [h.poised.violations] at hviolations
  rw [h.poised.faults] at hfaults
  rw [h.poised.handler, hhandler, hcall] at hrun
  simp only [h.poised.condemns_iff, Monitor.lacks_iff h.targets] at hviolations hfaults hrun
  simp only [← verdict_iff hf hh] at hviolations hfaults hrun
  have hends : ∀ invoke, play invoke s = ended t id proceeds (if s.verdict t id start = .violating
      then respond invoke t plan.handler call s₁ else (.returned (), s₁)) := fun invoke => by
    rw [hplay, hrun]
    rfl
  refine ⟨s₁, ⟨slot.engine, e₁, engine?_found hf, he₁, hchecks, hviolations, hfaults⟩, fun j hj => ?_,
    hextra₁.trans h.extra, hinside, fun hv invoke => ?_, fun hv invoke => ?_, fun invoke j => ?_⟩
  · rw [engine?, hothers₁ j hj, h.others j hj]
    rfl
  · rw [hends, if_pos hv]
  · rw [hends, if_neg fun hv' => by cases hv.symm.trans hv']
  · rw [hends, ended_engine?]
    split <;> rfl

theorem Outcome.map_unit (o : Outcome Unit) : (o.map fun () => ()) = o := by
  cases o <;> rfl

/-! ### The three ways to a check -/

namespace Site

theorem taken_other {j : EngineId} (hj : j ≠ id) : (s.taken id).slots.get? j = s.slots.get? j := by
  show (s.slots.modify id _).get? j = _
  rw [Table.get?_modify, if_neg hj]

section

variable (hf : s.slots.get? id = some slot) (hh : slot.host = .runtime rt)
  (hm : Minds plan id since (s.process.runtime rt) (fun _ => True) slot.engine)
  (hd : (s.process.runtime rt).Distinct) (hout : s.isChecking t = false)

include hf hh hm hd hout

theorem checkBlocking_once (op : OperationId) :
    ∃ s₁, ReportsOnce plan rt t id .blockingCall op (slot.engine.monitor.called (s.process.runtime rt) op) ()
      (fun invoke => checkBlocking invoke t id op) s s₁ := by
  have hprepared : Prepared rt id op slot { slot with uses := slot.uses + 1 } s (s.taken id) :=
    ⟨taken_found hf, hh, rfl, rfl, fun j hj => taken_other hj, .refl _, fun i hi => hm.byId?_member hd hi⟩
  exact hprepared.reportsOnce currentOf hf hh hm.follows.handler hout (fun _ => rfl) rfl fun invoke =>
    Prod.ext (Outcome.map_unit _).symm rfl

theorem enterNative_once {m : MemberRef} {f : EntryPoint} (hg : plan.policy.isBlocking m.key = true)
    (hno : ¬FailsOpen plan id since (s.process.runtime rt) m f) :
    ∃ i s₁, (s.process.runtime rt).find? m.key = some i ∧
      ReportsOnce plan rt t id .blockingCall i.id (slot.engine.monitor.called (s.process.runtime rt) i.id)
        ((firstBound id since i.id).getD f) (fun invoke => enterNative invoke t id m f) s s₁ := by
  obtain ⟨hopen, -⟩ | ⟨-, i, c, e, ns, hi, hto, hb⟩ :=
    Minds.bind_outcome (x := ⟨slot.engine, s.world, []⟩) (t := t) hm hd m f
  · exact absurd hopen hno
  · have hbyId : (s.process.runtime rt).byId? i.id = some i :=
      (Runtime.byId?_eq_some hd).2 ⟨((Runtime.find?_eq_some hd).1 hi).1, rfl⟩
    -- The check is made on the site that the bind has left.
    let sb := s.acted id slot e s.world (ns.map (t, ·))
    have hfound : sb.slots.get? id = some { slot with engine := e } := acted_found ..
    have hprepared : Prepared rt id i.id slot { slot with engine := e, uses := slot.uses + 1 } s (sb.taken id) :=
      ⟨taken_found hfound, hh, rfl, rfl, fun j hj => (taken_other hj).trans (acted_other hj _ _ _), hto.poised,
        fun k hk => hbyId.trans (hto.member?.symm.trans hk)⟩
    have hcalled : e.monitor.called (s.process.runtime rt) i.id = .ofMember i :=
      Monitor.called_issued hprepared.targets hbyId
    have hsame : slot.engine.monitor.called (s.process.runtime rt) i.id = .ofMember i :=
      Monitor.called_issued (fun k hk => hm.byId?_member hd hk) hbyId
    have hplay : ∀ invoke : Invoke π α, enterNative invoke t id m f s =
        ((checkBlocking invoke t id i.id sb).1.map fun () => c, (checkBlocking invoke t id i.id sb).2) := by
      intro invoke
      rw [enterNative_bound hf hh hb, if_pos hg]
    obtain ⟨s₁, honce⟩ := hprepared.reportsOnce currentOf hf hh hm.follows.handler hout (fun _ => rfl)
      (hcalled.trans hsame.symm) hplay
    refine ⟨i, s₁, hi, ?_⟩
    rw [← hto.first]
    exact honce

theorem breakpointReached_once {i : Member} (hi : i ∈ (s.process.runtime rt).members) (hn : i.native = false)
    (hp : plan.policy.isBlocking i.key = true) :
    ∃ s₁, ReportsOnce plan rt t id .breakpoint i.id (slot.engine.monitor.called (s.process.runtime rt) i.id) ()
      (fun invoke => breakpointReached invoke t id t i.id) s s₁ := by
  have hlisted : slot.engine.monitor.targets.isBreakpoint i.id = true :=
    (hm.isBreakpoint_iff hi hd).2 ((hm.get?_callSite i.id i).2 ⟨hi, rfl, hn, hp⟩)
  -- The check is made on the site that the hit has left.
  let sh := (s.taken id).acted id { slot with uses := slot.uses + 1 } slot.engine.afterHit s.world
    [(t, .marked .breakpointHit)]
  have hhit : hit t id i.id (s.taken id) = (true, sh) := hit_listed (taken_found hf) hlisted
  have hprepared : Prepared rt id i.id slot { slot with engine := slot.engine.afterHit, uses := slot.uses + 1 } s sh :=
    ⟨acted_found .., hh, rfl, rfl, fun j hj => (acted_other hj _ _ _).trans (taken_other hj), .afterHit _,
      fun k hk => hm.byId?_member hd hk⟩
  have hplay : ∀ invoke : Invoke π α, breakpointReached invoke t id t i.id s =
      released id (checking t (.returned ()) (judge invoke t id (fun _ _ => t) i.id .breakpoint) sh) := by
    intro invoke
    rw [breakpointReached_at, hhit, if_pos rfl]
  exact hprepared.reportsOnce (fun _ _ => t) hf hh hm.follows.handler hout (fun _ => rfl) rfl fun invoke =>
    (hplay invoke).trans (Prod.ext (Outcome.map_unit _).symm rfl)

end

/-! ### Questions about the context -/

/-- The site with another handler for engine `id`. -/
def answeredBy (id : EngineId) (h : Handler π) (s : Site π α) : Site π α :=
  (changeSlot id (fun slot => { slot with engine := { slot.engine with handler := h } }) s).2

theorem judgesContext_unanswered (h : Handler π) :
    judgesContext t id (s.answeredBy id h) = ((judgesContext t id s).1, (judgesContext t id s).2.answeredBy id h) := by
  unfold judgesContext answeredBy
  cases hf : s.slots.get? id with
  | none => rw [changeSlot_none hf, acting_none hf, changeSlot_none hf]
  | some slot =>
    have hf' : (s.slots.insert id { slot with engine := { slot.engine with handler := h } }).get? id = some _ :=
      (Table.get?_insert ..).trans (if_pos rfl)
    rw [changeSlot_at hf, acting_at hf', acting_at hf, changeSlot_at (acted_found ..)]
    refine Prod.ext rfl ?_
    unfold acted
    rw [Table.insert_insert, Table.insert_insert]
    rfl

/-- No handler makes a difference to a question about the context, or is told of it. -/
theorem isBlockingContext_unanswered (t : ThreadId) (id : EngineId) (h : Handler π) (s : Site π α) :
    isBlockingContext t id (s.answeredBy id h) =
      ((isBlockingContext t id s).1, (isBlockingContext t id s).2.answeredBy id h) := by
  cases hc : s.isChecking t with
  | true =>
    have hc' : (s.answeredBy id h).isChecking t = true := hc
    rw [isBlockingContext_inside hc', isBlockingContext_inside hc]
  | false =>
    have hc' : (s.answeredBy id h).isChecking t = false := hc
    have hentered : judgesContext t id ((s.answeredBy id h).entered t) = _ :=
      judgesContext_unanswered (s := s.entered t) h
    rw [isBlockingContext_outside hc', isBlockingContext_outside hc, hentered]
    rfl

theorem isBlockingContext_violations (hf : s.slots.get? id = some slot) (hh : slot.host = .runtime rt) (j : EngineId) :
    ((isBlockingContext t id s).2.engine? j).map (·.monitor.counters.violations) =
      (s.engine? j).map (·.monitor.counters.violations) := by
  cases hc : s.isChecking t with
  | true => rw [isBlockingContext_inside hc]
  | false =>
    have hf' : (s.entered t).slots.get? id = some slot := hf
    obtain ⟨v, c, ns, hcl, hcount⟩ := Monitor.classify_at rt t slot.engine.monitor (s.entered t).world [] .context
    have hwatched := Engine.watch_eq ⟨slot.engine, (s.entered t).world, []⟩ hcl
    rw [isBlockingContext_outside hc, judgesContext, acting_at hf', hh]
    show (((s.entered t).acted id slot (Engine.watch (Monitor.classify _ t .context)
      ⟨slot.engine, (s.entered t).world, []⟩).2.own _ _).engine? j).map _ = _
    rw [hwatched]
    by_cases hj : j = id
    · subst hj
      rw [engine?, acted_found, engine?_found hf]
      exact congrArg some hcount.violations
    · rw [engine?, acted_other hj]
      rfl

end Site

/-- In every state and for every engine that is alive, what targets hold is what the runtime
    has catalogued. A check that a thread makes outside any other, by whichever of the three
    ways, counts one violation and calls the handler once if the verdict is violating, and
    does neither otherwise; it ends with the handler's error, and proceeds if there is none.
    The handler is told of the call under the first description of its member, or under its
    number, with a fault counted, if no member has the operation. A question about the
    context does not hang on the handler and counts no violation for any engine. -/
theorem violations_reported_once (h : Built rt plan id past since s) (ha : s.alive id = true) (t : ThreadId) :
    let r := s.process.runtime rt
    (∀ e, s.engine? id = some e → ∀ op i, e.monitor.targets.member? op = some i → r.byId? op = some i) ∧
    (s.isChecking t = false →
      (∀ op, ∃ call s₁, Reported (past ++ since) rt r op call ∧
        ReportsOnce plan rt t id .blockingCall op call () (fun invoke => checkBlocking invoke t id op) s s₁) ∧
      (∀ m f, plan.policy.isBlocking m.key = true → ¬FailsOpen plan id since r m f →
        ∃ i call s₁, r.find? m.key = some i ∧ Reported (past ++ since) rt r i.id call ∧
          ReportsOnce plan rt t id .blockingCall i.id call ((firstBound id since i.id).getD f)
            (fun invoke => enterNative invoke t id m f) s s₁) ∧
      (∀ i ∈ r.members, i.native = false → plan.policy.isBlocking i.key = true →
        ∃ call s₁, Reported (past ++ since) rt r i.id call ∧ ReportsOnce plan rt t id .breakpoint i.id call ()
          (fun invoke => breakpointReached invoke t id t i.id) s s₁) ∧
      ∀ op, (∀ i ∈ r.members, i.id = op → i.native = true ∨ plan.policy.isBlocking i.key = false) →
        ∀ invoke : Invoke π α, breakpointReached invoke t id t op s = (.returned (), s)) ∧
    (∀ handler, isBlockingContext t id (s.answeredBy id handler) =
      ((isBlockingContext t id s).1, (isBlockingContext t id s).2.answeredBy id handler)) ∧
    ∀ j, ((isBlockingContext t id s).2.engine? j).map (·.monitor.counters.violations) =
      (s.engine? j).map (·.monitor.counters.violations) := by
  intro r
  obtain ⟨slot, hf, hh, hcat, hm⟩ := h.minds ha
  have hd := hcat.distinct rt
  have htargets : ∀ op i, slot.engine.monitor.targets.member? op = some i → r.byId? op = some i :=
    fun op i hi => hm.byId?_member hd hi
  have hreported : ∀ op, Reported (past ++ since) rt r op (slot.engine.monitor.called r op) :=
    fun op => h.reported hd (htargets op)
  refine ⟨?_, fun hout => ⟨?_, ?_, ?_, ?_⟩, fun handler => isBlockingContext_unanswered t id handler s,
    isBlockingContext_violations hf hh⟩
  · intro e he
    obtain rfl : slot.engine = e := Option.some.inj ((engine?_found hf).symm.trans he)
    exact htargets
  · intro op
    obtain ⟨s₁, honce⟩ := checkBlocking_once hf hh hm hd hout op
    exact ⟨_, s₁, hreported op, honce⟩
  · intro m f hg hno
    obtain ⟨i, s₁, hi, honce⟩ := enterNative_once hf hh hm hd hout hg hno
    exact ⟨i, _, s₁, hi, hreported i.id, honce⟩
  · intro i hi hn hp
    obtain ⟨s₁, honce⟩ := breakpointReached_once hf hh hm hd hout hi hn hp
    exact ⟨_, s₁, hreported i.id, honce⟩
  · intro op hnone invoke
    refine breakpointReached_missed hf (Bool.not_eq_true _ ▸ fun hb => ?_) t
    -- What the engine breaks on is a member that its policy marks, and no native one.
    obtain ⟨target, htarget, hsite⟩ := (Option.any_eq_true ..).1 hb
    cases target with
    | native k g c => cases hsite
    | callSite k =>
      obtain ⟨hin, hid, hnative, hblocking⟩ := (hm.get?_callSite op k).1 htarget
      obtain hn | hp := hnone k hin hid
      · cases hnative.symm.trans hn
      · cases hblocking.symm.trans hp

/-- A handler that takes down what it is told: a member is reported as it was defined first,
    and an operation that no member has is reported too. -/
theorem violations_reported_once_as_taken_down :
    let r : RuntimeId := ⟨"r"⟩
    let plan : Plan Unit := { policy := .empty, handler := .program () }
    let s := (Move.playAll (build ⟨1⟩ (.runtime r) plan (Move.playAll (bare {} [])
      [.openRuntime ⟨1⟩ r [⟨"a::B", "f", true, false⟩], .declare ⟨1⟩ r [defaultMarker]]).2).2
      [.define ⟨1⟩ r ⟨"a::B", "f", false, false⟩]).2
    let takingDown : Invoke Unit (List BlockingCall) := fun _ _ c => do
      changeExtra (· ++ [c])
      pure (.returned ())
    (∃ s', checkBlocking takingDown ⟨1⟩ ⟨0⟩ ⟨firstNumber⟩ s = (.returned (), s') ∧
      s'.extra = [⟨⟨firstNumber⟩, "a.B", "f", true⟩]) ∧
    ∃ s', checkBlocking takingDown ⟨1⟩ ⟨0⟩ ⟨3⟩ s = (.returned (), s') ∧ s'.extra = [.unresolved ⟨3⟩] := by
  intro r plan s takingDown
  have h : Built r plan ⟨0⟩ [.defined r ⟨"a::B", "f", true, false⟩] [.defined r ⟨"a::B", "f", false, false⟩] s :=
    .of_moves {} [] ⟨1⟩ [.openRuntime ⟨1⟩ r [⟨"a::B", "f", true, false⟩], .declare ⟨1⟩ r [defaultMarker]]
      [.define ⟨1⟩ r ⟨"a::B", "f", false, false⟩]
      (by decide +kernel) (by decide +kernel) (by decide +kernel) (by decide +kernel) (by decide +kernel)
  obtain ⟨-, hchecks, -⟩ := violations_reported_once h (by decide +kernel) ⟨1⟩
  obtain ⟨hcalls, -⟩ := hchecks (by decide +kernel)
  have hv : s.verdict ⟨1⟩ ⟨0⟩ .blockingCall = .violating := by decide +kernel
  have hnone : s.extra = [] := by decide +kernel
  refine ⟨?_, ?_⟩
  · obtain ⟨call, s₁, hnamed, honce⟩ := hcalls ⟨firstNumber⟩
    obtain ⟨m, hm, rfl⟩ := hnamed.issued ⟨⟨firstNumber⟩, "a::B", "f", true, false⟩ (by decide +kernel) rfl
    have hfirst : Process.firstDefinition (definitions ([.defined r ⟨"a::B", "f", true, false⟩] ++
      [.defined r ⟨"a::B", "f", false, false⟩])) r ("a::B", "f") = some ⟨"a::B", "f", true, false⟩ := by decide +kernel
    obtain rfl := Option.some.inj (hfirst.symm.trans hm)
    refine ⟨_, honce.violating hv takingDown, ?_⟩
    show s₁.extra ++ [_] = _
    rw [honce.extra, hnone]
    decide +kernel
  · obtain ⟨call, s₁, hnamed, honce⟩ := hcalls ⟨3⟩
    obtain ⟨rfl, -⟩ := hnamed.unissued (by decide +kernel)
    refine ⟨_, honce.violating hv takingDown, ?_⟩
    show s₁.extra ++ [_] = _
    rw [honce.extra, hnone]
    rfl

end StallGuard
