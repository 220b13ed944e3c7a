/-
  StallGuard.Proofs.Round — a breakpoint, told to one engine after the other.

  An engine whose turn it is takes no notice of a breakpoint that it did not ask for.
  Otherwise it counts a hit and a check, and if it condemns the thread its handler is called
  and may answer with a violation (`Refuses`). The round goes on with the next engine, on
  the site that the last one left (`consulted`), until one refuses. Handlers are taken to
  come back, and to leave the thread and the engines as they found them (`Considerate`);
  whatever else they do on the site is up to them.
  - `Ready.turn`: what one turn comes to.
  - `tellBreakpoints_round`: what a round comes to, among engines in the order of their builds.
-/

import StallGuard.Proofs.Enduring
import StallGuard.Proofs.Reentry
import StallGuard.Proofs.Verdict

namespace StallGuard

open Engine Site

variable {π α : Type} {s : Site π α} {t : ThreadId} {rt : RuntimeId} {id : EngineId} {slot : Slot π}
  {invoke : Invoke π α} {i : Member}

/-- A play that comes back and leaves the thread, inside a check, and all engines as it
    found them. -/
def Considerate (t : ThreadId) (play : Play π α (Outcome Unit)) : Prop :=
  ∀ s, s.isChecking t = true → (∀ message, (play s).1 ≠ .panicked message) ∧
    (play s).2.process.thread t = s.process.thread t ∧ (play s).2.slots = s.slots

/-- Handlers that neither panic nor run a program. -/
def Handler.comesBack : Handler π → Bool
  | fail => true
  | log => true
  | panic => false
  | program _ => false

theorem Handler.considerate {handler : Handler π} (h : handler.comesBack = true) (c : BlockingCall) :
    Considerate t (respond invoke t handler c) := by
  cases handler with
  | fail => exact fun _ _ => ⟨nofun, rfl, rfl⟩
  | log => exact fun _ _ => ⟨nofun, rfl, rfl⟩
  | panic => cases h
  | program p => cases h

/-- The engine once it has counted a hit. -/
def Engine.afterHit (e : Engine π) : Engine π :=
  { e with monitor := { e.monitor with counters := e.monitor.counters.mark .breakpointHit } }

theorem Engine.Poised.afterHit (e : Engine π) : e.Poised e.afterHit := ⟨rfl, rfl, rfl, rfl, rfl, rfl, rfl⟩

/-- One hit and one check were counted, and verdicts may have been kept. -/
def Slot.Noted (slot slot' : Slot π) : Prop :=
  ∃ v c, c.breakpointHits = slot.engine.monitor.counters.breakpointHits + 1 ∧
    c.checks = slot.engine.monitor.counters.checks + 1 ∧
    slot' = { slot with engine := { slot.engine with monitor := slot.engine.monitor.noting v c } }

namespace Site

/-! ## Up to the call of the handler -/

/-- A breakpoint that the engine did not ask for. -/
theorem hit_missed (hf : s.slots.get? id = some slot) {op : OperationId}
    (hb : slot.engine.monitor.targets.isBreakpoint op = false) : hit t id op s = (false, s) := by
  have hact : counted op ⟨slot.engine, s.world, []⟩ = (false, ⟨slot.engine, s.world, []⟩) := by
    unfold counted
    rw [bind_at, Act.own_at]
    dsimp only
    rw [hb]
    rfl
  rw [hit, acting_at hf, hact, acted, Table.insert_same hf, List.map_nil, List.append_nil]

/-- A breakpoint that it asked for. -/
theorem hit_listed (hf : s.slots.get? id = some slot) {op : OperationId}
    (hb : slot.engine.monitor.targets.isBreakpoint op = true) :
    hit t id op s = (true, s.acted id slot slot.engine.afterHit s.world [(t, .marked .breakpointHit)]) := by
  have hact : counted op ⟨slot.engine, s.world, []⟩ =
      (true, ⟨slot.engine.afterHit, s.world, [.marked .breakpointHit]⟩) := by
    unfold counted
    rw [bind_at, Act.own_at]
    dsimp only
    rw [hb]
    rfl
  rw [hit, acting_at hf, hact]
  rfl

/-- A check counts itself, and no hit. -/
theorem finding_counts (hf : s.slots.get? id = some slot) (hh : slot.host = .runtime rt) (op : OperationId)
    (start : ScanStart) :
    ∃ v c ns, c.breakpointHits = slot.engine.monitor.counters.breakpointHits ∧
      c.checks = slot.engine.monitor.counters.checks + 1 ∧
      finding t id op start s =
        (if slot.engine.monitor.Condemns (s.process.thread t) t start
          then some (slot.engine.monitor.called (s.process.runtime rt) op) else none,
          s.noting id slot v c ns) := by
  obtain ⟨v, c, ns, -, hcount, hfound⟩ := finding_at (t := t) hf hh op start
  refine ⟨v, c, ns, ?_, hcount.checks, hfound⟩
  have hJ : Monitor.Endures (World.host (.runtime rt) t) (fun _ => True)
      (·.counters.breakpointHits = slot.engine.monitor.counters.breakpointHits) := by
    refine ⟨World.host_reads rt t _, fun m c hc hm => ?_, fun m w w' _ i _ _ _ hm => hm⟩
    rw [← hm]
    cases c <;> first | rfl | cases hc
  have hkept : (Monitor.check (World.host (.runtime rt) t) t op start
      ⟨slot.engine.monitor, s.world, []⟩).2.own.counters.breakpointHits = _ :=
    (Monitor.check_endures hJ t op start ⟨_, _, _⟩ ⟨rfl, trivial⟩).own
  have hslot : (finding t id op start s).2.slots.get? id = some _ := acting_slot hf
  rw [hfound, hh] at hslot
  have hengine := congrArg Slot.engine (Option.some.inj ((acted_found ..).symm.trans hslot))
  rw [← hkept]
  exact congrArg (fun e : Engine π => e.monitor.counters.breakpointHits) hengine

/-- Judging a call of the thread itself, however the thread is told. -/
theorem judge_self (hf : s.slots.get? id = some slot) (hh : slot.host = .runtime rt)
    {thread : Host World → World → ThreadId} (hthread : thread (World.host (.runtime rt) t) s.world = t)
    (op : OperationId) (start : ScanStart) :
    judge invoke t id thread op start s =
      answering invoke t slot.engine.handler (finding t id op start s).1 (finding t id op start s).2 := by
  obtain ⟨v, c, ns, -, -, hfound⟩ := finding_at (t := t) hf hh op start
  have hact : acting t id none (fun h => do
      let asked ← Act.ask fun w => (thread h w, w)
      Engine.watch (Monitor.check h asked op start)) s = finding t id op start s := by
    rw [finding, acting_at hf, acting_at hf, hh]
    simp only [bind_at, Act.ask_at, hthread]
    rfl
  unfold judge
  rw [bind_at, hact, hfound, bind_at, get_at]
  dsimp only
  rw [noting_found]
  split <;> rfl

/-- The site on which the engine's handler is called, if it is. -/
def summoned (t : ThreadId) (id : EngineId) (op : OperationId) (s : Site π α) : Site π α :=
  (finding t id op .breakpoint ((hit t id op (s.taken id)).2.entered t)).2

/-- The turn of an engine that did not ask for the breakpoint. -/
theorem breakpointReached_missed (hf : s.slots.get? id = some slot) {op : OperationId}
    (hb : slot.engine.monitor.targets.isBreakpoint op = false) (thread : ThreadId) :
    breakpointReached invoke t id thread op s = (.returned (), s) := by
  have hmiss : hit t id op (s.taken id) = (false, s.taken id) := hit_missed (taken_found hf) hb
  rw [breakpointReached_at, hmiss]
  exact released_taken hf _

/-- The turn of an engine that asked for it: a hit and a check are counted, and the handler
    is called if the thread is condemned. -/
theorem breakpointReached_listed (hf : s.slots.get? id = some slot) (hh : slot.host = .runtime rt)
    (hout : s.isChecking t = false) (hb : slot.engine.monitor.targets.get? i.id = some (.callSite i)) :
    (s.summoned t id i.id).process.thread t = { s.process.thread t with checking := true } ∧
      (∃ slot', slot.Noted slot' ∧
        (s.summoned t id i.id).slots = s.slots.insert id { slot' with uses := slot.uses + 1 }) ∧
      ∀ invoke : Invoke π α, breakpointReached invoke t id t i.id s = released id (concluded t (
        if slot.engine.monitor.Condemns (s.process.thread t) t .breakpoint
        then respond invoke t slot.engine.handler (.ofMember i) (s.summoned t id i.id)
        else (.returned (), s.summoned t id i.id))) := by
  have hlisted : slot.engine.monitor.targets.isBreakpoint i.id = true := by
    rw [Targets.isBreakpoint, hb]
    rfl
  have hhit := @hit_listed π α (s.taken id) t id _ (taken_found hf) i.id hlisted
  let slot₁ : Slot π := { slot with engine := slot.engine.afterHit, uses := slot.uses + 1 }
  let s₁ := (s.taken id).acted id { slot with uses := slot.uses + 1 } slot.engine.afterHit s.world
    [(t, .marked .breakpointHit)]
  have hf₁ : (s₁.entered t).slots.get? id = some slot₁ := acted_found ..
  have hthread : (s₁.entered t).process.thread t = { s.process.thread t with checking := true } := entered_thread t s₁
  obtain ⟨v, c, ns, hhits, hchecks, hfound⟩ := finding_counts (t := t) hf₁ hh i.id .breakpoint
  have hsummoned : s.summoned t id i.id = (s₁.entered t).noting id slot₁ v c ns := by
    rw [summoned, hhit]
    exact congrArg Prod.snd hfound
  refine ⟨?_, ⟨_, ⟨v, c, hhits, hchecks, rfl⟩, ?_⟩, fun invoke => ?_⟩
  · rw [hsummoned]
    exact hthread
  · rw [hsummoned]
    show ((s.slots.modify id _).insert id _).insert id _ = _
    rw [Table.insert_insert, Table.modify_eq hf, Table.insert_insert]
    rfl
  · have hout₁ : s₁.isChecking t = false := hout
    have hcalled : slot₁.engine.monitor.called ((s₁.entered t).process.runtime rt) i.id = .ofMember i := by
      have hmember : slot₁.engine.monitor.targets.member? i.id = some i := congrArg (Option.map Target.member) hb
      rw [Monitor.called, hmember]
    have hcon : slot₁.engine.monitor.Condemns ((s₁.entered t).process.thread t) t .breakpoint ↔
        slot.engine.monitor.Condemns (s.process.thread t) t .breakpoint := by
      rw [hthread]
      rfl
    rw [breakpointReached_at, hhit, if_pos rfl]
    show released id (checking t (.returned ()) (judge invoke t id (fun _ _ => t) i.id .breakpoint) s₁) = _
    rw [checking_outside hout₁, judge_self hf₁ hh rfl, hsummoned, hfound, hcalled]
    simp only [hcon]
    congr 2
    split <;> rfl

end Site

/-! ## Whole turns -/

/-- It is the engine's turn, it asked for the breakpoint and condemns the thread, and its
    handler answers with the violation `c`. -/
def Refuses (invoke : Invoke π α) (t : ThreadId) (i : Member) (s : Site π α) (id : EngineId) (c : BlockingCall) :
    Prop :=
  ∃ slot, s.slots.get? id = some slot ∧ slot.engine.monitor.targets.get? i.id = some (.callSite i) ∧
    slot.engine.monitor.Condemns (s.process.thread t) t .breakpoint ∧
    (respond invoke t slot.engine.handler (.ofMember i) (s.summoned t id i.id)).1 = .raised c

/-- Engine `id`, alive on the runtime, has no other member under this operation, and its
    handler is considerate. -/
structure Ready (invoke : Invoke π α) (t : ThreadId) (rt : RuntimeId) (i : Member) (s : Site π α) (id : EngineId)
    (slot : Slot π) : Prop where
  found : s.slots.get? id = some slot
  alive : slot.alive = true
  host : slot.host = .runtime rt
  callSite : slot.engine.monitor.targets.isBreakpoint i.id = true →
    slot.engine.monitor.targets.get? i.id = some (.callSite i)
  considerate : ∀ c, Considerate t (respond invoke t slot.engine.handler c)

theorem Refuses.listed {c : BlockingCall} (hf : s.slots.get? id = some slot) (h : Refuses invoke t i s id c) :
    slot.engine.monitor.targets.isBreakpoint i.id = true := by
  obtain ⟨slot', hf', hsite, -⟩ := h
  obtain rfl : slot = slot' := Option.some.inj (hf.symm.trans hf')
  rw [Targets.isBreakpoint, hsite]
  rfl

/-- A check that was begun on `t` and ends with the thread as it was, ends as it began. -/
theorem concluded_thread {β : Type} {b : β} {s₁ : Site π α} (hout : s.isChecking t = false)
    (h : s₁.process.thread t = { s.process.thread t with checking := true }) :
    (concluded t (b, s₁)).2.process.thread t = s.process.thread t := by
  refine (Process.thread_changeThread_self s₁.process t fun th => { th with checking := false }).trans ?_
  rw [h, ← hout]
  rfl

theorem Slot.Noted.uses {slot' : Slot π} (h : slot.Noted slot') : slot'.uses = slot.uses := by
  obtain ⟨v, c, -, -, rfl⟩ := h
  rfl

/-- The end of a turn in whose course the engine noted the breakpoint, and nothing else
    became of the thread and the engines. -/
theorem turn_ends {slot' : Slot π} {o : Outcome Unit} {s₁ : Site π α} (hout : s.isChecking t = false)
    (hnoted : slot.Noted slot') (ht : s₁.process.thread t = { s.process.thread t with checking := true })
    (hs : s₁.slots = s.slots.insert id { slot' with uses := slot.uses + 1 }) :
    (released id (concluded t (o, s₁))).2.process.thread t = s.process.thread t ∧
      (released id (concluded t (o, s₁))).2.slots = s.slots.insert id slot' := by
  refine ⟨concluded_thread (b := o) hout ht, ?_⟩
  show s₁.slots.modify id _ = _
  rw [hs, Table.modify_eq (by rw [Table.get?_insert, if_pos rfl]), Table.insert_insert]
  dsimp only
  rw [Nat.add_sub_cancel, ← hnoted.uses]

/-- When an engine that asked for the breakpoint refuses. -/
theorem refuses_at (hf : s.slots.get? id = some slot)
    (hsite : slot.engine.monitor.targets.get? i.id = some (.callSite i)) {c : BlockingCall} :
    Refuses invoke t i s id c ↔ slot.engine.monitor.Condemns (s.process.thread t) t .breakpoint ∧
      (respond invoke t slot.engine.handler (.ofMember i) (s.summoned t id i.id)).1 = .raised c := by
  refine ⟨?_, fun hr => ⟨slot, hf, hsite, hr⟩⟩
  rintro ⟨slot', hf', -, hr⟩
  obtain rfl : slot = slot' := Option.some.inj (hf.symm.trans hf')
  exact hr

/-- The turn of one engine: it refuses or lets the thread pass, and the thread is as it was;
    if the engine had asked for the breakpoint it noted it, and no other engine did. -/
theorem Ready.turn (h : Ready invoke t rt i s id slot) (hout : s.isChecking t = false) :
    let r := tellBreakpoint invoke t t i.id (.engine id) s
    ((∃ c, r.1 = .raised c ∧ Refuses invoke t i s id c) ∨ (r.1 = .returned () ∧ ∀ c, ¬Refuses invoke t i s id c)) ∧
      r.2.process.thread t = s.process.thread t ∧
      ∃ slot', r.2.slots = s.slots.insert id slot' ∧
        (slot.engine.monitor.targets.isBreakpoint i.id = true → slot.Noted slot') ∧
        (slot.engine.monitor.targets.isBreakpoint i.id = false → slot' = slot) := by
  have halive : s.alive id = true := by
    rw [alive_iff h.found]
    exact h.alive
  have htell : tellBreakpoint invoke t t i.id (.engine id) s = breakpointReached invoke t id t i.id s := by
    show (if s.alive id = true then breakpointReached invoke t id t i.id else pure (.returned ())) s = _
    rw [if_pos halive]
  rw [htell]
  cases hb : slot.engine.monitor.targets.isBreakpoint i.id with
  | false =>
    rw [breakpointReached_missed h.found hb]
    refine ⟨.inr ⟨rfl, fun c hr => ?_⟩, rfl, slot, (Table.insert_same h.found).symm,
      fun hlisted => absurd hlisted Bool.false_ne_true, fun _ => rfl⟩
    rw [hr.listed h.found] at hb
    cases hb
  | true =>
    have hsite := h.callSite hb
    obtain ⟨hthread, ⟨slot', hnoted, hslots⟩, hrun⟩ := breakpointReached_listed h.found h.host hout hsite
    simp only [refuses_at h.found hsite]
    rw [hrun]
    by_cases hcon : slot.engine.monitor.Condemns (s.process.thread t) t .breakpoint
    · simp only [hcon, true_and]
      have hin : (s.summoned t id i.id).isChecking t = true := by rw [isChecking, hthread]
      obtain ⟨hback, ht, hs⟩ := h.considerate (.ofMember i) _ hin
      generalize respond invoke t slot.engine.handler (.ofMember i) (s.summoned t id i.id) = r at hback ht hs
      obtain ⟨o, s₁⟩ := r
      obtain ⟨hthread', hslots'⟩ := turn_ends (o := o) hout hnoted (ht.trans hthread) (hs.trans hslots)
      refine ⟨?_, hthread', slot', hslots', fun _ => hnoted, fun hmissed => absurd hmissed.symm Bool.false_ne_true⟩
      cases o with
      | returned u =>
        refine .inr ⟨rfl, fun c hraised => ?_⟩
        cases hraised
      | raised c => exact .inl ⟨c, rfl, rfl⟩
      | panicked message => exact absurd rfl (hback message)
    · simp only [hcon, false_and]
      obtain ⟨hthread', hslots'⟩ := turn_ends (o := .returned ()) hout hnoted hthread hslots
      exact ⟨.inr ⟨rfl, fun _ h => h⟩, hthread', slot', hslots', fun _ => hnoted,
        fun hmissed => absurd hmissed.symm Bool.false_ne_true⟩

/-! ## Rounds -/

namespace Site

/-- The site once these engines were told, whatever they said. -/
def consulted (invoke : Invoke π α) (t : ThreadId) (op : OperationId) : List EngineId → Site π α → Site π α
  | [], s => s
  | id :: ids, s => consulted invoke t op ids (tellBreakpoint invoke t t op (.engine id) s).2

end Site

/-- In a round among these engines, `id` refuses when those built before it have been told. -/
def RefusesInTurn (invoke : Invoke π α) (t : ThreadId) (i : Member) (ids : List EngineId) (s : Site π α)
    (id : EngineId) (c : BlockingCall) : Prop :=
  Refuses invoke t i (s.consulted invoke t i.id (ids.filter fun j => j.val < id.val)) id c

/-- None of the engines built before `id` refuses. -/
def Reaches (invoke : Invoke π α) (t : ThreadId) (i : Member) (ids : List EngineId) (s : Site π α) (id : EngineId) :
    Prop := ∀ j ∈ ids, j.val < id.val → ∀ c, ¬RefusesInTurn invoke t i ids s j c

section

variable {a : EngineId} {ids : List EngineId}

theorem refusesInTurn_head (hlt : ∀ j ∈ ids, a.val < j.val) (c : BlockingCall) :
    RefusesInTurn invoke t i (a :: ids) s a c ↔ Refuses invoke t i s a c := by
  have hnone : (a :: ids).filter (fun j => j.val < a.val) = [] := by
    refine List.filter_eq_nil_iff.2 fun j hj => ?_
    obtain rfl | hj := List.mem_cons.1 hj
    · simp
    · simpa using Nat.le_of_lt (hlt j hj)
  rw [RefusesInTurn, hnone]
  rfl

theorem refusesInTurn_tail (hlt : ∀ j ∈ ids, a.val < j.val) (hid : id ∈ ids) (c : BlockingCall) :
    RefusesInTurn invoke t i (a :: ids) s id c ↔
      RefusesInTurn invoke t i ids (tellBreakpoint invoke t t i.id (.engine a) s).2 id c := by
  have hfilter : (a :: ids).filter (fun j => j.val < id.val) = a :: ids.filter fun j => j.val < id.val :=
    List.filter_cons_of_pos (decide_eq_true (hlt id hid))
  rw [RefusesInTurn, hfilter]
  rfl

/-- If the first engine lets the thread pass, the round is that of the others. -/
theorem reaches_tail (hlt : ∀ j ∈ ids, a.val < j.val) (ha : ∀ c, ¬Refuses invoke t i s a c) (id : EngineId) :
    Reaches invoke t i (a :: ids) s id ↔
      Reaches invoke t i ids (tellBreakpoint invoke t t i.id (.engine a) s).2 id := by
  constructor
  · intro h j hj hlt' c hr
    exact h j (List.mem_cons_of_mem _ hj) hlt' c ((refusesInTurn_tail hlt hj c).2 hr)
  · intro h j hj hlt' c hr
    obtain rfl | hj := List.mem_cons.1 hj
    · exact ha c ((refusesInTurn_head hlt c).1 hr)
    · exact h j hj hlt' c ((refusesInTurn_tail hlt hj c).1 hr)

theorem not_reaches_tail (hlt : ∀ j ∈ ids, a.val < j.val) {c : BlockingCall} (ha : Refuses invoke t i s a c)
    (hid : id ∈ ids) : ¬Reaches invoke t i (a :: ids) s id := fun h =>
  h a List.mem_cons_self (hlt id hid) c ((refusesInTurn_head hlt c).2 ha)

end

/-- A round among engines in the order of their builds: the first that refuses ends it, and
    the thread is as it was; those that it reached and that had asked for the breakpoint
    noted it, and all others are as they were. -/
theorem tellBreakpoints_round {ids : List EngineId} (hord : ids.Pairwise fun j k => j.val < k.val)
    (hready : ∀ id ∈ ids, ∃ slot, Ready invoke t rt i s id slot) (hout : s.isChecking t = false) :
    let r := tellBreakpoints invoke t t i.id (ids.map .engine) s
    ((∃ c, r.1 = .raised c ∧ ∃ id ∈ ids, RefusesInTurn invoke t i ids s id c ∧ Reaches invoke t i ids s id) ∨
        (r.1 = .returned () ∧ ∀ id ∈ ids, ∀ c, ¬RefusesInTurn invoke t i ids s id c)) ∧
      r.2.process.thread t = s.process.thread t ∧
      ∀ id slot, s.slots.get? id = some slot → ∃ slot', r.2.slots.get? id = some slot' ∧
        let noted := id ∈ ids ∧ slot.engine.monitor.targets.isBreakpoint i.id = true ∧ Reaches invoke t i ids s id
        (noted → slot.Noted slot') ∧ (¬noted → slot' = slot) := by
  induction ids generalizing s with
  | nil => exact ⟨.inr ⟨rfl, nofun⟩, rfl, fun id slot hf => ⟨slot, hf, nofun, fun _ => rfl⟩⟩
  | cons a ids ih =>
    obtain ⟨hlt, hord⟩ := List.pairwise_cons.1 hord
    have hne : ∀ j ∈ ids, j ≠ a := by
      rintro j hj rfl
      exact Nat.lt_irrefl _ (hlt j hj)
    obtain ⟨slot₀, hslot₀⟩ := hready a List.mem_cons_self
    obtain ⟨hsaid, hthread, slot₁, hslots, hlisted, hmissed⟩ := hslot₀.turn hout
    have hself : (tellBreakpoint invoke t t i.id (.engine a) s).2.slots.get? a = some slot₁ := by
      rw [hslots, Table.get?_insert, if_pos rfl]
    have hother : ∀ {id : EngineId}, id ≠ a →
        (tellBreakpoint invoke t t i.id (.engine a) s).2.slots.get? id = s.slots.get? id := fun hid => by
      rw [hslots, Table.get?_insert, if_neg hid]
    have hreaches : Reaches invoke t i (a :: ids) s a := by
      intro j hj hlt' c
      obtain rfl | hj := List.mem_cons.1 hj
      · exact absurd hlt' (Nat.lt_irrefl _)
      · exact absurd hlt' (Nat.lt_asymm (hlt j hj))
    have hrest : ∀ {id}, id ∈ ids → ∀ c, RefusesInTurn invoke t i (a :: ids) s id c ↔ RefusesInTurn invoke t i ids
        (tellBreakpoint invoke t t i.id (.engine a) s).2 id c := fun hid c => refusesInTurn_tail hlt hid c
    have htail : (∀ c, ¬Refuses invoke t i s a c) → ∀ id, Reaches invoke t i (a :: ids) s id ↔
        Reaches invoke t i ids (tellBreakpoint invoke t t i.id (.engine a) s).2 id := fun h id => reaches_tail hlt h id
    unfold tellBreakpoints
    simp only [List.map_cons, bind_at]
    generalize tellBreakpoint invoke t t i.id (.engine a) s = told at hsaid hthread hself hother hrest htail
    obtain ⟨o, s'⟩ := told
    obtain ⟨c, rfl, hrefuses⟩ | ⟨rfl, hpasses⟩ := hsaid
    · refine ⟨.inl ⟨c, rfl, a, List.mem_cons_self, (refusesInTurn_head hlt c).2 hrefuses, hreaches⟩, hthread, fun id slot hf => ?_⟩
      by_cases hid : id = a
      · subst hid
        obtain rfl : slot₀ = slot := Option.some.inj (hslot₀.found.symm.trans hf)
        refine ⟨slot₁, hself, fun h => hlisted h.2.1, fun h => ?_⟩
        exact absurd ⟨List.mem_cons_self, hrefuses.listed hf, hreaches⟩ h
      · refine ⟨slot, (hother hid).trans hf, fun h => ?_, fun _ => rfl⟩
        exact absurd h.2.2 (not_reaches_tail hlt hrefuses ((List.mem_cons.1 h.1).resolve_left hid))
    · have hready' : ∀ id ∈ ids, ∃ slot, Ready invoke t rt i s' id slot := fun id hid => by
        obtain ⟨slot, hs⟩ := hready id (List.mem_cons_of_mem _ hid)
        exact ⟨slot, (hother (hne id hid)).trans hs.found, hs.alive, hs.host, hs.callSite, hs.considerate⟩
      have hout' : s'.isChecking t = false := by
        rw [isChecking, hthread]
        exact hout
      obtain ⟨hsaid', hthread', hslots'⟩ := ih hord hready' hout'
      refine ⟨?_, hthread'.trans hthread, fun id slot hf => ?_⟩
      · refine hsaid'.imp ?_ ?_
        · rintro ⟨c, hc, id, hid, hrefuses, hreach⟩
          exact ⟨c, hc, id, List.mem_cons_of_mem _ hid, (hrest hid c).2 hrefuses, (htail hpasses id).2 hreach⟩
        · rintro ⟨hback, hnone⟩
          refine ⟨hback, fun id hid c hr => ?_⟩
          obtain rfl | hid := List.mem_cons.1 hid
          · exact hpasses c ((refusesInTurn_head hlt c).1 hr)
          · exact hnone id hid c ((hrest hid c).1 hr)
      · by_cases hid : id = a
        · -- The first engine has had its turn, and the others leave it alone.
          subst hid
          obtain rfl : slot₀ = slot := Option.some.inj (hslot₀.found.symm.trans hf)
          obtain ⟨slot', hf', -, hsame⟩ := hslots' id slot₁ hself
          obtain rfl := hsame fun h => hne id h.1 rfl
          refine ⟨slot', hf', fun h => hlisted h.2.1, fun h => hmissed ?_⟩
          exact Bool.not_eq_true _ ▸ fun hb => h ⟨List.mem_cons_self, hb, hreaches⟩
        · obtain ⟨slot', hf', hnoted, hsame⟩ := hslots' id slot ((hother hid).trans hf)
          refine ⟨slot', hf', fun h => hnoted ?_, fun h => hsame fun h' => h ?_⟩
          · exact ⟨(List.mem_cons.1 h.1).resolve_left hid, h.2.1, (htail hpasses id).1 h.2.2⟩
          · exact ⟨List.mem_cons_of_mem _ h'.1, h'.2.1, (htail hpasses id).2 h'.2.2⟩

end StallGuard
