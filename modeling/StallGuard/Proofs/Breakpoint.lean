/-
  StallGuard.Proofs.Breakpoint — entering a member on which engines may have breakpoints.

  An entry defines the member, with its type announced if that is new, pushes its frame,
  and then tells the breakpoint, if there is one, to the engines that are alive on the
  runtime, in the order of their builds. So an engine that breaks on the member has its
  breakpoint in time even for the entry that defines it. An engine refuses the entry
  (`RefusesEntry`) if it charges the thread with it (`Engine.Charges`) and its handler
  answers with a violation.
  - `breakpointed_entry`: who refuses, what the caller gets, and what is left of it on the
    stack and in every engine.
-/

import StallGuard.Proofs.Learning
import StallGuard.Proofs.Roster
import StallGuard.Proofs.Round

namespace StallGuard

open Engine Site

variable {π α : Type} {s : Site π α} {t : ThreadId} {rt : RuntimeId} {id : EngineId} {slot : Slot π}
  {invoke : Invoke π α} {m : MemberRef} {i : Member} {past : List Event} {stage : Stage} {extra : α}

/-- The engine breaks on the member, finds the thread restricted, and has allowed none of
    the frames in its window, the member's own taking up the first place of it. -/
structure Engine.Charges (e : Engine π) (th : Thread) (t : ThreadId) (i : Member) : Prop where
  lists : e.policy.isBlocking i.key = true ∧ i.native = false
  restricted : e.monitor.register.finds (th.info t) = true
  unexcused : ∀ op ∈ th.frames.take (e.settings.depth - 1), e.monitor.hooks.allows? op ≠ some true

namespace Site

/-- The site once the frame of the entered member stands, before the breakpoint is told. -/
def entering (t : ThreadId) (rt : RuntimeId) (m : MemberRef) (s : Site π α) : Site π α :=
  (listeners rt (pushFrame t rt m s).2).2

/-- The site at the turn of engine `id`, with all engines told that were built before it. -/
def turnOf (invoke : Invoke π α) (t : ThreadId) (rt : RuntimeId) (m : MemberRef) (id : EngineId) (s : Site π α) :
    Site π α :=
  (s.entering t rt m).consulted invoke t (define t rt m s).1
    ((told rt (define t rt m s).2).filter fun j => j.val < id.val)

end Site

/-- Engine `id`, alive on the runtime, charges the thread with entering `i`, and its handler
    answers with `c`. -/
def RefusesEntry (invoke : Invoke π α) (t : ThreadId) (rt : RuntimeId) (m : MemberRef) (s : Site π α) (i : Member)
    (id : EngineId) (c : BlockingCall) : Prop :=
  ∃ slot, (define t rt m s).2.slots.get? id = some slot ∧ slot.host = .runtime rt ∧ slot.alive = true ∧
    slot.engine.Charges (s.process.thread t) t i ∧
    (respond invoke t slot.engine.handler (.ofMember i) ((s.turnOf invoke t rt m id).summoned t id i.id)).1 = .raised c

/-- How an entry of the member goes that the runtime knows as `i`. -/
structure EntersAs (invoke : Invoke π α) (t : ThreadId) (rt : RuntimeId) (m : MemberRef) (s : Site π α) (i : Member) :
    Prop where
  /-- It is the member of that name, under the first description given of it. -/
  known : (s.process.runtime rt).find? m.key = some i ∨
    (s.process.runtime rt).find? m.key = none ∧ i = m.withId ⟨s.process.nextOperation⟩
  /-- The entry fails exactly if an engine refuses it, and then with the answer of the first. -/
  refused : ∀ c, (enter invoke t rt m s).1 = .raised c ↔ ∃ id, RefusesEntry invoke t rt m s i id c ∧
    ∀ j : EngineId, j.val < id.val → ∀ c', ¬RefusesEntry invoke t rt m s i j c'
  /-- It fails and leaves the thread as it was, or it puts the frame on the stack. -/
  ended : (∃ c, (enter invoke t rt m s).1 = .raised c ∧
      (enter invoke t rt m s).2.process.thread t = s.process.thread t) ∨
    ((enter invoke t rt m s).1 = .returned ⟨i.id, (s.process.thread t).frames.length⟩ ∧
      (enter invoke t rt m s).2.process.thread t = (s.process.thread t).push i.id)
  /-- Engines learn what a definition teaches them. Those alive on the runtime that break on
      the member count one hit and one check if no engine before them refused, and no others
      count anything. -/
  engines : ∀ id slot, s.slots.get? id = some slot → ∃ e slot', slot.engine.Learns e ∧
    (enter invoke t rt m s).2.slots.get? id = some slot' ∧
    let hears := slot.host = .runtime rt ∧ slot.alive = true
    let lists := slot.engine.policy.isBlocking i.key = true ∧ i.native = false
    let reached := ∀ j : EngineId, j.val < id.val → ∀ c, ¬RefusesEntry invoke t rt m s i j c
    (hears ∧ lists ∧ reached → Slot.Noted { slot with engine := e } slot') ∧
      (¬(hears ∧ lists ∧ reached) → slot' = { slot with engine := e }) ∧
      (¬lists → slot.engine.Rehooked e) ∧
      (¬hears ∨ ((s.process.runtime rt).find? m.key).isSome = true → e = slot.engine)

/-! ## The definition -/

theorem Run.minds (h : Run (bare stage extra) past s) (hf : s.slots.get? id = some slot)
    (hh : slot.host = .runtime rt) (ha : slot.alive = true) :
    s.process.Catalogued ∧
      ∃ plan since, Minds plan id since (s.process.runtime rt) (fun _ => True) slot.engine := by
  have hhost : s.host? id = some (.runtime rt) := by
    rw [host?, hf]
    exact congrArg some hh
  obtain ⟨plan, before, since, hbuilt⟩ := h.built hhost
  obtain ⟨slot', hf', -, hcat, hminds⟩ := hbuilt.minds ((alive_iff hf).trans ha)
  obtain rfl : slot = slot' := Option.some.inj (hf.symm.trans hf')
  exact ⟨hcat, plan, since, hminds⟩

namespace Site

theorem define_known (hm : (s.process.runtime rt).find? m.key = some i) : define t rt m s = (i.id, s) := by
  have hcat : s.process.catalogue rt m = ((i.id, false), s.process) := by
    unfold Process.catalogue Runtime.operation?
    rw [hm]
    rfl
  rw [define_at, hcat]
  show (i.id, (changeProcess (·.catalogue rt m |>.2) s).2) = _
  refine Prod.ext rfl ?_
  show ({ s with world := { s.world with process := (s.process.catalogue rt m).2 } } : Site π α) = s
  rw [hcat]
  rfl

theorem define_members (t : ThreadId) (rt : RuntimeId) (m : MemberRef) (s : Site π α) (rt' : RuntimeId) :
    ((define t rt m s).2.process.runtime rt').members = ((s.process.catalogue rt m).2.runtime rt').members :=
  (define_defines t rt m s).alike.members rt'

/-- What a runtime knows a member as, once it was defined. -/
theorem define_as (t : ThreadId) (rt : RuntimeId) (m : MemberRef) (s : Site π α) :
    ∃ i, ((s.process.runtime rt).find? m.key = some i ∨
        (s.process.runtime rt).find? m.key = none ∧ i = m.withId ⟨s.process.nextOperation⟩) ∧
      (define t rt m s).1 = i.id ∧
      (∀ n, n ∈ ((define t rt m s).2.process.runtime rt).members ↔ n ∈ (s.process.runtime rt).members ∨ n = i) := by
  obtain ⟨i, hfind, hcat⟩ | ⟨hnone, hcat, -⟩ := Process.catalogue_cases s.process rt m
  · refine ⟨i, .inl hfind, ?_, fun n => ?_⟩
    · rw [define_known hfind]
    · rw [define_known hfind]
      refine ⟨.inl, ?_⟩
      rintro (hn | rfl)
      · exact hn
      · exact List.mem_of_find?_eq_some hfind
  · refine ⟨s.process.added m, .inr ⟨hnone, rfl⟩, ?_, fun n => ?_⟩
    · rw [define_at, hcat]
    · rw [define_members, Process.runtime_catalogue, hcat, if_pos ⟨rfl, rfl⟩, List.mem_append, List.mem_singleton]

end Site

/-- An engine that does not break on what was defined has all its targets. -/
theorem Engine.Minds.placed {plan : Plan π} {since : List Event} {r : Runtime} {e : Engine π} {ms : List Member}
    (h : Minds plan id since r (fun _ => True) e) (hms : ∀ n ∈ ms, n ∈ r.members ∨ n = i)
    (hi : ¬(e.policy.isBlocking i.key = true ∧ i.native = false)) : e.Placed ms := by
  intro n hn hb
  obtain hin | rfl := hms n hn
  · rw [h.targets.complete n hin trivial hb]
    rfl
  · rw [breaksOn, Bool.and_eq_true, Bool.not_eq_true'] at hb
    exact absurd hb hi

/-- What an engine makes of a definition. -/
theorem define_engine (h : Run (bare stage extra) past s) (hf : s.slots.get? id = some slot)
    (hms : ∀ n ∈ ((define t rt m s).2.process.runtime rt).members, n ∈ (s.process.runtime rt).members ∨ n = i) :
    ∃ e, slot.engine.Learns e ∧ (define t rt m s).2.slots.get? id = some { slot with engine := e } ∧
      (¬(slot.engine.policy.isBlocking i.key = true ∧ i.native = false) → slot.engine.Rehooked e) ∧
      (¬(slot.host = .runtime rt ∧ slot.alive = true) ∨ ((s.process.runtime rt).find? m.key).isSome = true →
        e = slot.engine) := by
  by_cases hsame : ¬(slot.host = .runtime rt ∧ slot.alive = true) ∨
      ((s.process.runtime rt).find? m.key).isSome = true
  · refine ⟨slot.engine, .refl _, Eq.trans ?_ hf, fun _ => .refl _, fun _ => rfl⟩
    obtain hdeaf | hknown := hsame
    · refine define_untold fun hin => hdeaf ?_
      obtain ⟨hhost, halive⟩ := ((h.told rt).2 id).1 (mem_engines.2 hin)
      rw [host?, hf] at hhost
      exact ⟨Option.some.inj hhost, (alive_iff hf).symm.trans halive⟩
    · obtain ⟨n, hn⟩ := Option.isSome_iff_exists.1 hknown
      rw [define_known hn]
  · obtain ⟨hhears, hnew⟩ := not_or.1 hsame
    obtain ⟨hh, ha⟩ := not_not.1 hhears
    by_cases hlists : slot.engine.policy.isBlocking i.key = true ∧ i.native = false
    · obtain ⟨e, hlearns, hdefined⟩ := (define_teaches t rt m s).known id slot hf
      exact ⟨e, hlearns, hdefined, fun hno => absurd hlists hno, fun h => absurd h hsame⟩
    · obtain ⟨-, plan, since, hminds⟩ := h.minds hf hh ha
      have hplaced : slot.engine.Placed ((s.process.catalogue rt m).2.runtime rt).members := by
        rw [← define_members t rt m s rt]
        exact hminds.placed hms hlists
      obtain ⟨e, hhooks, hdefined⟩ := define_rehooks (t := t) hf hh hplaced
      exact ⟨e, hhooks.learns, hdefined, fun _ => hhooks, fun h => absurd h hsame⟩

/-! ## Charges -/

theorem Engine.Follows.depth {plan : Plan π} {e : Engine π} (h : Follows plan e) :
    e.monitor.window.depth = e.settings.depth := by
  rw [Settings.window_depth h.window, h.settings]

section

variable {plan : Plan π} {since : List Event} {r : Runtime} {e : Engine π}
  (h : Minds plan id since r (fun _ => True) e) (hi : i ∈ r.members)

include h hi

theorem Engine.Minds.callSite_iff : e.monitor.targets.get? i.id = some (.callSite i) ↔
    e.policy.isBlocking i.key = true ∧ i.native = false := by
  rw [h.get?_callSite, h.follows.policy]
  exact ⟨fun hl => ⟨hl.2.2.2, hl.2.2.1⟩, fun hl => ⟨hi, rfl, hl.2, hl.1⟩⟩

theorem Engine.Minds.isBreakpoint_iff (hd : r.Distinct) :
    e.monitor.targets.isBreakpoint i.id = true ↔ e.monitor.targets.get? i.id = some (.callSite i) := by
  refine ⟨fun hb => ?_, fun hsite => by rw [Targets.isBreakpoint, hsite]; rfl⟩
  obtain ⟨target, htarget, hsite⟩ := (Option.any_eq_true ..).1 hb
  cases target with
  | native n g c => cases hsite
  | callSite n =>
    obtain ⟨hin, hnid, -⟩ := h.targets.callSite _ n htarget
    rw [← hd.eq_of_id hin hi hnid]
    exact (congrArg _ hnid).trans htarget

/-- With its own frame on top of the stack, a breakpoint condemns whom the engine charges. -/
theorem Engine.Minds.charges_iff (th th' : Thread)
    (hth : th' = th.push i.id) :
    e.Charges th t i ↔
      e.monitor.targets.get? i.id = some (.callSite i) ∧ e.monitor.Condemns th' t .breakpoint := by
  have hwindow : (th'.frames.take e.monitor.window.depth).drop 1 = th.frames.take (e.settings.depth - 1) := by
    rw [h.follows.depth, hth, List.drop_take]
    rfl
  have hinfo : th'.info t = th.info t := by rw [hth]; rfl
  rw [h.callSite_iff hi, Monitor.Condemns, hinfo]
  show _ ↔ _ ∧ _ ∧ e.monitor.hooks.Convicts true ((th'.frames.take e.monitor.window.depth).drop 1)
  rw [hwindow]
  exact ⟨fun hc => ⟨hc.lists, hc.restricted, hc.unexcused, .inl rfl⟩, fun hc => ⟨hc.1, hc.2.1, hc.2.2.1⟩⟩

end

/-- Engines that have their turn leave the thread and the other engines alone. -/
theorem consulted_keeps {ids : List EngineId} (hnodup : ids.Nodup)
    (hready : ∀ id ∈ ids, ∃ slot, Ready invoke t rt i s id slot) (hout : s.isChecking t = false) :
    (s.consulted invoke t i.id ids).process.thread t = s.process.thread t ∧
      ∀ id ∉ ids, (s.consulted invoke t i.id ids).slots.get? id = s.slots.get? id := by
  induction ids generalizing s with
  | nil => exact ⟨rfl, fun _ _ => rfl⟩
  | cons a ids ih =>
    obtain ⟨hnotin, hnodup⟩ := List.nodup_cons.1 hnodup
    obtain ⟨slot, hslot⟩ := hready a List.mem_cons_self
    obtain ⟨-, hthread, slot', hslots, -⟩ := hslot.turn hout
    have hother : ∀ {id : EngineId}, id ≠ a →
        (tellBreakpoint invoke t t i.id (.engine a) s).2.slots.get? id = s.slots.get? id := fun hid => by
      rw [hslots, Table.get?_insert, if_neg hid]
    have hready' : ∀ id ∈ ids,
        ∃ slot, Ready invoke t rt i (tellBreakpoint invoke t t i.id (.engine a) s).2 id slot := fun id hid => by
      have hid' : id ≠ a := by
        rintro rfl
        exact hnotin hid
      obtain ⟨slot, hs⟩ := hready id (List.mem_cons_of_mem _ hid)
      exact ⟨slot, (hother hid').trans hs.found, hs.alive, hs.host, hs.callSite, hs.considerate⟩
    obtain ⟨hthread', hslots'⟩ := ih hnodup hready' ((congrArg Thread.checking hthread).trans hout)
    refine ⟨hthread'.trans hthread, fun id hid => ?_⟩
    rw [List.mem_cons, not_or] at hid
    obtain ⟨hne, hid⟩ := hid
    exact (hslots' id hid).trans (hother hne)

/-! ## The entry -/

namespace Site

/-- A recorder that is told after a calm play was told before it. -/
theorem recorder_told_before {s' : Site π α} (h : s.Calm s') {j : RecorderId}
    (hj : .recorder j ∈ (listeners rt s').1) : .recorder j ∈ (listeners rt s).1 := by
  obtain ⟨hin, hattached⟩ := mem_listeners.1 hj
  refine mem_listeners.2 ⟨h.listeners rt j hin, ?_⟩
  have hstance : ∀ s₀ : Site π α, s₀.isDetached (.recorder j) = (s₀.stance? j).all Prod.snd := fun s₀ => by
    rw [stance?, Option.all_map]
    rfl
  rw [hstance, ← h.stances, ← hstance]
  exact hattached

theorem listeners_told (h : ∀ j, .recorder j ∉ (listeners rt s).1) :
    (listeners rt s).1 = (told rt s).map .engine := by
  unfold told
  generalize (listeners rt s).1 = ls at h
  induction ls with
  | nil => rfl
  | cons l ls ih =>
    have hrest := ih fun j hj => h j (List.mem_cons_of_mem _ hj)
    cases l with
    | engine id => exact congrArg (_ :: ·) hrest
    | recorder j => exact absurd List.mem_cons_self (h j)

theorem entering_thread (t : ThreadId) (rt : RuntimeId) (m : MemberRef) (s : Site π α) :
    (s.entering t rt m).process.thread t = (s.process.thread t).push (define t rt m s).1 := by
  refine (Process.thread_changeThread_self (define t rt m s).2.process t (·.push (define t rt m s).1)).trans ?_
  rw [(define_calm t rt m s (.refl s)).thread]

/-- An entry on a runtime that only engines listen to. -/
theorem enter_told (hop : (define t rt m s).1 = i.id) (honly : ∀ j, .recorder j ∉ (listeners rt s).1) :
    enter invoke t rt m s =
      if ((define t rt m s).2.process.runtime rt).breaksAt i.id = true
      then afterTelling t ⟨i.id, (s.process.thread t).frames.length⟩
        (tellBreakpoints invoke t t i.id ((told rt (define t rt m s).2).map .engine) (s.entering t rt m))
      else (.returned ⟨i.id, (s.process.thread t).frames.length⟩, (pushFrame t rt m s).2) := by
  have hcalm : s.Calm (define t rt m s).2 := define_calm t rt m s (.refl s)
  have hguard : (pushFrame t rt m s).1 = ⟨i.id, (s.process.thread t).frames.length⟩ := by
    rw [← hop, ← hcalm.thread]
    rfl
  have hlisteners : (listeners rt (pushFrame t rt m s).2).1 = (told rt (define t rt m s).2).map .engine :=
    listeners_told fun j hj => honly j (recorder_told_before hcalm hj)
  rw [enter_at, hguard, hlisteners]
  rfl

end Site

/-- Handlers of the engines alive on the runtime are considerate. -/
def ConsiderateOn (invoke : Invoke π α) (t : ThreadId) (rt : RuntimeId) (s : Site π α) : Prop :=
  ∀ id slot, s.slots.get? id = some slot → slot.alive = true → slot.host = .runtime rt →
    ∀ c, Considerate t (respond invoke t slot.engine.handler c)

theorem RefusesInTurn.unique {ids : List EngineId} {c c' : BlockingCall} (h : RefusesInTurn invoke t i ids s id c)
    (h' : RefusesInTurn invoke t i ids s id c') : c = c' := by
  obtain ⟨slot, hf, -, -, hanswer⟩ := h
  obtain ⟨slot', hf', -, -, hanswer'⟩ := h'
  obtain rfl : slot = slot' := Option.some.inj (hf.symm.trans hf')
  exact Outcome.raised.inj (hanswer.symm.trans hanswer')

section

variable (h : Run (bare stage extra) past s) (hi : i ∈ ((define t rt m s).2.process.runtime rt).members)
  (hkind : ConsiderateOn invoke t rt s)

include h

theorem Run.defined : Run (bare stage extra) (past ++ [.defined rt m]) (define t rt m s).2 :=
  h.step (.define t rt m) trivial

/-- The engines that are told once the member is defined. -/
theorem mem_told_defined : id ∈ told rt (define t rt m s).2 ↔
    ∃ slot, (define t rt m s).2.slots.get? id = some slot ∧ slot.host = .runtime rt ∧ slot.alive = true := by
  rw [(h.defined.told rt).2, host?, Option.map_eq_some_iff]
  constructor
  · rintro ⟨⟨slot, hf, hh⟩, ha⟩
    exact ⟨slot, hf, hh, (alive_iff hf).symm.trans ha⟩
  · rintro ⟨slot, hf, hh, ha⟩
    exact ⟨⟨slot, hf, hh⟩, (alive_iff hf).trans ha⟩

include hi hkind

theorem entry_ready (hid : id ∈ told rt (define t rt m s).2) :
    ∃ slot, Ready invoke t rt i (s.entering t rt m) id slot := by
  obtain ⟨slot, hf, hh, ha⟩ := (mem_told_defined h).1 hid
  obtain ⟨hcat, plan, since, hminds⟩ := h.defined.minds hf hh ha
  obtain ⟨old, e, hf₀, ⟨m', -, rfl⟩, rfl⟩ := (define_teaches t rt m s).before hf
  exact ⟨_, hf, ha, hh, (hminds.isBreakpoint_iff hi (hcat.distinct rt)).1, hkind id old hf₀ ha hh⟩

variable (hop : (define t rt m s).1 = i.id) (hout : s.isChecking t = false)

include hop hout

/-- Whom an engine refuses the entry, said of its turn in the round. -/
theorem refusesEntry_iff (c : BlockingCall) : RefusesEntry invoke t rt m s i id c ↔
    id ∈ told rt (define t rt m s).2 ∧
      RefusesInTurn invoke t i (told rt (define t rt m s).2) (s.entering t rt m) id c := by
  have hthread := entering_thread t rt m s
  have hturn : s.turnOf invoke t rt m id = (s.entering t rt m).consulted invoke t i.id
      ((told rt (define t rt m s).2).filter fun j => j.val < id.val) := by
    rw [turnOf, hop]
  rw [hop] at hthread
  -- Those before it leave the thread and this engine as they were.
  have hkeeps : (s.turnOf invoke t rt m id).process.thread t = (s.process.thread t).push i.id ∧
      (s.turnOf invoke t rt m id).slots.get? id = (define t rt m s).2.slots.get? id := by
    have hnodup : (told rt (define t rt m s).2).Nodup := by
      refine (h.defined.told rt).1.imp fun hlt => ?_
      rintro rfl
      exact Nat.lt_irrefl _ hlt
    obtain ⟨hth, hslots⟩ := consulted_keeps (s := s.entering t rt m) (hnodup.filter _)
      (fun j hj => entry_ready h hi hkind (List.mem_of_mem_filter hj)) ((congrArg Thread.checking hthread).trans hout)
    rw [hturn]
    refine ⟨hth.trans hthread, hslots id fun hin => ?_⟩
    have hlt := List.of_mem_filter hin
    exact Nat.lt_irrefl _ (of_decide_eq_true hlt)
  obtain ⟨hth, hslot⟩ := hkeeps
  rw [mem_told_defined h, RefusesInTurn, ← hturn]
  have hcharges : ∀ {slot}, (define t rt m s).2.slots.get? id = some slot → slot.host = .runtime rt →
      slot.alive = true → (slot.engine.Charges (s.process.thread t) t i ↔
        slot.engine.monitor.targets.get? i.id = some (.callSite i) ∧
          slot.engine.monitor.Condemns ((s.turnOf invoke t rt m id).process.thread t) t .breakpoint) :=
    fun hf hh ha => by
      obtain ⟨-, plan, since, hminds⟩ := h.defined.minds hf hh ha
      exact hminds.charges_iff hi _ _ hth
  constructor
  · rintro ⟨slot, hf, hh, ha, hcharge, hanswer⟩
    obtain ⟨hsite, hcon⟩ := (hcharges hf hh ha).1 hcharge
    exact ⟨⟨slot, hf, hh, ha⟩, slot, hslot.trans hf, hsite, hcon, hanswer⟩
  · rintro ⟨⟨slot, hf, hh, ha⟩, slot', hf', hsite, hcon, hanswer⟩
    obtain rfl : slot = slot' := Option.some.inj (hf.symm.trans (hslot.symm.trans hf'))
    exact ⟨slot, hf, hh, ha, (hcharges hf hh ha).2 ⟨hsite, hcon⟩, hanswer⟩

/-- The round of an entry, whether the runtime has the breakpoint or, since no engine asked
    for it, has not. -/
theorem entry_round (honly : ∀ j, .recorder j ∉ (listeners rt s).1) :
    let r := enter invoke t rt m s
    let ids := told rt (define t rt m s).2
    ((∃ c, r.1 = .raised c ∧ r.2.process.thread t = s.process.thread t ∧
          ∃ id ∈ ids, RefusesInTurn invoke t i ids (s.entering t rt m) id c ∧
            Reaches invoke t i ids (s.entering t rt m) id) ∨
        (r.1 = .returned ⟨i.id, (s.process.thread t).frames.length⟩ ∧
          r.2.process.thread t = (s.process.thread t).push i.id ∧
          ∀ id ∈ ids, ∀ c, ¬RefusesInTurn invoke t i ids (s.entering t rt m) id c)) ∧
      ∀ id slot, (define t rt m s).2.slots.get? id = some slot → ∃ slot', r.2.slots.get? id = some slot' ∧
        let noted := id ∈ ids ∧ slot.engine.monitor.targets.isBreakpoint i.id = true ∧
          Reaches invoke t i ids (s.entering t rt m) id
        (noted → slot.Noted slot') ∧ (¬noted → slot' = slot) := by
  have hthread := entering_thread t rt m s
  have hready := fun id => @entry_ready π α s t rt id invoke m i past stage extra h hi hkind
  rw [hop] at hthread
  rw [enter_told hop honly]
  by_cases hb : ((define t rt m s).2.process.runtime rt).breaksAt i.id = true
  · rw [if_pos hb]
    obtain ⟨hsaid, hth, hslots⟩ := tellBreakpoints_round (h.defined.told rt).1 hready
      ((congrArg Thread.checking hthread).trans hout)
    generalize tellBreakpoints invoke t t i.id _ (s.entering t rt m) = r at hsaid hth hslots ⊢
    obtain ⟨o, s'⟩ := r
    obtain ⟨c, rfl, hrefused⟩ | ⟨rfl, hnone⟩ := hsaid
    · refine ⟨.inl ⟨c, rfl, ?_, hrefused⟩, hslots⟩
      refine (Process.thread_changeThread_self s'.process t (·.cutFrames (s.process.thread t).frames.length)).trans ?_
      rw [hth, hthread]
      exact Thread.cutFrames_push _ _
    · exact ⟨.inr ⟨rfl, hth.trans hthread, hnone⟩, hslots⟩
  · rw [if_neg hb]
    -- Whoever asked for a breakpoint on this member would have it.
    have hmissed : ∀ id ∈ told rt (define t rt m s).2, ∀ slot, (define t rt m s).2.slots.get? id = some slot →
        slot.engine.monitor.targets.isBreakpoint i.id = false := by
      intro id hid slot hf
      obtain ⟨slot', hr⟩ := hready id hid
      obtain rfl : slot' = slot := Option.some.inj (hr.found.symm.trans hf)
      obtain ⟨-, plan, since, hminds⟩ := h.defined.minds hf hr.host hr.alive
      refine Bool.not_eq_true _ ▸ fun hlisted => hb ?_
      exact (hminds.targets.callSite _ i (hr.callSite hlisted)).2.2.2
    refine ⟨.inr ⟨rfl, hthread, fun id hid c hr => ?_⟩, fun id slot hf => ⟨slot, hf, fun hn => ?_, fun _ => rfl⟩⟩
    · obtain ⟨slot, hf, hh, ha, hcharges, -⟩ := (refusesEntry_iff h hi hkind hop hout c).2 ⟨hid, hr⟩
      obtain ⟨-, plan, since, hminds⟩ := h.defined.minds hf hh ha
      have hsite := ((hminds.charges_iff hi _ _ rfl).1 hcharges).1
      have hmiss := hmissed id hid slot hf
      rw [Targets.isBreakpoint, hsite] at hmiss
      cases hmiss
    · rw [hmissed id hn.1 slot hf] at hn
      cases hn.2.1

/-- An engine has its turn if none built before it refuses the entry. -/
theorem entry_reaches_iff : Reaches invoke t i (told rt (define t rt m s).2) (s.entering t rt m) id ↔
    ∀ j : EngineId, j.val < id.val → ∀ c, ¬RefusesEntry invoke t rt m s i j c := by
  constructor
  · intro hr j hlt c hj
    obtain ⟨hin, hturn⟩ := (refusesEntry_iff h hi hkind hop hout c).1 hj
    exact hr j hin hlt c hturn
  · intro hr j hj hlt c hturn
    exact hr j hlt c ((refusesEntry_iff h hi hkind hop hout c).2 ⟨hj, hturn⟩)

/-- An entry fails with the answer of the first engine that refuses it. -/
theorem entry_refused (honly : ∀ j, .recorder j ∉ (listeners rt s).1) (c : BlockingCall) :
    (enter invoke t rt m s).1 = .raised c ↔ ∃ id, RefusesEntry invoke t rt m s i id c ∧
      ∀ j : EngineId, j.val < id.val → ∀ c', ¬RefusesEntry invoke t rt m s i j c' := by
  have hrefuses : ∀ id c, RefusesEntry invoke t rt m s i id c ↔ id ∈ told rt (define t rt m s).2 ∧
      RefusesInTurn invoke t i (told rt (define t rt m s).2) (s.entering t rt m) id c := fun _ c =>
    refusesEntry_iff h hi hkind hop hout c
  obtain ⟨⟨c₀, hc₀, -, k, hk, hkc, hkr⟩ | ⟨hback, -, hnone⟩, -⟩ := entry_round h hi hkind hop hout honly
  · rw [hc₀]
    constructor
    · intro hc
      obtain rfl := Outcome.raised.inj hc
      exact ⟨k, (hrefuses k c₀).2 ⟨hk, hkc⟩, (entry_reaches_iff h hi hkind hop hout).1 hkr⟩
    · rintro ⟨id, hid, hfirst⟩
      obtain ⟨hin, hturn⟩ := (hrefuses id c).1 hid
      -- Two engines that both refuse first are one.
      obtain hlt | heq | hlt := Nat.lt_trichotomy id.val k.val
      · exact absurd hturn (hkr id hin hlt c)
      · obtain rfl : id = k := congrArg EngineId.mk heq
        rw [hturn.unique hkc]
      · exact absurd ((hrefuses k c₀).2 ⟨hk, hkc⟩) (hfirst k hlt c₀)
  · rw [hback]
    refine ⟨nofun, ?_⟩
    rintro ⟨id, hid, -⟩
    obtain ⟨hin, hturn⟩ := (hrefuses id c).1 hid
    exact absurd hturn (hnone id hin c)

/-- Who notes an entry: the engines alive on the runtime that break on the member, if none
    before them refuses. -/
theorem entry_noted_iff {e : Engine π}
    (hdefined : (define t rt m s).2.slots.get? id = some { slot with engine := e }) (hlearns : slot.engine.Learns e) :
    (id ∈ told rt (define t rt m s).2 ∧ e.monitor.targets.isBreakpoint i.id = true ∧
        Reaches invoke t i (told rt (define t rt m s).2) (s.entering t rt m) id) ↔
      (slot.host = .runtime rt ∧ slot.alive = true) ∧
        (slot.engine.policy.isBlocking i.key = true ∧ i.native = false) ∧
        ∀ j : EngineId, j.val < id.val → ∀ c, ¬RefusesEntry invoke t rt m s i j c := by
  have hhears : id ∈ told rt (define t rt m s).2 ↔ slot.host = .runtime rt ∧ slot.alive = true := by
    rw [mem_told_defined h, hdefined]
    refine ⟨?_, fun hh => ⟨_, rfl, hh.1, hh.2⟩⟩
    rintro ⟨slot₁, hs, hh, ha⟩
    cases hs
    exact ⟨hh, ha⟩
  have hlists : slot.host = .runtime rt ∧ slot.alive = true → (e.monitor.targets.isBreakpoint i.id = true ↔
      slot.engine.policy.isBlocking i.key = true ∧ i.native = false) := by
    rintro ⟨hh, ha⟩
    obtain ⟨hcat, plan, since, hminds⟩ := h.defined.minds hdefined hh ha
    obtain ⟨monitor, -, rfl⟩ := hlearns
    exact (hminds.isBreakpoint_iff hi (hcat.distinct rt)).trans (hminds.callSite_iff hi)
  rw [hhears, entry_reaches_iff h hi hkind hop hout]
  exact and_congr_right fun hh => and_congr_left fun _ => hlists hh

end

/-- On every runtime that a run has come to and that only engines listen to, and for every
    thread outside a check: if the handlers of the engines alive there come back and leave
    the thread and the engines as they found them, an entry goes as `EntersAs` says. -/
theorem breakpointed_entry (h : Run (bare stage extra) past s) (t : ThreadId) (rt : RuntimeId) (m : MemberRef)
    (invoke : Invoke π α) (hout : s.isChecking t = false) (honly : ∀ j, .recorder j ∉ (listeners rt s).1)
    (hkind : ConsiderateOn invoke t rt s) : ∃ i, EntersAs invoke t rt m s i := by
  obtain ⟨i, hknown, hop, hmem⟩ := define_as t rt m s
  have hi : i ∈ ((define t rt m s).2.process.runtime rt).members := (hmem i).2 (.inr rfl)
  obtain ⟨hsaid, hslots⟩ := entry_round h hi hkind hop hout honly
  refine ⟨i, hknown, entry_refused h hi hkind hop hout honly, ?_, fun id slot hf => ?_⟩
  · refine hsaid.imp ?_ fun hr => ⟨hr.1, hr.2.1⟩
    rintro ⟨c, hc, hth, -⟩
    exact ⟨c, hc, hth⟩
  · obtain ⟨e, hlearns, hdefined, hhooks, hsame⟩ := define_engine (t := t) h hf fun n hn => (hmem n).1 hn
    obtain ⟨slot', hf', hnoted, hspared⟩ := hslots id _ hdefined
    have hiff := entry_noted_iff h hi hkind hop hout hdefined hlearns
    exact ⟨e, slot', hlearns, hf', fun hn => hnoted (hiff.2 hn), fun hn => hspared fun hn' => hn (hiff.1 hn'), hhooks,
      hsame⟩

/-- The very first entry of a member that two engines break on. The one built first only
    logs the violation, the other fails. -/
theorem breakpointed_entry_past_a_lenient_engine :
    let r : RuntimeId := ⟨"r"⟩
    let g : MemberRef := ⟨"a::B", "g", false, false⟩
    let plan (handler : Handler Unit) : Plan Unit := { policy := Policy.empty.markBlocking g.key, handler }
    let s := (Move.playAll (bare {} ()) [.openRuntime ⟨1⟩ r [], .build ⟨1⟩ (.runtime r) (plan .log),
      .build ⟨1⟩ (.runtime r) (plan .fail), .declare ⟨1⟩ r [defaultMarker]]).2
    let invoke : Invoke Unit Unit := fun _ _ _ => pure (.returned ())
    ∃ i c, (enter invoke ⟨1⟩ r g s).1 = .raised c ∧
      (enter invoke ⟨1⟩ r g s).2.process.thread ⟨1⟩ = s.process.thread ⟨1⟩ ∧
      ∃ id, RefusesEntry invoke ⟨1⟩ r g s i id c ∧
        ∀ j : EngineId, j.val < id.val → ∀ c', ¬RefusesEntry invoke ⟨1⟩ r g s i j c' := by
  intro r g plan s invoke
  have hrun : Run (bare {} ()) _ s := .of_moves (by decide +kernel)
  have hkeys : s.slots.keys = [⟨0⟩, ⟨1⟩] := by decide +kernel
  have hhandlers : [⟨0⟩, ⟨1⟩].all (fun id => (s.slots.get? id).all (·.engine.handler.comesBack)) = true := by
    decide +kernel
  have hkind : ConsiderateOn invoke ⟨1⟩ r s := by
    intro id slot hf _ _ c
    have hid : id ∈ s.slots.keys := Table.contains_iff.1 (by rw [Table.contains, hf]; rfl)
    have hback := List.all_eq_true.1 hhandlers id (hkeys ▸ hid)
    rw [hf] at hback
    exact Handler.considerate hback c
  have honly : (listeners r s).1 = [.engine ⟨0⟩, .engine ⟨1⟩] := by decide +kernel
  obtain ⟨i, hentry⟩ := breakpointed_entry hrun ⟨1⟩ r g invoke (by decide +kernel)
    (fun j hj => by rw [honly] at hj; simp at hj) hkind
  have hfails : (enter invoke ⟨1⟩ r g s).1.map (fun _ => ()) ≠ .returned () := by decide +kernel
  obtain ⟨c, hc, hthread⟩ | ⟨hback, -⟩ := hentry.ended
  · exact ⟨i, c, hc, hthread, (hentry.refused c).1 hc⟩
  · rw [hback] at hfails
    exact absurd rfl hfails

end StallGuard
