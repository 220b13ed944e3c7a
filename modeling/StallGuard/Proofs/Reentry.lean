/-
  StallGuard.Proofs.Reentry — one check at a time on every thread.

  A check that a thread makes outside any other is conducted in full (`Conducted`): the
  call is classified, and if it is a violation the engine's handler is called, on a site on
  which the thread is inside a check. Until the handler is done, everything the thread asks
  for is let through. However it ends, the thread is outside again.
  - `judge_found`: what a check does up to the call of the handler, on
    whatever host.
  - `conducted`: every check outside another is conducted in full.
  - `Check.play_isChecking`: a thread that was outside is outside after every check.
  - `handlers_do_not_nest`: the whole of it, for a check and the one after it.
-/

import StallGuard.Proofs.Shielding

namespace StallGuard

open Engine Site

variable {π α β : Type} {s : Site π α} {t : ThreadId} {id : EngineId} {slot : Slot π}

/-! ## Up to the call of the handler -/

namespace Site

theorem engine?_found (hf : s.slots.get? id = some slot) : s.engine? id = some slot.engine :=
  congrArg (Option.map Slot.engine) hf

theorem engine?_gone (hf : s.slots.get? id = none) : s.engine? id = none := congrArg (Option.map Slot.engine) hf

/-- The handler answers for what was found, if anything was. -/
def answering (invoke : Invoke π α) (t : ThreadId) (h : Handler π) : Option BlockingCall → Play π α (Outcome Unit)
  | none => pure (.returned ())
  | some c => respond invoke t h c

/-- Judging a call leaves its marks, and calls the engine's handler exactly if there is a
    violation to report. -/
theorem judge_found (hf : s.slots.get? id = some slot) (thread : Host World → World → ThreadId) (op : OperationId)
    (start : ScanStart) :
    ∃ found s₁, s₁.judgements = s.judgements ++ (Monitor.marks found).map (t, ·) ∧
      s₁.process.threads = s.process.threads ∧
      ∀ invoke : Invoke π α, judge invoke t id thread op start s =
        answering invoke t slot.engine.handler found s₁ := by
  let h := World.host slot.host t
  let r := Monitor.check h (thread h s.world) op start ⟨slot.engine.monitor, s.world, []⟩
  let s₁ := s.acted id slot { slot.engine with monitor := r.2.own } r.2.host (r.2.notices.map (t, ·))
  have hmarks : r.2.judgements = Monitor.marks r.1 := Monitor.check_judges h (thread h s.world) op start _
  have hworld : s.process.MoreBreakpoints r.2.host.process :=
    @Use.tame π id (.check (thread h s.world) op start) slot.host t slot.engine s.world
  refine ⟨r.1, s₁, ?_, hworld.threads, fun invoke => ?_⟩
  · rw [← hmarks]
    exact judgements_acted slot _ _ _
  · have hact : acting t id none (fun h => do
        let asked ← Act.ask fun w => (thread h w, w)
        Engine.watch (Monitor.check h asked op start)) s = (r.1, s₁) := acting_at hf
    have hengine : s₁.engine? id = some { slot.engine with monitor := r.2.own } := engine?_found (acted_found ..)
    unfold judge
    rw [bind_at, hact, bind_at, get_at]
    dsimp only
    rw [hengine]
    cases r.1 <;> rfl

/-- A check of a call, made outside any other: it begins, the call is judged, the handler
    is called if it has to be, and the check ends. -/
theorem checking_judge (hf : s.slots.get? id = some slot) (hout : s.isChecking t = false)
    (thread : Host World → World → ThreadId) (op : OperationId) (start : ScanStart) :
    ∃ found s₁, s₁.judgements = s.judgements ++ (Monitor.marks found).map (t, ·) ∧ s₁.isChecking t = true ∧
      ∀ invoke : Invoke π α, checking t (.returned ()) (judge invoke t id thread op start) s =
        concluded t (answering invoke t slot.engine.handler found s₁) := by
  have hf' : (s.entered t).slots.get? id = some slot := hf
  obtain ⟨found, s₁, hmarks, hthreads, hrun⟩ := judge_found (t := t) hf' thread op start
  refine ⟨found, s₁, hmarks, ?_, fun invoke => ?_⟩
  · have hthread : s₁.process.thread t = (s.entered t).process.thread t := by
      rw [Process.thread, hthreads]
      rfl
    rw [isChecking, hthread, entered_thread]
  · rw [checking_outside hout, hrun]

theorem checking_isChecking (inside : β) (body : Play π α β) (s : Site π α) :
    (checking t inside body s).2.isChecking t = s.isChecking t := by
  cases h : s.isChecking t with
  | true => rw [checking_inside h, h]
  | false =>
    rw [checking_outside h]
    exact congrArg Thread.checking
      (Process.thread_changeThread_self (body (s.entered t)).2.process t fun th => { th with checking := false })

end Site

/-! ## Checks outside any other -/

/-- There is something to check: the engine is there; the native member is bound as one to
    guard; the engine asked for the breakpoint. -/
def Check.Due (t : ThreadId) (s : Site π α) : Check → Prop
  | call id _ => (s.engine? id).isSome
  | native id m entry => (bound t id m entry s).1.any (·.2.guarded) = true
  | breakpoint id _ op => (s.engine? id).any (·.monitor.targets.isBreakpoint op) = true

def Check.engine : Check → EngineId
  | call id _ => id
  | native id _ _ => id
  | breakpoint id _ _ => id

/-- How a check goes that is made outside any other. -/
inductive Conducted (t : ThreadId) (s : Site π α) (a : Check) : Prop
  /-- There is nothing to check. -/
  | idle {s' : Site π α} : ¬a.Due t s → s'.judgements = s.judgements →
      (∀ invoke, a.play invoke t s = (.returned (), s')) → Conducted t s a
  /-- The call is classified and let through. -/
  | passed {s' : Site π α} : a.Due t s → s'.judgements = s.judgements ++ [(t, .check)] →
      (∀ invoke, a.play invoke t s = (.returned (), s')) → Conducted t s a
  /-- The call is found to be a violation. The engine's handler is called once, from `s₁`
      on, and while it is at work the thread is shielded. -/
  | reported {e : Engine π} {c : BlockingCall} {s₁ : Site π α} : a.Due t s → s.engine? a.engine = some e →
      s₁.judgements = s.judgements ++ [(t, .check), (t, .violation)] → (∀ s', Course t s₁ s' → Shielded t s') →
      (∀ invoke, a.play invoke t s = released a.engine (concluded t (respond invoke t e.handler c s₁))) →
      Conducted t s a

/-- A check that is begun is conducted to its end. -/
theorem Conducted.of_judge {a : Check} (s₀ : Site π α) (thread : Host World → World → ThreadId) (op : OperationId)
    (start : ScanStart) {e : Engine π} (hdue : a.Due t s) (he : s.engine? a.engine = some e)
    (hs : s₀.judgements = s.judgements) (hf : s₀.slots.get? a.engine = some slot)
    (hh : slot.engine.handler = e.handler) (hout : s₀.isChecking t = false)
    (hplay : ∀ invoke, a.play invoke t s =
      released a.engine (checking t (.returned ()) (judge invoke t a.engine thread op start) s₀)) :
    Conducted t s a := by
  -- What is found does not depend on how programs are run, so the way it goes can be told
  -- before the handler is called.
  obtain ⟨found, s₁, hmarks, hin, hrun⟩ := checking_judge hf hout thread op start
  rw [hs] at hmarks
  cases found with
  | none =>
    have hmarks' : (released a.engine (concluded t ((), s₁))).2.judgements = s.judgements ++ [(t, .check)] := hmarks
    refine .passed hdue hmarks' fun invoke => ?_
    rw [hplay, hrun]
    rfl
  | some c =>
    refine Conducted.reported (c := c) hdue he hmarks (fun s' h => h.shielded hin) fun invoke => ?_
    rw [hplay, hrun, hh]
    rfl

/-- A check that is not begun leaves no mark. -/
theorem Conducted.of_none {a : Check} (s₀ : Site π α) (hdue : ¬a.Due t s) (hs : s₀.judgements = s.judgements)
    (hplay : ∀ invoke, a.play invoke t s = released a.engine (.returned (), s₀)) : Conducted t s a :=
  Conducted.idle hdue (show (released a.engine ((), s₀)).2.judgements = s.judgements from hs) hplay

namespace Site

theorem engine?_isSome : (s.engine? id).isSome = (s.slots.get? id).isSome := Option.isSome_map

theorem judge_none (hf : s.slots.get? id = none) (invoke : Invoke π α) (thread : Host World → World → ThreadId)
    (op : OperationId) (start : ScanStart) : judge invoke t id thread op start s = (.returned (), s) := by
  unfold judge
  rw [bind_at, acting_none hf]
  rfl

theorem acting_slot {fallback : β} {act : Host World → Act (Engine π) World β} (hf : s.slots.get? id = some slot) :
    (acting t id fallback act s).2.slots.get? id =
      some { slot with engine := (act (World.host slot.host t) ⟨slot.engine, s.world, []⟩).2.own } := by
  rw [acting_at hf]
  exact acted_found _ _ _

theorem acting_judgements {fallback : β} {act : Host World → Act (Engine π) World β}
    (hf : s.slots.get? id = some slot) :
    (acting t id fallback act s).2.judgements =
      s.judgements ++ (act (World.host slot.host t) ⟨slot.engine, s.world, []⟩).2.judgements.map (t, ·) := by
  rw [acting_at hf]
  exact judgements_acted slot _ _ _

/-- Being taken up changes nothing of what an engine's act gives. -/
theorem acting_taken (t : ThreadId) (id : EngineId) (fallback : β) (act : Host World → Act (Engine π) World β) :
    (acting t id fallback act (s.taken id)).1 = (acting t id fallback act s).1 := by
  show (keepingAlive id (acting t id fallback act) s).1 = _
  rw [keepingAlive_acting]

end Site

theorem Engine.bindNative_handler (h : Host World) (m : MemberRef) (entry : EntryPoint) (x : Scene (Engine π) World) :
    (Engine.bindNative h m entry x).2.own.handler = x.own.handler :=
  (Engine.bindNative_keeps (J := fun e => e.handler = x.own.handler) (fun _ _ _ _ he => he) (fun _ _ he => he)
    h.keeps_true m entry x ⟨rfl, trivial⟩).own

theorem Outcome.map_back (o : Outcome Unit) (f : Unit → β) : (o.map f).map (fun _ => ()) = o := by
  cases o <;> rfl

/-! ### Each kind of check -/

theorem call_conducted (hout : s.isChecking t = false) (id : EngineId) (op : OperationId) :
    Conducted t s (.call id op) := by
  have hout' : (s.taken id).isChecking t = false := hout
  cases hf : s.slots.get? id with
  | some slot =>
    have he := engine?_found hf
    refine .of_judge (s.taken id) currentOf op .blockingCall ?_ he rfl (taken_found hf) rfl hout' fun _ => rfl
    show (s.engine? id).isSome = true
    rw [he]
    rfl
  | none =>
    have hidle : ¬Check.Due t s (.call id op) := by
      show ¬(s.engine? id).isSome = true
      rw [engine?_gone hf]
      exact Bool.false_ne_true
    have hgone : ((s.taken id).entered t).slots.get? id = none := by
      rw [show s.taken id = s from changeSlot_none hf _]
      exact hf
    refine .of_none (concluded t ((), (s.taken id).entered t)).2 hidle rfl fun invoke => ?_
    show released id (checking t (.returned ()) (judge invoke t id currentOf op .blockingCall) (s.taken id)) = _
    rw [checking_outside hout', judge_none hgone]
    rfl

theorem native_conducted (hout : s.isChecking t = false) (id : EngineId) (m : MemberRef) (entry : EntryPoint) :
    Conducted t s (.native id m entry) := by
  have hcalm : s.Calm (bound t id m entry (s.taken id)).2 := bound_calm t id m entry _ (taken_calm id s)
  have hout' := (hcalm.isChecking t).trans hout
  have hsame : (bound t id m entry (s.taken id)).1 = (bound t id m entry s).1 := acting_taken ..
  by_cases hdue : Check.Due t s (.native id m entry)
  · have hguarded : (bound t id m entry (s.taken id)).1.any (·.2.guarded) = true := by
      rw [hsame]
      exact hdue
    obtain ⟨b, hb, hg⟩ := (Option.any_eq_true ..).1 hguarded
    cases hf : s.slots.get? id with
    | none =>
      rw [hsame, bound, acting_none hf] at hb
      cases hb
    | some slot =>
      have he := engine?_found hf
      refine .of_judge (bound t id m entry (s.taken id)).2 currentOf b.1 .blockingCall hdue he hcalm.judgements
        (acting_slot (taken_found hf)) (Engine.bindNative_handler _ m entry _) hout' fun invoke => ?_
      rw [Check.play_native, enterNative_at, hb, admitted, if_pos hg]
      exact Prod.ext (Outcome.map_back _ _) rfl
  · refine .of_none (bound t id m entry (s.taken id)).2 hdue hcalm.judgements fun invoke => ?_
    have hno : ¬(bound t id m entry (s.taken id)).1.any (·.2.guarded) = true := by
      rw [hsame]
      exact hdue
    rw [Check.play_native, enterNative_at]
    cases hb : (bound t id m entry (s.taken id)).1 with
    | none => rfl
    | some b =>
      rw [hb, Option.any_some] at hno
      rw [admitted, if_neg hno]
      rfl

theorem hit_found (hf : s.slots.get? id = some slot) (op : OperationId) :
    (hit t id op s).1 = slot.engine.monitor.targets.isBreakpoint op ∧
      ∃ slot', (hit t id op s).2.slots.get? id = some slot' ∧ slot'.engine.handler = slot.engine.handler := by
  refine ⟨?_, _, acting_slot hf, (counted_at op _).2⟩
  rw [hit, acting_at hf]
  exact (counted_at op _).1

theorem breakpoint_conducted (hout : s.isChecking t = false) (id : EngineId) (thread : ThreadId) (op : OperationId) :
    Conducted t s (.breakpoint id thread op) := by
  have hcalm : s.Calm (hit t id op (s.taken id)).2 := hit_calm t id op _ (taken_calm id s)
  have hout' := (hcalm.isChecking t).trans hout
  cases hf : s.slots.get? id with
  | none =>
    refine .of_none (hit t id op (s.taken id)).2 ?_ hcalm.judgements fun invoke => ?_
    · show ¬(s.engine? id).any _ = true
      rw [engine?_gone hf]
      exact Bool.false_ne_true
    · have hmiss : (hit t id op (s.taken id)).1 = false := by rw [hit, acting_taken, acting_none hf]
      show breakpointReached invoke t id thread op s = _
      rw [breakpointReached_at, hmiss]
      rfl
  | some slot =>
    have he := engine?_found hf
    -- Counting the hit changes the engine, but not its handler.
    obtain ⟨hhit, slot', hf', hh⟩ := hit_found (t := t) (taken_found hf) op
    by_cases hb : slot.engine.monitor.targets.isBreakpoint op = true
    · refine .of_judge (hit t id op (s.taken id)).2 (fun _ _ => thread) op .breakpoint ?_ he hcalm.judgements hf' hh
        hout' fun invoke => ?_
      · show (s.engine? id).any _ = true
        rw [he]
        exact hb
      · show breakpointReached invoke t id thread op s = _
        rw [breakpointReached_at, hhit, if_pos hb]
        rfl
    · refine .of_none (hit t id op (s.taken id)).2 ?_ hcalm.judgements fun invoke => ?_
      · show ¬(s.engine? id).any _ = true
        rw [he]
        exact hb
      · show breakpointReached invoke t id thread op s = _
        rw [breakpointReached_at, hhit, if_neg hb]
        rfl

/-- Whatever a thread has checked outside any other check, the check is conducted. -/
theorem conducted (hout : s.isChecking t = false) (a : Check) : Conducted t s a := by
  cases a with
  | call id op => exact call_conducted hout id op
  | native id m entry => exact native_conducted hout id m entry
  | breakpoint id thread op => exact breakpoint_conducted hout id thread op

/-! ## Afterwards -/

/-- However handlers' programs are run, and however they end, a check leaves the thread
    inside or outside a check as it was. -/
theorem Check.play_isChecking (a : Check) (invoke : Invoke π α) (t : ThreadId) (s : Site π α) :
    (a.play invoke t s).2.isChecking t = s.isChecking t := by
  cases a with
  | call id op => exact checking_isChecking ..
  | native id m entry =>
    have hcalm : s.Calm (bound t id m entry (s.taken id)).2 := bound_calm t id m entry _ (taken_calm id s)
    rw [play_native, enterNative_at]
    refine Eq.trans ?_ (hcalm.isChecking t)
    cases (bound t id m entry (s.taken id)).1 with
    | none => rfl
    | some b =>
      rw [admitted]
      split
      · exact checking_isChecking ..
      · rfl
  | breakpoint id thread op =>
    have hcalm : s.Calm (hit t id op (s.taken id)).2 := hit_calm t id op _ (taken_calm id s)
    show (breakpointReached invoke t id thread op s).2.isChecking t = _
    rw [breakpointReached_at]
    refine Eq.trans ?_ (hcalm.isChecking t)
    split
    · exact checking_isChecking ..
    · rfl

/-- A question about the context leaves the mark of a check, and no other. -/
theorem isBlockingContext_judges (hf : s.slots.get? id = some slot) (hout : s.isChecking t = false) :
    (isBlockingContext t id s).2.judgements = s.judgements ++ [(t, .check)] := by
  have hf' : (s.entered t).slots.get? id = some slot := hf
  let h := World.host slot.host t
  let x : Scene Monitor World := ⟨slot.engine.monitor, (s.entered t).world, []⟩
  have hjudged := Monitor.classify_judges h (h.currentThread x.host) .context x
  rw [isBlockingContext_outside hout]
  exact (acting_judgements hf').trans (congrArg (fun l => s.judgements ++ l.map (t, ·)) hjudged)

/-- A check that a thread makes outside any other is conducted in full. If it is a violation
    the engine's handler is called once, and for as long as the handler is at work, whatever
    happens meanwhile on this thread and on others, everything the thread asks of any engine
    is let through without a handler being called; only a recorder can refuse it a frame.
    However handlers' programs are run and however they end, the thread is outside again
    afterwards, and the next check is conducted in full. -/
theorem handlers_do_not_nest (t : ThreadId) (s : Site π α) (hout : s.isChecking t = false) (a : Check) :
    Conducted t s a ∧ ∀ invoke : Invoke π α,
      let s' := (a.play invoke t s).2
      s'.isChecking t = false ∧ (∀ b, Conducted t s' b) ∧
        ∀ id, (s'.engine? id).isSome → (isBlockingContext t id s').2.judgements = s'.judgements ++ [(t, .check)] := by
  refine ⟨conducted hout a, fun invoke => ?_⟩
  have hafter : (a.play invoke t s).2.isChecking t = false := (a.play_isChecking invoke t s).trans hout
  refine ⟨hafter, fun b => conducted hafter b, fun id he => ?_⟩
  rw [engine?_isSome] at he
  obtain ⟨slot, hf⟩ := Option.isSome_iff_exists.1 he
  exact isBlockingContext_judges hf hafter

/-- A handler with a program is called on a thread inside a check; the next check, of
    whatever kind, is conducted again. -/
theorem handlers_do_not_nest_from_a_call :
    let r : RuntimeId := ⟨"r"⟩
    let plan : Plan Unit := { policy := .empty, handler := .program () }
    let s := (Move.playAll (bare {} ()) [.openRuntime ⟨1⟩ r [], .build ⟨1⟩ (.runtime r) plan,
      .declare ⟨1⟩ r [defaultMarker]]).2
    (∃ c s₁, (∀ s', Course ⟨1⟩ s₁ s' → Shielded ⟨1⟩ s') ∧ ∀ invoke : Invoke Unit Unit,
        checkBlocking invoke ⟨1⟩ ⟨0⟩ ⟨3⟩ s = released ⟨0⟩ (concluded ⟨1⟩ (invoke ⟨1⟩ () c s₁))) ∧
      ∀ invoke : Invoke Unit Unit, ∀ b, Conducted ⟨1⟩ (checkBlocking invoke ⟨1⟩ ⟨0⟩ ⟨3⟩ s).2 b := by
  intro r plan s
  obtain ⟨hchecked, hafter⟩ := handlers_do_not_nest ⟨1⟩ s (by decide +kernel) (.call ⟨0⟩ ⟨3⟩)
  have hcalls : (checkBlocking (fun _ _ _ => pure (.panicked "")) ⟨1⟩ ⟨0⟩ ⟨3⟩ s).1 = .panicked "" := by decide +kernel
  refine ⟨?_, fun invoke => (hafter invoke).2.1⟩
  cases hchecked with
  | idle _ _ hrun => cases hcalls.symm.trans (congrArg Prod.fst (hrun _))
  | passed _ _ hrun => cases hcalls.symm.trans (congrArg Prod.fst (hrun _))
  | @reported e c s₁ _ he _ hshielded hrun =>
    change s.engine? ⟨0⟩ = some e at he
    have hprogram : (s.engine? ⟨0⟩).map (·.handler) = some (.program ()) := by rfl
    have hhandler : e.handler = .program () := Option.some.inj (by rwa [he] at hprogram)
    refine ⟨c, s₁, hshielded, fun invoke => (hrun invoke).trans ?_⟩
    rw [hhandler]
    rfl

/-- A handler enters a frame on a runtime with a recorder that objects: the entry fails,
    though the thread is inside a check. -/
theorem recorder_refuses_frame_inside_check :
    let r : RuntimeId := ⟨"r"⟩
    let f : MemberRef := ⟨"a::B", "f", false, false⟩
    let plan : Plan Unit := { policy := Policy.empty.markBlocking f.key, handler := .program () }
    let c : BlockingCall := ⟨⟨7⟩, "a.B", "f", false⟩
    let s := (Move.playAll (bare {} ()) [.openRuntime ⟨1⟩ r [f], .build ⟨1⟩ (.runtime r) plan,
      .declare ⟨1⟩ r [defaultMarker], .recorders (·.insert ⟨0⟩ { reject := some c }), .listen r ⟨0⟩]).2
    let entering : Invoke Unit Unit := fun t _ _ => do
      let entered ← enter (fun _ _ _ => pure (.returned ())) t r f
      pure (entered.map fun _ => ())
    (checkBlocking entering ⟨1⟩ ⟨0⟩ ⟨3⟩ s).1 = .raised c := by decide +kernel

end StallGuard
