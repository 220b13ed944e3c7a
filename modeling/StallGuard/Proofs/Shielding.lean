/-
  StallGuard.Proofs.Shielding — a thread inside a check.

  While a thread is inside a check, whatever it asks of any engine is let through at once.
  Nothing that it asks depends on how handlers' programs are run, so none runs
  (`Shielded`); only a recorder on the runtime can still refuse a breakpoint. And nothing
  ends the check from within: a `Course` is any sequence of moves by any thread, checks of
  other threads among them, and of things that `t` asks meanwhile.
  - `shielded`: every site on which the thread is inside a check is so.
  - `Course.isChecking`: a course that starts inside a check stays inside.
-/

import StallGuard.Proofs.Calm

namespace StallGuard

open Engine Site

variable {π α β : Type} {s s₀ : Site π α} {t : ThreadId} {rt : RuntimeId} {id : EngineId}

/-- Cutting back to where a frame was pushed takes just that frame off. -/
theorem Thread.cutFrames_push (th : Thread) (op : OperationId) : (th.push op).cutFrames th.frames.length = th := by
  simp [Thread.push, Thread.cutFrames]

namespace Site

/-! ## Small steps -/

/-- An operation that does nothing with the engine it took up leaves no trace. -/
theorem released_taken_same (id : EngineId) (s : Site π α) (b : β) : released id (b, s.taken id) = (b, s) := by
  cases h : s.slots.get? id with
  | none =>
    have hsame : s.taken id = s := changeSlot_none h _
    rw [hsame]
    exact Prod.ext rfl (changeSlot_none h _)
  | some slot => exact released_taken h b

theorem taken_calm (id : EngineId) (s : Site π α) : s.Calm (s.taken id) := changeSlot_calm id _ s (.refl s)

theorem released_calm {s' : Site π α} (h : s.Calm s') (id : EngineId) : s.Calm (released id ((), s')).2 :=
  h.trans (changeSlot_calm id _ s' (.refl s'))

/-- The engine binds a native member, or the call fails open. -/
def bound (t : ThreadId) (id : EngineId) (m : MemberRef) (entry : EntryPoint) :
    Play π α (Option (OperationId × Binding)) :=
  acting t id none fun h => Engine.bindNative h m entry

/-- What is left of a native call after that. -/
def admitted (invoke : Invoke π α) (t : ThreadId) (id : EngineId) (entry : EntryPoint) :
    Option (OperationId × Binding) → Play π α (Outcome EntryPoint)
  | none => pure (.returned entry)
  | some (op, b) =>
    if b.guarded then do
      let r ← checking t (.returned ()) (judge invoke t id currentOf op .blockingCall)
      pure (r.map fun () => b.entry)
    else pure (.returned b.entry)

theorem enterNative_at (invoke : Invoke π α) (m : MemberRef) (entry : EntryPoint) :
    enterNative invoke t id m entry s = released id
      (admitted invoke t id entry (bound t id m entry (s.taken id)).1 (bound t id m entry (s.taken id)).2) := rfl

theorem bindNative_tame (m : MemberRef) (entry : EntryPoint) :
    Tame fun h => (bindNative h m entry : Act (Engine π) World _) :=
  .of_keeps fun _ _ hk => Engine.bindNative_keeps aside_true (fun _ _ _ => trivial) hk m entry

theorem bound_calm (t : ThreadId) (id : EngineId) (m : MemberRef) (entry : EntryPoint) :
    Keeps s₀.Calm (bound t id m entry : Play π α _) :=
  acting_calm t id none (bindNative_tame m entry) fun _ _ => Engine.bindNative_silent m entry

/-- An engine counts a breakpoint that it asked for, and says whether it did. -/
def counted (op : OperationId) : Act (Engine π) World Bool := do
  if (← Act.own).monitor.targets.isBreakpoint op then
    Engine.watch (Monitor.mark .breakpointHit)
    pure true
  else pure false

theorem counted_at (op : OperationId) (x : Scene (Engine π) World) :
    (counted op x).1 = x.own.monitor.targets.isBreakpoint op ∧ (counted op x).2.own.handler = x.own.handler := by
  unfold counted
  rw [bind_at, Act.own_at]
  dsimp only
  split
  · rename_i h
    exact ⟨h.symm, rfl⟩
  · rename_i h
    exact ⟨(Bool.not_eq_true _ ▸ h).symm, rfl⟩

def hit (t : ThreadId) (id : EngineId) (op : OperationId) : Play π α Bool := acting t id false fun _ => counted op

theorem hit_calm (t : ThreadId) (id : EngineId) (op : OperationId) : Keeps s₀.Calm (hit t id op : Play π α Bool) := by
  refine acting_calm t id false (.of_keeps fun _ _ _ => ?_) fun _ l => ?_
  · refine Keeps.bind Act.own_keeps fun e => Keeps.ite (fun _ => ?_) fun _ => Keeps.pure _
    exact Keeps.bind (mark_keeps aside_true _) fun _ => Keeps.pure _
  · refine Keeps.bind Act.own_silent fun e => Keeps.ite (fun _ => ?_) fun _ => Keeps.pure _
    exact Keeps.bind (watch_silent (Monitor.mark_silent rfl)) fun _ => Keeps.pure _

/-- A recorder that is told of breakpoints and refuses them is one that objects. -/
theorem objects_of_listener {id : RecorderId} {c : BlockingCall} {d : Bool}
    (hl : .recorder id ∈ (listeners rt s).1) (hs : s.stance? id = some (some c, d)) : s.Objects rt c := by
  obtain ⟨hin, hattached⟩ := mem_listeners.1 hl
  obtain ⟨r, hfound, hr⟩ := Option.map_eq_some_iff.1 hs
  have hd : (s.recorders.get? id).all Recorder.detached = false := hattached
  rw [hfound] at hd
  refine ⟨id, hin, ?_⟩
  rw [stance?, hfound, Option.map_some, (Prod.mk.inj hr).1]
  exact congrArg (fun d => some (some c, d)) hd

/-- What an entry comes to once the listeners have been told of it. -/
def afterTelling (t : ThreadId) (g : FrameGuard) : Outcome Unit × Site π α → Outcome FrameGuard × Site π α
  | (.returned (), s) => (.returned g, s)
  | (.raised c, s) => (.raised c, (dropFrame t g s).2)
  | (.panicked message, s) => (.panicked message, (dropFrame t g s).2)

theorem enter_at {m : MemberRef} (invoke : Invoke π α) :
    enter invoke t rt m s =
      if ((pushFrame t rt m s).2.process.runtime rt).breaksAt (pushFrame t rt m s).1.operation = true
      then afterTelling t (pushFrame t rt m s).1 (tellBreakpoints invoke t t (pushFrame t rt m s).1.operation
        (listeners rt (pushFrame t rt m s).2).1 (listeners rt (pushFrame t rt m s).2).2)
      else (.returned (pushFrame t rt m s).1, (pushFrame t rt m s).2) := by
  unfold enter
  rw [bind_at, bind_at, get_at]
  generalize pushFrame t rt m s = r
  obtain ⟨g, s₁⟩ := r
  dsimp only
  split
  · rw [bind_at, bind_at]
    generalize tellBreakpoints invoke t t g.operation _ _ = told
    obtain ⟨o, s₂⟩ := told
    cases o <;> rfl
  · rfl

theorem breakpointReached_at (invoke : Invoke π α) (thread : ThreadId) (op : OperationId) :
    breakpointReached invoke t id thread op s = released id
      ((if (hit t id op (s.taken id)).1
        then checking t (.returned ()) (judge invoke t id (fun _ _ => thread) op .breakpoint)
        else pure (.returned ())) (hit t id op (s.taken id)).2) := rfl

end Site

/-! ## What is asked inside a check -/

/-- What `t` asks on this site is let through, and no handler is called for it. -/
structure Shielded (t : ThreadId) (s : Site π α) : Prop where
  inside : s.isChecking t = true
  context : ∀ id, isBlockingContext t id s = (false, s)
  call : ∀ id op (invoke : Invoke π α), checkBlocking invoke t id op s = (.returned (), s)
  native : ∀ id m entry, ∃ e s', s.Calm s' ∧
    ∀ invoke : Invoke π α, enterNative invoke t id m entry s = (.returned e, s')
  breakpoint : ∀ id thread op, ∃ s', s.Calm s' ∧
    ∀ invoke : Invoke π α, breakpointReached invoke t id thread op s = (.returned (), s')
  /-- A frame is entered, unless a recorder on the runtime objects. -/
  entry : ∀ rt m, ∃ s', s'.judgements = s.judgements ∧
    ((∃ g, s'.process.thread t = (s.process.thread t).push g.operation ∧
        ∀ invoke : Invoke π α, enter invoke t rt m s = (.returned g, s')) ∨
      ∃ c, s.Objects rt c ∧ s'.process.thread t = s.process.thread t ∧
        ∀ invoke : Invoke π α, enter invoke t rt m s = (.raised c, s'))

namespace Site

variable (hin : s.isChecking t = true)

include hin

theorem isBlockingContext_inside (id : EngineId) : isBlockingContext t id s = (false, s) := by
  have hin' : (s.taken id).isChecking t = true := hin
  unfold isBlockingContext
  rw [keepingAlive_at, checking_inside hin', released_taken_same]

theorem call_inside (id : EngineId) (op : OperationId) (invoke : Invoke π α) :
    checkBlocking invoke t id op s = (.returned (), s) := by
  have hin' : (s.taken id).isChecking t = true := hin
  unfold checkBlocking
  rw [keepingAlive_at, checking_inside hin', released_taken_same]

theorem enterNative_inside (id : EngineId) (m : MemberRef) (entry : EntryPoint) :
    ∃ e s', s.Calm s' ∧ ∀ invoke : Invoke π α, enterNative invoke t id m entry s = (.returned e, s') := by
  have hcalm : s.Calm (bound t id m entry (s.taken id)).2 := bound_calm t id m entry _ (taken_calm id s)
  have hin' := (hcalm.isChecking t).trans hin
  have hat := fun invoke => @enterNative_at π α s t id invoke m entry
  generalize bound t id m entry (s.taken id) = r at hcalm hin' hat
  obtain ⟨b, s'⟩ := r
  cases b with
  | none => exact ⟨entry, _, released_calm hcalm id, hat⟩
  | some b =>
    refine ⟨b.2.entry, _, released_calm hcalm id, fun invoke => ?_⟩
    rw [hat, admitted]
    split
    · rw [bind_at, checking_inside hin']
      rfl
    · rfl

theorem breakpointReached_inside (id : EngineId) (thread : ThreadId) (op : OperationId) :
    ∃ s', s.Calm s' ∧ ∀ invoke : Invoke π α, breakpointReached invoke t id thread op s = (.returned (), s') := by
  have hcalm : s.Calm (hit t id op (s.taken id)).2 := hit_calm t id op _ (taken_calm id s)
  have hin' := (hcalm.isChecking t).trans hin
  refine ⟨_, released_calm hcalm id, fun invoke => ?_⟩
  rw [breakpointReached_at]
  split
  · rw [checking_inside hin']
    rfl
  · rfl

/-! ### Breakpoints -/

/-- A breakpoint told to these listeners goes through, unless a recorder among them refuses
    it; and that does not depend on how handlers' programs are run. -/
def GoesThrough (s : Site π α) (ls : List Listener) (told : Invoke π α → Outcome Unit × Site π α) : Prop :=
  ∃ s', s.Calm s' ∧ ((∀ invoke, told invoke = (.returned (), s')) ∨
    ∃ id c d, .recorder id ∈ ls ∧ s.stance? id = some (some c, d) ∧ ∀ invoke, told invoke = (.raised c, s'))

theorem tellBreakpoint_inside (thread : ThreadId) (op : OperationId) (l : Listener) :
    s.GoesThrough [l] fun invoke => tellBreakpoint invoke t thread op l s := by
  cases l with
  | engine id =>
    cases ha : s.alive id with
    | true =>
      obtain ⟨s', hcalm, hrun⟩ := breakpointReached_inside hin id thread op
      refine ⟨s', hcalm, .inl fun invoke => ?_⟩
      show (if s.alive id = true then breakpointReached invoke t id thread op else pure (.returned ())) s = _
      rw [if_pos ha, hrun]
    | false =>
      refine ⟨s, .refl s, .inl fun invoke => ?_⟩
      show (if s.alive id = true then breakpointReached invoke t id thread op else pure (.returned ())) s = _
      rw [ha]
      rfl
  | recorder id =>
    have hcalm : s.Calm (hear id .breakpoint s).2 := hear_calm id .breakpoint s (.refl s)
    refine ⟨_, hcalm, ?_⟩
    unfold tellBreakpoint
    simp only [bind_at, get_at]
    cases hr : ((hear id .breakpoint s).2.recorders.get? id).bind Recorder.reject with
    | none => exact .inl fun _ => rfl
    | some c =>
      obtain ⟨r, hfound, hreject⟩ := Option.bind_eq_some_iff.1 hr
      refine .inr ⟨id, c, r.detached, List.mem_singleton.2 rfl, ?_, fun _ => rfl⟩
      rw [← hcalm.stances, stance?, hfound, ← hreject]
      rfl

theorem tellBreakpoints_inside (thread : ThreadId) (op : OperationId) (ls : List Listener) :
    s.GoesThrough ls fun invoke => tellBreakpoints invoke t thread op ls s := by
  induction ls generalizing s with
  | nil => exact ⟨s, .refl s, .inl fun _ => rfl⟩
  | cons l ls ih =>
    obtain ⟨s₁, hcalm, hpassed | ⟨id, c, d, hmem, hstance, hraised⟩⟩ := tellBreakpoint_inside hin thread op l
    · obtain ⟨s₂, hcalm', hrest⟩ := ih ((hcalm.isChecking t).trans hin)
      refine ⟨s₂, hcalm.trans hcalm', ?_⟩
      unfold tellBreakpoints
      simp only [bind_at, hpassed]
      refine hrest.imp_right ?_
      rintro ⟨id, c, d, hmem, hstance, hraised⟩
      exact ⟨id, c, d, List.mem_cons_of_mem _ hmem, hcalm.stances ▸ hstance, hraised⟩
    · refine ⟨s₁, hcalm, .inr ⟨id, c, d, ?_, hstance, fun invoke => ?_⟩⟩
      · exact List.mem_cons.2 (.inl (List.mem_singleton.1 hmem))
      · unfold tellBreakpoints
        simp only [bind_at, hraised]
        rfl

theorem enter_inside (rt : RuntimeId) (m : MemberRef) :
    ∃ s', s'.judgements = s.judgements ∧
      ((∃ g, s'.process.thread t = (s.process.thread t).push g.operation ∧
          ∀ invoke : Invoke π α, enter invoke t rt m s = (.returned g, s')) ∨
        ∃ c, s.Objects rt c ∧ s'.process.thread t = s.process.thread t ∧
          ∀ invoke : Invoke π α, enter invoke t rt m s = (.raised c, s')) := by
  -- The frame is the one thing that the push adds to the thread, and a drop takes it off.
  have hdefined : s.Calm (define t rt m s).2 := define_calm t rt m s (.refl s)
  have hpush : (pushFrame t rt m s).2.process.thread t =
      (s.process.thread t).push (pushFrame t rt m s).1.operation := by
    rw [← hdefined.thread t]
    exact Process.thread_changeThread_self (define t rt m s).2.process t (·.push (define t rt m s).1)
  have hdepth : (pushFrame t rt m s).1.depth = (s.process.thread t).frames.length := by
    rw [← hdefined.thread t]
    rfl
  have hjudged : (pushFrame t rt m s).2.judgements = s.judgements := hdefined.judgements
  have hobjects : ∀ {c}, (pushFrame t rt m s).2.Objects rt c → s.Objects rt c := fun h => hdefined.objects h
  have hin' : (pushFrame t rt m s).2.isChecking t = true := by
    rw [isChecking, hpush]
    exact hin
  have hat := @enter_at π α s t rt m
  generalize pushFrame t rt m s = r at hpush hdepth hjudged hobjects hin' hat
  obtain ⟨g, s₁⟩ := r
  by_cases hb : (s₁.process.runtime rt).breaksAt g.operation = true
  · have hpruned : s₁.Calm (listeners rt s₁).2 := listeners_calm rt s₁ (.refl s₁)
    obtain ⟨s₂, hcalm, hpassed | ⟨id, c, d, hmem, hstance, hraised⟩⟩ :=
      tellBreakpoints_inside ((hpruned.isChecking t).trans hin') t g.operation (listeners rt s₁).1
    · refine ⟨s₂, (hpruned.trans hcalm).judgements.trans hjudged, .inl ⟨g, ?_, fun invoke => ?_⟩⟩
      · rw [(hpruned.trans hcalm).thread, hpush]
      · rw [hat, if_pos hb]
        exact congrArg (afterTelling t g) (hpassed invoke)
    · refine ⟨(dropFrame t g s₂).2, (hpruned.trans hcalm).judgements.trans hjudged,
        .inr ⟨c, ?_, ?_, fun invoke => ?_⟩⟩
      · exact hobjects (objects_of_listener hmem (hpruned.stances ▸ hstance))
      · refine (Process.thread_changeThread_self s₂.process t (·.cutFrames g.depth)).trans ?_
        rw [(hpruned.trans hcalm).thread, hpush, hdepth]
        exact Thread.cutFrames_push _ _
      · rw [hat, if_pos hb]
        exact congrArg (afterTelling t g) (hraised invoke)
  · refine ⟨s₁, hjudged, .inl ⟨g, hpush, fun invoke => ?_⟩⟩
    rw [hat, if_neg hb]

end Site

/-- A thread inside a check is shielded. -/
theorem shielded (hin : s.isChecking t = true) : Shielded t s where
  inside := hin
  context := isBlockingContext_inside hin
  call := call_inside hin
  native := enterNative_inside hin
  breakpoint := breakpointReached_inside hin
  entry := enter_inside hin

/-! ## While a check lasts -/

/-- What an engine can be asked to check. -/
inductive Check
  | call (id : EngineId) (op : OperationId)
  | native (id : EngineId) (m : MemberRef) (entry : EntryPoint)
  | breakpoint (id : EngineId) (thread : ThreadId) (op : OperationId)
deriving DecidableEq

/-- The check, asked for on the process's thread `t`. -/
def Check.play (invoke : Invoke π α) (t : ThreadId) : Check → Play π α (Outcome Unit)
  | call id op => checkBlocking invoke t id op
  | native id m entry => do
    let r ← enterNative invoke t id m entry
    pure (r.map fun _ => ())
  | breakpoint id thread op => breakpointReached invoke t id thread op

theorem Check.play_native (invoke : Invoke π α) (id : EngineId) (m : MemberRef) (entry : EntryPoint) :
    (native id m entry).play invoke t s =
      ((enterNative invoke t id m entry s).1.map fun _ => (), (enterNative invoke t id m entry s).2) := rfl

/-- The move neither begins nor ends a check on `t`. -/
def Move.Spares (t : ThreadId) (s : Site π α) : Move π α → Prop
  | checking t' _ => t ≠ t'
  | newThread _ => t ≠ ⟨s.process.nextThread⟩
  | _ => True

/-- What can happen from `s` on while a check on `t` lasts: moves of any thread, and what
    `t` asks, with handlers' programs run in any way. -/
inductive Course (t : ThreadId) (s : Site π α) : Site π α → Prop
  | start : Course t s s
  | move {s' : Site π α} (m : Move π α) : Course t s s' → m.Spares t s' → Course t s (m.play s').2
  | context {s' : Site π α} (id : EngineId) : Course t s s' → Course t s (isBlockingContext t id s').2
  | check {s' : Site π α} (a : Check) (invoke : Invoke π α) : Course t s s' → Course t s (a.play invoke t s').2
  | entry {s' : Site π α} (rt : RuntimeId) (m : MemberRef) (invoke : Invoke π α) : Course t s s' →
      Course t s (enter invoke t rt m s').2

theorem Move.Spares.isChecking {m : Move π α} (h : m.Spares t s) : (m.play s).2.isChecking t = s.isChecking t := by
  rw [Site.isChecking, m.play_thread]
  cases m with
  | checking | newThread => rw [effect, applied, if_neg h]; rfl
  | push | cut | declare | hold | letGo => rw [effect, applied]; split <;> rfl
  | _ => rfl

theorem Check.play_inside (hin : s.isChecking t = true) (a : Check) :
    ∃ s', s.Calm s' ∧ ∀ invoke : Invoke π α, a.play invoke t s = (.returned (), s') := by
  cases a with
  | call id op => exact ⟨s, .refl s, (shielded hin).call id op⟩
  | native id m entry =>
    obtain ⟨e, s', hcalm, hrun⟩ := (shielded hin).native id m entry
    refine ⟨s', hcalm, fun invoke => ?_⟩
    rw [play_native, hrun]
    rfl
  | breakpoint id thread op => exact (shielded hin).breakpoint id thread op

/-- A check lasts through every course. -/
theorem Course.isChecking {s' : Site π α} (h : Course t s s') (hin : s.isChecking t = true) :
    s'.isChecking t = true := by
  -- The flag is raised at every step, so what `t` asks in that step goes through unchecked
  -- and does not lower it.
  induction h with
  | start => exact hin
  | move m _ hm ih => exact hm.isChecking.trans ih
  | context id _ ih =>
    rw [(shielded ih).context]
    exact ih
  | check a invoke _ ih =>
    obtain ⟨s', hcalm, hrun⟩ := a.play_inside ih
    rw [hrun]
    exact (hcalm.isChecking t).trans ih
  | entry rt m invoke _ ih =>
    obtain ⟨s', -, ⟨g, hthread, hrun⟩ | ⟨c, -, hthread, hrun⟩⟩ := (shielded ih).entry rt m
    · rw [hrun, Site.isChecking, hthread]
      exact ih
    · rw [hrun, Site.isChecking, hthread]
      exact ih

theorem Course.shielded {s' : Site π α} (h : Course t s s') (hin : s.isChecking t = true) : Shielded t s' :=
  StallGuard.shielded (h.isChecking hin)

end StallGuard
