/-
  StallGuard.Proofs.Twins — what calls handlers, on two sites at once.

  A site that a run has reached and the same site with a residue are twins (`Site.Twins`). A
  breakpoint that is set on the second alone was left behind, and no engine that is alive has
  asked for it: every engine that asks for a breakpoint has it set. So the round that is told
  of it is told to nobody who minds (`tellBreakpoints_silent`), and the entry goes on.
  Handlers are taken to do alike on twins (`Concurring`); the operations do, then.
  - `Site.Reached.deaf`: no engine asked for a breakpoint that is not set.
  - `checkBlocking_twins`, `isBlockingContext_twins`, `enterNative_twins`: the engine is alive.
  - `enter_twins`: an entry, whichever of the sites has the breakpoint.
-/

import StallGuard.Proofs.Breakpoint
import StallGuard.Proofs.Operation
import StallGuard.Proofs.Residue

namespace StallGuard

open Engine Site

variable {π α β γ : Type} {e : Nat} {left : RuntimeId → OperationId → Prop} {s s' : Site π α} {id : EngineId}
  {t : ThreadId} {rt : RuntimeId}

namespace Site

/-- Some run has led here. -/
def Reached (s : Site π α) : Prop := ∃ stage extra past, Run (bare stage extra) past s

/-- The first site was reached, and the second is the same with a residue. -/
structure Twins (e : Nat) (left : RuntimeId → OperationId → Prop) (s s' : Site π α) : Prop where
  reached : s.Reached
  residue : Residue e left s s'

theorem Reached.move (h : s.Reached) {evs : List Event} (hr : Run s evs s') : s'.Reached := by
  obtain ⟨stage, extra, past, h⟩ := h
  exact ⟨stage, extra, _, h.trans hr⟩

theorem Reached.orderly (h : s.Reached) : s.Orderly := by
  obtain ⟨stage, extra, past, h⟩ := h
  exact (h.catalogues (bare_orderly stage extra)).1

theorem Reached.rostered (h : s.Reached) : s.Rostered := by
  obtain ⟨stage, extra, past, h⟩ := h
  exact h.rostered (bare_orderly stage extra) (bare_rostered stage extra)

/-- An engine that is alive has every breakpoint set that it asked for. -/
theorem Reached.breaksAt (h : s.Reached) {slot : Slot π} (hf : s.slots.get? id = some slot)
    (hh : slot.host = .runtime rt) (ha : slot.alive = true) {op : OperationId}
    (hop : slot.engine.monitor.targets.isBreakpoint op = true) : (s.process.runtime rt).breaksAt op = true := by
  obtain ⟨stage, extra, past, h⟩ := h
  obtain ⟨-, plan, since, hminds⟩ := h.minds hf hh ha
  obtain ⟨target, htarget, hsite⟩ := (Option.any_eq_true ..).1 hop
  cases target with
  | native m g c => cases hsite
  | callSite m => exact (hminds.targets.callSite op m htarget).2.2.2

/-- Whoever is told of a breakpoint that is not set did not ask for it. -/
theorem Reached.deaf (h : s.Reached) {op : OperationId} (hb : ¬(s.process.runtime rt).breaksAt op = true)
    (hid : .engine id ∈ (listeners rt s).1) {slot : Slot π} (hf : s.slots.get? id = some slot) :
    slot.engine.monitor.targets.isBreakpoint op = false := by
  have hreached := h
  obtain ⟨stage, extra, past, h⟩ := h
  obtain ⟨hhost, halive⟩ := ((h.told rt).2 id).1 (mem_engines.2 hid)
  rw [host?, hf] at hhost
  exact Bool.eq_false_iff.2 fun hop =>
    hb (hreached.breaksAt hf (Option.some.inj hhost) ((alive_iff hf).symm.trans halive) hop)

end Site

/-! ## Plays on twins -/

/-- The plays give the same on twins, and leave twins. -/
abbrev Concurring (e : Nat) (left : RuntimeId → OperationId → Prop) (x x' : Play π α β) : Prop :=
  Mirrors (Twins e left) Eq x x'

/-- They do so as long as engine `id` is alive. -/
def ConcurringOn (e : Nat) (left : RuntimeId → OperationId → Prop) (id : EngineId) (x x' : Play π α β) : Prop :=
  ∀ s s', Twins e left s s' → s.alive id = true → (x s).1 = (x' s').1 ∧ Twins e left (x s).2 (x' s').2

/-- A play that is a run, and does alike on sites with a residue. -/
theorem Site.Alike.concurring {x x' : Play π α β} (hx : Alike e left x x') (hr : Runs (fun _ => True) x) :
    Concurring e left x x' := by
  intro s s' h
  obtain ⟨evs, hrun⟩ := hr s trivial
  obtain ⟨hsaid, hres⟩ := hx s s' h.residue
  exact ⟨hsaid, h.reached.move hrun, hres⟩

theorem Mirrors.concurringOn {x x' : Play π α β} (hx : Concurring e left x x') : ConcurringOn e left id x x' :=
  fun s s' h _ => hx s s' h

/-- If the engine is alive the plays are done, otherwise nothing is. -/
theorem ConcurringOn.whenAlive {x x' : Play π α β} (hx : ConcurringOn e left id x x') (b : β) :
    Concurring e left (do if (← get).alive id then x else pure b)
      (do if (← get).alive (id.past e) then x' else pure b) := by
  intro s s' h
  rw [bind_at, bind_at, get_at, get_at]
  dsimp only
  rw [h.residue.alive]
  by_cases ha : s.alive id = true
  · rw [if_pos ha, if_pos ha]
    exact hx s s' h ha
  · rw [if_neg ha, if_neg ha]
    exact ⟨rfl, h⟩

/-! ### Taking an engine up -/

theorem keepingAlive_twins {x x' : Play π α β} (hx : ConcurringOn e left id x x') :
    ConcurringOn e left id (keepingAlive id x) (keepingAlive (id.past e) x') := by
  intro s s' h ha
  have htaken : Twins e left (s.taken id) (s'.taken (id.past e)) :=
    ⟨h.reached.move (taken_run ha), h.residue.changeSlot fun slot hf _ => (alive_iff hf).symm.trans ha⟩
  obtain ⟨hsaid, hafter⟩ := hx _ _ htaken (taken_alive ha)
  rw [keepingAlive_at, keepingAlive_at]
  refine ⟨hsaid, hafter.reached.move (released_run id _), hafter.residue.changeSlot fun slot hf halive => ?_⟩
  have hbefore : (slot.owned || decide (0 < slot.uses - 1)) = true := halive
  rw [Slot.alive, Bool.or_eq_true, decide_eq_true_eq]
  rw [Bool.or_eq_true, decide_eq_true_eq] at hbefore
  exact hbefore.imp_right fun h => Nat.lt_of_lt_of_le h (Nat.sub_le _ _)

theorem setChecking_twins (t : ThreadId) (b : Bool) :
    Concurring e left (setChecking t b : Play π α Unit) (setChecking t b) :=
  Alike.concurring (changeThread_residue t _) (.move (.checking t b) (fun _ => rfl) fun _ _ => trivial)

theorem checking_twins (inside : β) {x x' : Play π α β} (hx : ConcurringOn e left id x x') :
    ConcurringOn e left id (checking t inside x) (checking t inside x') := by
  intro s s' h ha
  have hsame : s'.isChecking t = s.isChecking t := congrArg Thread.checking (h.residue.world.process.thread t)
  cases hc : s.isChecking t with
  | true =>
    rw [checking_inside hc, checking_inside (hsame.trans hc)]
    exact ⟨rfl, h⟩
  | false =>
    rw [checking_outside hc, checking_outside (hsame.trans hc)]
    obtain ⟨hsaid, hafter⟩ := hx _ _ (setChecking_twins t true s s' h).2 ha
    exact ⟨hsaid, (setChecking_twins t false _ _ hafter).2⟩

/-! ### Acts -/

/-- Whatever the host, the act does what some use of an engine does. -/
def Usual (act : Host World → Act (Engine π) World β) : Prop :=
  ∀ (id : EngineId) (h : Host World) (x : Scene (Engine π) World), ∃ u : Use, (act h x).2 = (u.act id h x).2

theorem Usual.tame {act : Host World → Act (Engine π) World β} (hu : Usual act) : Tame act := by
  intro h t engine w
  obtain ⟨u, he⟩ := hu ⟨0⟩ (World.host h t) ⟨engine, w, []⟩
  rw [he]
  exact u.tame h t engine w

theorem act_twins {fallback : β} {act : Host World → Act (Engine π) World β} (hu : Usual act)
    (ha : ∀ h, Act.Impartial (World.Same left) (act (World.host h t))) :
    ConcurringOn e left id (acting t id fallback act : Play π α β) (acting t (id.past e) fallback act) := by
  intro s s' h halive
  obtain ⟨hsaid, hres⟩ := acting_residue t id fallback hu.tame ha s s' h.residue
  have hrun : ∃ evs, Run s evs (acting t id fallback act s).2 :=
    acting_runs α (fun h x => hu id (World.host h t) x) s halive
  obtain ⟨evs, hrun⟩ := hrun
  exact ⟨hsaid, h.reached.move hrun, hres⟩

/-- What is done about an act's answer is done while the engine is still alive. -/
theorem acting_twins {fallback : β} {act : Host World → Act (Engine π) World β} (hu : Usual act)
    (ha : ∀ h, Act.Impartial (World.Same left) (act (World.host h t))) {f f' : β → Play π α γ}
    (hf : ∀ b, ConcurringOn e left id (f b) (f' b)) :
    ConcurringOn e left id (acting t id fallback act >>= f) (acting t (id.past e) fallback act >>= f') := by
  intro s s' h halive
  obtain ⟨hsaid, hafter⟩ := act_twins hu ha s s' h halive
  rw [bind_at, bind_at, ← hsaid]
  exact hf _ _ _ hafter ((acting_alive id).trans halive)

/-! ## Checks -/

variable {invoke invoke' : Invoke π α}

/-- The handlers' programs do alike on twins. -/
abbrev Invoke.Concurs (e : Nat) (left : RuntimeId → OperationId → Prop) (invoke invoke' : Invoke π α) : Prop :=
  ∀ t p c, Concurring e left (invoke t p c) (invoke' t p c)

theorem respond_twins (hi : Invoke.Concurs e left invoke invoke') (t : ThreadId) (h : Handler π) (c : BlockingCall) :
    Concurring e left (respond invoke t h c) (respond invoke' t h c) := by
  cases h with
  | fail => exact Mirrors.pure rfl
  | log =>
    have hgive : Concurring e left (give t (.letThrough c) : Play π α Unit) (give t (.letThrough c)) :=
      (give_residue t _).concurring (.move (.give t _) (fun _ => rfl) fun _ _ => trivial)
    exact hgive.andThen fun _ => Mirrors.pure rfl
  | panic => exact Mirrors.pure rfl
  | program p => exact hi t p c

section

variable (hi : Invoke.Concurs e left invoke invoke')

include hi

/-- How the thread is told may depend on the host, but not on its breakpoints. -/
theorem judge_twins {thread : Host World → World → ThreadId}
    (ht : ∀ h w w', World.Same left w w' → thread (World.host h t) w = thread (World.host h t) w') (op : OperationId)
    (start : ScanStart) :
    ConcurringOn e left id (judge invoke t id thread op start) (judge invoke' t (id.past e) thread op start) := by
  have husual : Usual fun h => (do
      let asked ← Act.ask fun w => (thread h w, w)
      watch (Monitor.check h asked op start) : Act (Engine π) World (Option BlockingCall)) :=
    fun id h x => ⟨.check (thread h x.host) op start, rfl⟩
  refine acting_twins husual (fun h => ?_) fun found => fun s s' h _ => ?_
  · exact (Act.ask_impartial fun w w' hw => ⟨ht h w w' hw, hw⟩).andThen fun asked =>
      watch_impartial (Monitor.check_impartial (World.host_mirrors h t) asked op start)
  · have hsame : s'.engine? (id.past e) = s.engine? id := congrArg (Option.map Slot.engine) (h.residue.slots id)
    rw [bind_at, bind_at, get_at, get_at]
    dsimp only
    rw [hsame]
    cases found with
    | none => exact ⟨rfl, h⟩
    | some c =>
      cases s.engine? id with
      | none => exact ⟨rfl, h⟩
      | some engine => exact respond_twins hi t engine.handler c s s' h

theorem currentOf_judge_twins (op : OperationId) (start : ScanStart) :
    ConcurringOn e left id (judge invoke t id currentOf op start) (judge invoke' t (id.past e) currentOf op start) :=
  judge_twins hi (fun h w w' hw => ((World.host_mirrors h t).currentThread w w' hw).symm) op start

theorem checkBlocking_twins (op : OperationId) :
    ConcurringOn e left id (checkBlocking invoke t id op) (checkBlocking invoke' t (id.past e) op) :=
  keepingAlive_twins (checking_twins _ (currentOf_judge_twins hi op .blockingCall))

theorem enterNative_twins (m : MemberRef) (entry : EntryPoint) :
    ConcurringOn e left id (enterNative invoke t id m entry) (enterNative invoke' t (id.past e) m entry) := by
  refine keepingAlive_twins (acting_twins (fun id h x => ⟨.bind m entry, rfl⟩)
    (fun h => bindNative_impartial (World.host_mirrors h t) m entry) fun b => ?_)
  cases b with
  | none => exact Mirrors.concurringOn (Mirrors.pure rfl)
  | some b =>
    obtain ⟨op, b⟩ := b
    dsimp only
    by_cases hg : b.guarded = true
    · rw [if_pos hg, if_pos hg]
      intro s s' h ha
      obtain ⟨hsaid, hafter⟩ := checking_twins (.returned ()) (currentOf_judge_twins hi op .blockingCall) s s' h ha
      exact ⟨congrArg (Outcome.map _) hsaid, hafter⟩
    · rw [if_neg hg, if_neg hg]
      exact Mirrors.concurringOn (Mirrors.pure rfl)

theorem breakpointReached_twins (thread : ThreadId) (op : OperationId) :
    ConcurringOn e left id (breakpointReached invoke t id thread op)
      (breakpointReached invoke' t (id.past e) thread op) := by
  have husual : Usual fun _ => (counted op : Act (Engine π) World Bool) := fun id h x => by
    refine ⟨.reached op, ?_⟩
    show ((if _ then _ else _ : Act (Engine π) World Bool) x).2 = ((if _ then _ else _ : Act (Engine π) World _) x).2
    split <;> rfl
  refine keepingAlive_twins (acting_twins husual (fun h => ?_) fun mine => ?_)
  · exact Act.own_impartial.andThen fun _ => Mirrors.ite
      ((watch_impartial (Monitor.mark_impartial _)).andThen fun _ => Mirrors.pure rfl) (Mirrors.pure rfl)
  · cases mine with
    | true => exact checking_twins _ (judge_twins hi (fun _ _ _ _ => rfl) op .breakpoint)
    | false => exact Mirrors.concurringOn (Mirrors.pure rfl)

end

theorem isBlockingContext_twins :
    ConcurringOn e left id (isBlockingContext t id : Play π α Bool) (isBlockingContext t (id.past e)) := by
  have husual : Usual fun h => (do
      let asked ← Act.ask fun w => (h.currentThread w, w)
      let v ← watch (Monitor.classify h asked .context)
      pure (v = .violating) : Act (Engine π) World Bool) :=
    fun id h x => ⟨.classify (h.currentThread x.host) .context, rfl⟩
  refine keepingAlive_twins (checking_twins false (act_twins husual fun h => ?_))
  have hk : (World.host h t).Mirrors (World.Same left) := World.host_mirrors h t
  exact (Act.ask_impartial fun w w' hw => ⟨(hk.currentThread w w' hw).symm, hw⟩).andThen fun asked =>
    (watch_impartial (Monitor.classify_impartial hk asked .context)).andThen fun _ => Mirrors.pure rfl

/-! ## Rounds -/

/-- Both sites have the breakpoint. -/
theorem tellBreakpoint_twins (hi : Invoke.Concurs e left invoke invoke') (t thread : ThreadId) (op : OperationId)
    (l : Listener) :
    Concurring e left (tellBreakpoint invoke t thread op l) (tellBreakpoint invoke' t thread op (l.past e)) := by
  cases l with
  | engine id => exact (breakpointReached_twins hi thread op).whenAlive _
  | recorder id =>
    have hhear : Concurring e left (hear id .breakpoint : Play π α Unit) (hear id .breakpoint) :=
      (hear_residue id _).concurring (.move (.recorders fun r => r.modify id fun r =>
        { r with heard := r.heard ++ [.breakpoint] }) (fun _ => rfl) fun _ _ => trivial)
    refine hhear.andThen fun _ => fun s s' h => ?_
    rw [bind_at, bind_at, get_at, get_at]
    dsimp only
    rw [reject?_stance, reject?_stance, h.residue.stances, h.residue.mute]
    exact ⟨rfl, h⟩

theorem tellBreakpoints_twins (hi : Invoke.Concurs e left invoke invoke') (t thread : ThreadId) (op : OperationId)
    (ls : List Listener) :
    Concurring e left (tellBreakpoints invoke t thread op ls)
      (tellBreakpoints invoke' t thread op (ls.map (Listener.past e))) := by
  induction ls with
  | nil => exact Mirrors.pure rfl
  | cons l ls ih =>
    refine Mirrors.andThen (tellBreakpoint_twins hi t thread op l) fun o => ?_
    cases o with
    | returned _ => exact ih
    | raised c => exact Mirrors.pure rfl
    | panicked message => exact Mirrors.pure rfl

/-- If no engine that is told asked for the breakpoint, and no recorder objects, the round
    passes, and all that comes of it is what recorders heard. -/
theorem tellBreakpoints_silent (invoke : Invoke π α) (t thread : ThreadId) (op : OperationId) (ls : List Listener)
    (hmute : ∀ id, (s.stance? id).bind Prod.fst = none)
    (hdeaf : ∀ id, .engine id ∈ ls → ∀ slot, s.slots.get? id = some slot →
      slot.engine.monitor.targets.isBreakpoint op = false) :
    ∃ r, { s with recorders := r }.stance? = s.stance? ∧
      tellBreakpoints invoke t thread op ls s = (.returned (), { s with recorders := r }) := by
  induction ls generalizing s with
  | nil => exact ⟨s.recorders, rfl, rfl⟩
  | cons l ls ih =>
    have hrest : ∀ id, .engine id ∈ ls → ∀ slot, s.slots.get? id = some slot →
        slot.engine.monitor.targets.isBreakpoint op = false := fun id hid => hdeaf id (List.mem_cons_of_mem _ hid)
    unfold tellBreakpoints
    rw [bind_at]
    cases l with
    | engine id =>
      have hpassed : tellBreakpoint invoke t thread op (.engine id) s = (.returned (), s) := by
        show (if s.alive id = true then _ else _ : Play π α (Outcome Unit)) s = _
        cases hf : s.slots.get? id with
        | none =>
          rw [if_neg]
          · rfl
          · rw [alive, hf]
            exact Bool.false_ne_true
        | some slot =>
          split
          · exact breakpointReached_missed hf (hdeaf id List.mem_cons_self slot hf) thread
          · rfl
      rw [hpassed]
      exact ih hmute hrest
    | recorder id =>
      have hstance := hear_stances (π := π) (α := α) id .breakpoint s
      have hpassed : tellBreakpoint invoke t thread op (.recorder id) s =
          (.returned (), (hear id .breakpoint s).2) := by
        unfold tellBreakpoint
        dsimp only
        rw [bind_at, bind_at, get_at]
        rw [reject?_stance, hstance, hmute]
        rfl
      rw [hpassed]
      obtain ⟨r, hr, htold⟩ := ih (s := (hear id .breakpoint s).2) (fun id => hstance ▸ hmute id) hrest
      exact ⟨r, hr.trans hstance, htold⟩

/-! ## Entries -/

theorem pushFrame_twins (t : ThreadId) (rt : RuntimeId) (m : MemberRef) :
    Concurring e left (pushFrame t rt m : Play π α FrameGuard) (pushFrame t rt m) :=
  (pushFrame_residue t rt m).concurring (pushFrame_runs m)

theorem dropFrame_twins (t : ThreadId) (g : FrameGuard) :
    Concurring e left (dropFrame t g : Play π α Unit) (dropFrame t g) :=
  (changeThread_residue t _).concurring (dropFrame_runs g)

theorem afterTelling_twins (t : ThreadId) (g : FrameGuard) {o : Outcome Unit} (h : Twins e left s s') :
    (afterTelling t g (o, s)).1 = (afterTelling t g (o, s')).1 ∧
      Twins e left (afterTelling t g (o, s)).2 (afterTelling t g (o, s')).2 := by
  cases o with
  | returned _ => exact ⟨rfl, h⟩
  | raised c => exact ⟨rfl, (dropFrame_twins t g s s' h).2⟩
  | panicked message => exact ⟨rfl, (dropFrame_twins t g s s' h).2⟩

/-- An entry gives the same on both sites, also where it meets a breakpoint on one of them only. -/
theorem enter_twins (hi : Invoke.Concurs e left invoke invoke') (t : ThreadId) (rt : RuntimeId) (m : MemberRef) :
    Concurring e left (enter invoke t rt m) (enter invoke' t rt m) := by
  intro s s' h
  obtain ⟨hpushed, h⟩ := pushFrame_twins t rt m s s' h
  rw [enter_at, enter_at, ← hpushed]
  generalize (pushFrame t rt m s).1 = g
  generalize (pushFrame t rt m s).2 = s at h
  generalize (pushFrame t rt m s').2 = s' at h
  by_cases hb : (s.process.runtime rt).breaksAt g.operation = true
  · have hb' : (s'.process.runtime rt).breaksAt g.operation = true := h.residue.world.process.breaks rt _ (.inr hb)
    have hpruned : Twins e left (listeners rt s).2 (listeners rt s').2 := by
      obtain ⟨evs, hrun⟩ := listeners_runs rt s trivial
      exact ⟨h.reached.move hrun, h.residue.pruned rt⟩
    have htold := tellBreakpoints_twins hi t t g.operation (listeners rt s).1 _ _ hpruned
    rw [if_pos hb, if_pos hb', h.residue.listeners]
    generalize tellBreakpoints invoke t t g.operation (listeners rt s).1 (listeners rt s).2 = r at htold ⊢
    generalize tellBreakpoints invoke' t t g.operation _ (listeners rt s').2 = r' at htold ⊢
    obtain ⟨o, s₁⟩ := r
    obtain ⟨o', s₁'⟩ := r'
    obtain ⟨rfl, hafter⟩ := htold
    exact afterTelling_twins t g hafter
  · rw [if_neg hb]
    by_cases hb' : (s'.process.runtime rt).breaksAt g.operation = true
    · -- Only engines that are alive are told, and none of them has asked for it.
      have hdeaf : ∀ id, .engine id ∈ (listeners rt s').1 → ∀ slot, (listeners rt s').2.slots.get? id = some slot →
          slot.engine.monitor.targets.isBreakpoint g.operation = false := by
        intro id hid slot hf
        rw [h.residue.listeners, List.mem_map] at hid
        obtain ⟨l, hl, hpast⟩ := hid
        cases l with
        | recorder k => cases hpast
        | engine k =>
          obtain rfl : k.past e = id := Listener.engine.inj hpast
          exact h.reached.deaf hb hl ((h.residue.slots k).symm.trans hf)
      have hmute : ∀ id, ((listeners rt s').2.stance? id).bind Prod.fst = none := fun id =>
        (congrArg (fun stance => Option.bind (stance id) Prod.fst) h.residue.stances).trans (h.residue.mute id)
      obtain ⟨r, hr, htold⟩ := tellBreakpoints_silent invoke' t t g.operation _ hmute hdeaf
      have hheard : Residue e left { s with recorders := s.recorders } { (listeners rt s').2 with recorders := r } :=
        (h.residue.pruned_right rt).recorders (hr.trans h.residue.stances) h.residue.mute fun _ hoff => hoff
      rw [if_pos hb', htold]
      exact ⟨rfl, h.reached, hheard⟩
    · rw [if_neg hb']
      exact ⟨rfl, h⟩

end StallGuard
