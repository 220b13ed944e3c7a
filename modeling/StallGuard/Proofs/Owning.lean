/-
  StallGuard.Proofs.Owning — programs that push frames and drop guards, and whose the frames are.

  A program on a thread pushes frames, enters members, drops guards and runs other programs
  in wrappers, in whatever order, and the handlers that are called in its entries are such
  programs too. They write down on the site what they do (`Noted`): a guard when its frame
  is pushed, that of an entry or a wrapper before anybody else can act, and a guard when it
  is dropped, at the latest when its entry has failed or its wrapper is taken off. So what
  is on record was really done, and in that order, and the frames can be held against it.
  - `FrameProgram.treads`: the frames go the walk that is put on record.
  - `enter_walk`: an entry pushes its frame, then handlers walk, and a failed one drops its
    guard last, however they walked and however it failed.
  - `frames_belong_to_guards`: whose the frames are after any program, that they are back
    when a guard was dropped before any older one, and what an entry leaves.
-/

import StallGuard.Proofs.Reentry
import StallGuard.Proofs.Wrapping

namespace StallGuard

open Site

variable {π α β γ : Type} {t : ThreadId} {rt : RuntimeId} {m : MemberRef} {w : Wrapper} {k : Nat}

/-! ## The record -/

/-- What was done to the frames of a thread, oldest first, beside what is kept on a site. -/
structure Noted (α : Type) where
  deeds : List Deed := []
  extra : α

namespace Site

def deeds (s : Site π (Noted α)) : List Deed := s.extra.deeds

def note (d : Deed) : Play π (Noted α) Unit := changeExtra fun n => { n with deeds := n.deeds ++ [d] }

/-- Pushes a frame; the number of its guard. -/
def pushNoted (t : ThreadId) (rt : RuntimeId) (m : MemberRef) : Play π (Noted α) Nat := do
  let g ← pushFrame t rt m
  note (.pushed g)
  pure ((handed (← get).deeds).length - 1)

/-- Drops the guard of this number. -/
def dropNoted (t : ThreadId) (k : Nat) : Play π (Noted α) Unit := do
  match (handed (← get).deeds)[k]? with
  | none => pure ()
  | some g =>
    dropFrame t g
    note (.dropped k g)

/-- Enters a member; the number of its guard. The frame is on record before the listeners
    are told, for their handlers write behind it, and if one objects so is the drop. -/
def enterNoted (invoke : Invoke π (Noted α)) (t : ThreadId) (rt : RuntimeId) (m : MemberRef) :
    Play π (Noted α) (Outcome Nat) := do
  let s ← get
  let k := (handed s.deeds).length
  let g := (pushFrame t rt m s).1
  note (.pushed g)
  let entered ← enter invoke t rt m
  match entered with
  | .returned _ => pure ()
  | _ => note (.dropped k g)
  pure (entered.map fun _ => k)

/-- The wrapper's frame is put on record. -/
def onRecord (t : ThreadId) (w : Wrapper) (s : Site π (Noted α)) : Site π (Noted α) :=
  (note (.pushed (s.guardOf t w)) s).2

/-- Runs a play inside a wrapper, the frame and its end on record around what the play
    puts there. -/
def wrapNoted (t : ThreadId) (w : Wrapper) (body : Play π (Noted α) β) : Play π (Noted α) β := do
  let s ← get
  let k := (handed s.deeds).length
  let g := s.guardOf t w
  note (.pushed g)
  let b ← inWrappers t [w] body
  note (.dropped k g)
  pure b

end Site

/-- Pushes frames, enters members, drops guards and wraps such programs on the thread, all
    of it on record, and whatever else leaves the frames of the thread and the record alone.
    To leak a guard is not to drop it; to panic is to drop what is not leaked, and go on. -/
inductive FrameProgram (t : ThreadId) : {β : Type} → Play π (Noted α) β → Prop
  | push (rt : RuntimeId) (m : MemberRef) : FrameProgram t (pushNoted t rt m)
  | drop (k : Nat) : FrameProgram t (dropNoted t k)
  | enter {invoke : Invoke π (Noted α)} (rt : RuntimeId) (m : MemberRef) :
      (∀ p c, FrameProgram t (invoke t p c)) → FrameProgram t (enterNoted invoke t rt m)
  | wrap {β : Type} {body : Play π (Noted α) β} (w : Wrapper) : FrameProgram t body →
      FrameProgram t (wrapNoted t w body)
  | bind {β γ : Type} {play : Play π (Noted α) β} {rest : β → Play π (Noted α) γ} : FrameProgram t play →
      (∀ b, FrameProgram t (rest b)) → FrameProgram t (play >>= rest)
  | aside {β : Type} {play : Play π (Noted α) β} :
      (∀ s, (play s).2.stack t = s.stack t ∧ (play s).2.deeds = s.deeds) → FrameProgram t play

/-- Sites that programs come to from `s` on, and those in the course of them: within an
    entry, where handlers are called, and within a wrapper. -/
inductive Attains (t : ThreadId) (s : Site π (Noted α)) : Site π (Noted α) → Prop
  | start : Attains t s s
  | play {s' : Site π (Noted α)} {β : Type} {play : Play π (Noted α) β} : Attains t s s' → FrameProgram t play →
      Attains t s (play s').2
  /-- The frame is on record, and pushed. -/
  | opened {s' : Site π (Noted α)} (w : Wrapper) : Attains t s s' →
      Attains t s ((s'.onRecord t w).opened t w)

/-! ## What is kept beside a site -/

namespace Site

variable {extra : α} {s : Site π α}

/-! Definitions and acts leave it alone. -/

theorem acting_extra (t : ThreadId) (id : EngineId) (fallback : β) (act : Host World → Act (Engine π) World β) :
    Keeps (·.extra = extra) (acting t id fallback act) := by
  intro s hs
  cases hf : s.slots.get? id with
  | none => rw [acting_none hf]; exact hs
  | some slot => rw [acting_at hf]; exact hs

theorem announceType_extra (t : ThreadId) (rt : RuntimeId) (owner : String) :
    Keeps (·.extra = extra) (announceType t rt owner : Play π α Unit) := by
  refine Keeps.bind (fun _ hs => hs) fun _ => Keeps.bind (fun _ hs => hs) fun ls => Keeps.forM fun l _ s hs => ?_
  cases l with
  | recorder id => exact hs
  | engine id =>
    rw [tellTypeLoaded_engine]
    split
    · exact acting_extra t id () _ s hs
    · exact hs

theorem announceThread_extra (t : ThreadId) (rt : RuntimeId) :
    Keeps (·.extra = extra) (announceThread t rt : Play π α Unit) := by
  refine Keeps.bind (fun _ hs => hs) fun ls => Keeps.forM fun l _ s hs => ?_
  cases l with
  | recorder id => exact hs
  | engine id =>
    rw [tellThreadDeclared_engine]
    split
    · exact acting_extra t id () _ s hs
    · exact hs

theorem pushFrame_extra (t : ThreadId) (rt : RuntimeId) (m : MemberRef) :
    Keeps (·.extra = extra) (pushFrame t rt m : Play π α FrameGuard) := by
  refine Keeps.bind (Keeps.bind (fun _ hs => hs) fun _ => Keeps.ite (fun _ => ?_) fun _ => Keeps.pure _) fun _ _ hs => hs
  exact Keeps.bind (announceType_extra t rt m.owner) fun _ => Keeps.pure _

theorem pushNoted_deeds (t : ThreadId) (rt : RuntimeId) (m : MemberRef) (s : Site π (Noted α)) :
    (pushNoted t rt m s).2.deeds = s.deeds ++ [.pushed (pushFrame t rt m s).1] :=
  congrArg (·.deeds ++ [.pushed (pushFrame t rt m s).1]) (pushFrame_extra t rt m s rfl)

theorem before_extra (t : ThreadId) (w : Wrapper) (s : Site π α) : (s.before t w).extra = s.extra := by
  cases w with
  | frame rt m => rfl
  | task rt =>
    show (s.joined t rt).extra = s.extra
    unfold joined
    split
    · rfl
    · exact announceThread_extra t rt _ rfl

/-- A guard depends on the process alone. -/
theorem guardOf_onRecord (s : Site π (Noted α)) : (s.onRecord t w).guardOf t w = s.guardOf t w := by
  rw [guardOf_eq, guardOf_eq]
  rfl

theorem note_deeds (d : Deed) (s : Site π (Noted α)) : (note d s).2.deeds = s.deeds ++ [d] := rfl

end Site

namespace Footing

variable {x : Footing π (Noted α)}

theorem deeds_push (x : Footing π (Noted α)) : (x.push t rt m).site.deeds = x.site.deeds :=
  congrArg Noted.deeds (pushFrame_extra t rt m x.site rfl)

/-- The frame of the wrapper is put on record, and then the wrapper is entered. -/
def opened (t : ThreadId) (w : Wrapper) (x : Footing π (Noted α)) : Footing π (Noted α) :=
  Footing.push t w.runtime w.member { x with site := (x.site.onRecord t w).before t w }

theorem opened_guards (x : Footing π (Noted α)) : (x.opened t w).guards = x.guards ++ [x.site.guardOf t w] :=
  congrArg (x.guards ++ [·]) (guardOf_onRecord x.site)

theorem opened_deeds (x : Footing π (Noted α)) :
    (x.opened t w).site.deeds = x.site.deeds ++ [.pushed (x.site.guardOf t w)] :=
  (deeds_push _).trans (congrArg Noted.deeds (before_extra t w (x.site.onRecord t w)))

/-- That is a walk, and its record is right. -/
theorem opened_walk (x : Footing π (Noted α)) : Walk t x [.pushed (x.site.guardOf t w)] (x.opened t w) := by
  let ready : Footing π (Noted α) := { x with site := (x.site.onRecord t w).before t w }
  have hready : Walk t x [] ready := Walk.start.aside _ (before_frames t w _)
  have hguard : ready.next t w.runtime w.member = x.site.guardOf t w := guardOf_onRecord x.site
  have hpush : Walk t x _ (x.opened t w) := hready.push w.runtime w.member
  rwa [hguard] at hpush

theorem opened_record (hx : x.guards = handed x.site.deeds) :
    (x.opened t w).guards = handed (x.opened t w).site.deeds := by
  rw [opened_guards, opened_deeds, handed_append, hx]
  rfl

theorem opened_frames (x : Footing π (Noted α)) :
    (x.opened t w).frames t = x.frames t ++ [(x.site.guardOf t w).operation] := by
  rw [← guardOf_onRecord x.site]
  exact opened_stack t w _

/-- The frame and those beneath it stay, unless its guard or an older one is dropped. -/
theorem opened_above {x y : Footing π (Noted α)} {since : List Deed} (h : Walk t (x.opened t w) since y)
    (hnewer : ∀ j g, .dropped j g ∈ since → x.guards.length < j) : (x.opened t w).frames t <+: y.frames t :=
  (h.above hnewer).1

theorem opened_drop {x y : Footing π (Noted α)} {since : List Deed} (h : Walk t (x.opened t w) since y)
    (hnewer : ∀ j g, .dropped j g ∈ since → x.guards.length < j) :
    (y.drop t (x.site.guardOf t w)).frames t = x.frames t := by
  obtain ⟨above, hframes⟩ := opened_above h hnewer
  rw [frames_drop, guardOf_depth, ← hframes, opened_frames, List.append_assoc]
  exact List.take_left

end Footing

/-! ## Plays that walk -/

/-- What the play does to the frames of the thread is a walk, and that walk is put on record. -/
def Treads (t : ThreadId) (play : Play π (Noted α) β) : Prop :=
  ∀ x : Footing π (Noted α), x.guards = handed x.site.deeds →
    ∃ since y, Walk t x since y ∧ y.site = (play x.site).2 ∧ y.site.deeds = x.site.deeds ++ since

namespace Treads

theorem aside {play : Play π (Noted α) β}
    (h : ∀ s, (play s).2.stack t = s.stack t ∧ (play s).2.deeds = s.deeds) : Treads t play :=
  fun x _ => ⟨[], _, Walk.start.aside _ (List.reverse_injective (h x.site).1), rfl,
    (h x.site).2.trans (List.append_nil _).symm⟩

theorem pure (b : β) : Treads t (pure b : Play π (Noted α) β) := aside fun _ => ⟨rfl, rfl⟩

theorem bind {play : Play π (Noted α) β} {rest : β → Play π (Noted α) γ} (h : Treads t play)
    (h' : ∀ b, Treads t (rest b)) : Treads t (play >>= rest) := by
  intro x hx
  obtain ⟨since, y, hy, hsite, hdeeds⟩ := h x hx
  have hyguards : y.guards = handed y.site.deeds := by rw [hy.guards, hx, hdeeds, handed_append]
  obtain ⟨since', z, hz, hsite', hdeeds'⟩ := h' (play x.site).1 y hyguards
  refine ⟨_, z, hy.trans hz, ?_, ?_⟩
  · rw [hsite', hsite]
    rfl
  · rw [hdeeds', hdeeds, List.append_assoc]

theorem get {rest : Site π (Noted α) → Play π (Noted α) β} (h : ∀ s, Treads t (rest s)) : Treads t (get >>= rest) :=
  fun x hx => h x.site x hx

theorem push (rt : RuntimeId) (m : MemberRef) : Treads t (pushNoted t rt m : Play π (Noted α) Nat) := by
  intro x _
  exact ⟨_, _, (Walk.start.push rt m).aside (note (.pushed (x.next t rt m)) (x.push t rt m).site).2 rfl, rfl,
    pushNoted_deeds t rt m x.site⟩

theorem drop (k : Nat) : Treads t (dropNoted t k : Play π (Noted α) Unit) := by
  intro x hx
  have hplay : dropNoted t k x.site = (match (handed x.site.deeds)[k]? with
    | none => Pure.pure ()
    | some g => do
      dropFrame t g
      note (.dropped k g) : Play π (Noted α) Unit) x.site := rfl
  rw [hplay]
  cases hg : (handed x.site.deeds)[k]? with
  | none => exact ⟨[], x, .start, rfl, (List.append_nil _).symm⟩
  | some g =>
    exact ⟨_, _, (Walk.start.drop (hx.symm ▸ hg)).aside (note (.dropped k g) (x.drop t g).site).2 rfl, rfl, rfl⟩

end Treads

namespace Site

variable {id : EngineId} {invoke : Invoke π (Noted α)}

theorem setChecking_treads (b : Bool) : Treads t (setChecking t b : Play π (Noted α) Unit) :=
  .aside fun s => ⟨stack_of_frames ((congrArg Thread.frames
    (Process.thread_changeThread_self s.process t fun th => { th with checking := b })).trans rfl), rfl⟩

theorem checking_treads (inside : β) {play : Play π (Noted α) β} (h : Treads t play) :
    Treads t (checking t inside play) := by
  refine Treads.get fun s => ?_
  split
  · exact Treads.pure inside
  · exact (setChecking_treads true).bind fun _ => h.bind fun _ => (setChecking_treads false).bind fun _ => Treads.pure _

theorem keepingAlive_treads {play : Play π (Noted α) β} (h : Treads t play) : Treads t (keepingAlive id play) :=
  Treads.bind (.aside fun _ => ⟨rfl, rfl⟩) fun _ => h.bind fun _ =>
    Treads.bind (.aside fun _ => ⟨rfl, rfl⟩) fun _ => Treads.pure _

theorem acting_treads (thread : ThreadId) (fallback : β) {act : Host World → Act (Engine π) World β} (h : Tame act) :
    Treads t (acting thread id fallback act : Play π (Noted α) β) := by
  refine .aside fun s => ⟨?_, congrArg Noted.deeds (acting_extra thread id fallback act s rfl)⟩
  cases hf : s.slots.get? id with
  | none => rw [acting_none hf]
  | some slot =>
    have hthreads := (h slot.host thread slot.engine s.world).threads
    rw [acting_at hf]
    exact stack_of_frames (congrArg (fun threads => ((threads.get? t).getD {}).frames) hthreads)

/-- An entry that fails, in whatever way, drops its guard last. -/
theorem afterTelling_cases (t : ThreadId) (g : FrameGuard) (r : Outcome Unit × Site π α) :
    afterTelling t g r = (.returned g, r.2) ∨
      (∀ g', (afterTelling t g r).1 ≠ .returned g') ∧ (afterTelling t g r).2 = (dropFrame t g r.2).2 := by
  obtain ⟨o, s⟩ := r
  cases o with
  | returned _ => exact .inl rfl
  | raised c => exact .inr ⟨nofun, rfl⟩
  | panicked message => exact .inr ⟨nofun, rfl⟩

/-- The guard of the frame that was put on record is dropped, and that is put on record. -/
theorem drops_opened {x y : Footing π (Noted α)} {since : List Deed} (hx : x.guards = handed x.site.deeds)
    (hy : Walk t (x.opened t w) since y) : Walk t x (.pushed (x.site.guardOf t w) :: since ++
      [.dropped (handed x.site.deeds).length (x.site.guardOf t w)]) (y.drop t (x.site.guardOf t w)) := by
  refine ((Footing.opened_walk x).trans hy).drop (hy.guard ?_)
  rw [Footing.opened_guards, ← hx]
  exact List.getElem?_concat_length

theorem wrapNoted_at (t : ThreadId) (w : Wrapper) (body : Play π (Noted α) β) (s : Site π (Noted α)) :
    (wrapNoted t w body s).2 = (note (.dropped (handed s.deeds).length (s.guardOf t w))
      ((s.onRecord t w).closed t w (body ((s.onRecord t w).opened t w)).2)).2 := by
  have hrun : inWrappers t [w] body (note (.pushed (s.guardOf t w)) s).2 = _ := inWrapper_at t w body (s.onRecord t w)
  unfold wrapNoted
  rw [bind_at, get_at]
  dsimp only
  rw [bind_at, bind_at, hrun]
  rfl

theorem wrapNoted_treads {body : Play π (Noted α) β} (w : Wrapper) (h : Treads t body) :
    Treads t (wrapNoted t w body) := by
  intro x hx
  obtain ⟨since, y, hy, hsite, hdeeds⟩ := h (x.opened t w) (Footing.opened_record hx)
  let s₁ := x.site.onRecord t w
  have hat := (wrapNoted_at t w body x.site).trans (congrArg (fun s =>
    (note (.dropped (handed x.site.deeds).length (x.site.guardOf t w)) (s₁.closed t w s)).2) hsite.symm)
  have hframes : ((s₁.closed t w y.site).process.thread t).frames =
      ((dropFrame t (x.site.guardOf t w) y.site).2.process.thread t).frames := by
    rw [closed, after_frames, guardOf_onRecord]
  have hclosed : (s₁.closed t w y.site).deeds = y.site.deeds := by cases w <;> rfl
  refine ⟨_, _, (drops_opened hx hy).aside (wrapNoted t w body x.site).2 ?_, rfl, ?_⟩
  · rw [hat]
    exact hframes
  · rw [hat, note_deeds, hclosed, hdeeds, Footing.opened_deeds, List.append_assoc, List.append_assoc]
    rfl

variable (hi : ∀ p c, Treads t (invoke t p c))

include hi

theorem respond_treads (h : Handler π) (c : BlockingCall) : Treads t (respond invoke t h c) := by
  cases h with
  | fail => exact Treads.pure _
  | log => exact .aside fun _ => ⟨rfl, rfl⟩
  | panic => exact Treads.pure _
  | program p => exact hi p c

theorem judge_treads (thread : Host World → World → ThreadId) (op : OperationId) (start : ScanStart) :
    Treads t (judge invoke t id thread op start) := by
  have hcheck : Tame (fun h => do
      let asked ← Act.ask fun w => (thread h w, w)
      Engine.watch (Monitor.check h asked op start) : Host World → Act (Engine π) World (Option BlockingCall)) :=
    fun h t e w => @Use.tame π id (.check (thread (World.host h t) w) op start) h t e w
  refine (acting_treads t none hcheck).bind fun found => Treads.get fun s => ?_
  split
  · exact respond_treads hi _ _
  · exact Treads.pure _

theorem breakpointReached_treads (thread : ThreadId) (op : OperationId) :
    Treads t (breakpointReached invoke t id thread op) := by
  have hhit : Treads t (hit t id op : Play π (Noted α) Bool) := .aside fun s =>
    ⟨stack_of_frames (congrArg Thread.frames ((hit_calm t id op s (.refl s)).thread t)),
      congrArg Noted.deeds (acting_extra t id false _ s rfl)⟩
  refine keepingAlive_treads (Treads.bind hhit fun mine => ?_)
  cases mine with
  | true => exact checking_treads _ (judge_treads hi _ op .breakpoint)
  | false => exact Treads.pure _

theorem tellBreakpoint_treads (thread : ThreadId) (op : OperationId) (l : Listener) :
    Treads t (tellBreakpoint invoke t thread op l) := by
  cases l with
  | engine id =>
    refine Treads.get fun s => ?_
    split
    · exact breakpointReached_treads hi thread op
    · exact Treads.pure _
  | recorder id =>
    have hhear : Treads t (hear id .breakpoint : Play π (Noted α) Unit) := .aside fun _ => ⟨rfl, rfl⟩
    refine hhear.bind fun _ => Treads.get fun s => ?_
    cases (s.recorders.get? id).bind Recorder.reject <;> exact Treads.pure _

theorem tellBreakpoints_treads (thread : ThreadId) (op : OperationId) (ls : List Listener) :
    Treads t (tellBreakpoints invoke t thread op ls) := by
  induction ls with
  | nil => exact Treads.pure _
  | cons l ls ih =>
    refine (tellBreakpoint_treads hi thread op l).bind fun r => ?_
    cases r with
    | returned _ => exact ih
    | raised _ => exact Treads.pure _
    | panicked _ => exact Treads.pure _

/-- An entry that is on record pushes its frame, and then handlers may walk; if it fails,
    however it does, the last thing is that the guard is dropped. -/
theorem enter_walk (x : Footing π (Noted α)) (hx : x.guards = handed x.site.deeds) (rt : RuntimeId) (m : MemberRef) :
    ∃ since y, Walk t (x.opened t (.frame rt m)) since y ∧
      y.site.deeds = x.site.deeds ++ .pushed (x.next t rt m) :: since ∧
      ((enter invoke t rt m (note (.pushed (x.next t rt m)) x.site).2 = (.returned (x.next t rt m), y.site)) ∨
        (∀ g, (enter invoke t rt m (note (.pushed (x.next t rt m)) x.site).2).1 ≠ .returned g) ∧
          (enter invoke t rt m (note (.pushed (x.next t rt m)) x.site).2).2 =
            (y.drop t (x.next t rt m)).site) := by
  have hguard : (pushFrame t rt m (note (.pushed (x.next t rt m)) x.site).2).1 = x.next t rt m :=
    guardOf_onRecord (w := .frame rt m) x.site
  rw [enter_at, hguard]
  split
  · have hlisteners : Treads t (listeners rt : Play π (Noted α) (List Listener)) := .aside fun s =>
      ⟨stack_of_frames (congrArg Thread.frames ((listeners_calm rt s (.refl s)).thread t)), rfl⟩
    let z := x.opened t (.frame rt m)
    obtain ⟨since, y, hy, hsite, hdeeds⟩ := (hlisteners.bind fun ls =>
      tellBreakpoints_treads hi t (x.next t rt m).operation ls) z (Footing.opened_record hx)
    rw [Footing.opened_deeds, List.append_assoc] at hdeeds
    refine ⟨since, y, hy, hdeeds, ?_⟩
    obtain hreturned | ⟨hfailed, hdropped⟩ := afterTelling_cases t (x.next t rt m)
      (tellBreakpoints invoke t t (x.next t rt m).operation (listeners rt z.site).1 (listeners rt z.site).2)
    · exact .inl (hreturned.trans (congrArg (Prod.mk _) hsite.symm))
    · exact .inr ⟨hfailed, hdropped.trans (congrArg (fun s => (dropFrame t (x.next t rt m) s).2) hsite.symm)⟩
  · exact ⟨[], _, .start, Footing.opened_deeds x, .inl rfl⟩

/-! ### Entries on record -/

omit hi in
theorem enterNoted_returned {s s' : Site π (Noted α)} {g : FrameGuard}
    (h : enter invoke t rt m (note (.pushed (pushFrame t rt m s).1) s).2 = (.returned g, s')) :
    enterNoted invoke t rt m s = (.returned (handed s.deeds).length, s') := by
  unfold enterNoted
  rw [bind_at, get_at]
  dsimp only
  rw [bind_at, bind_at, h]
  rfl

omit hi in
theorem enterNoted_failed {s : Site π (Noted α)}
    (h : ∀ g, (enter invoke t rt m (note (.pushed (pushFrame t rt m s).1) s).2).1 ≠ .returned g) :
    (enterNoted invoke t rt m s).2 = (note (.dropped (handed s.deeds).length (pushFrame t rt m s).1)
      (enter invoke t rt m (note (.pushed (pushFrame t rt m s).1) s).2).2).2 := by
  unfold enterNoted
  rw [bind_at, get_at]
  dsimp only
  rw [bind_at, bind_at]
  generalize enter invoke t rt m (note (.pushed (pushFrame t rt m s).1) s).2 = r at h
  obtain ⟨o, s'⟩ := r
  cases o with
  | returned g => exact absurd rfl (h g)
  | raised c => rfl
  | panicked message => rfl

theorem enterNoted_treads (rt : RuntimeId) (m : MemberRef) : Treads t (enterNoted invoke t rt m) := by
  intro x hx
  obtain ⟨since, y, hy, hdeeds, hreturned | ⟨hfailed, hdropped⟩⟩ := enter_walk hi x hx rt m
  · exact ⟨_, y, (Footing.opened_walk x).trans hy, (congrArg Prod.snd (enterNoted_returned hreturned)).symm, hdeeds⟩
  · have hnoted := (enterNoted_failed hfailed).trans
      (congrArg (fun s => (note (.dropped (handed x.site.deeds).length (x.next t rt m)) s).2) hdropped)
    refine ⟨_, _, (drops_opened hx hy).aside (enterNoted invoke t rt m x.site).2 ?_, rfl, ?_⟩
    · rw [hnoted]
      rfl
    · rw [hnoted]
      exact (congrArg (· ++ [_]) hdeeds).trans (List.append_assoc _ _ _)

end Site

/-- The frames of the thread go the walk that a program puts on record. -/
theorem FrameProgram.treads {play : Play π (Noted α) β} (h : FrameProgram t play) : Treads t play := by
  induction h with
  | push rt m => exact .push rt m
  | drop k => exact .drop k
  | enter rt m _ ih => exact enterNoted_treads ih rt m
  | wrap w _ ih => exact wrapNoted_treads w ih
  | bind _ _ ih ih' => exact ih.bind ih'
  | aside h => exact .aside h

/-- So they do on all sites that are come to. -/
theorem Attains.walk {x : Footing π (Noted α)} (hx : x.guards = handed x.site.deeds) {s' : Site π (Noted α)}
    (h : Attains t x.site s') :
    ∃ since y, Walk t x since y ∧ y.site = s' ∧ y.guards = handed y.site.deeds ∧
      y.site.deeds = x.site.deeds ++ since := by
  induction h with
  | start => exact ⟨[], x, .start, rfl, hx, (List.append_nil _).symm⟩
  | play _ hplay ih =>
    obtain ⟨since, y, hy, rfl, hguards, hdeeds⟩ := ih
    obtain ⟨since', z, hz, hsite, hdeeds'⟩ := hplay.treads y hguards
    refine ⟨_, z, hy.trans hz, hsite, ?_, ?_⟩
    · rw [hz.guards, hguards, hdeeds', handed_append]
    · rw [hdeeds', hdeeds, List.append_assoc]
  | opened w _ ih =>
    obtain ⟨since, y, hy, rfl, hguards, hdeeds⟩ := ih
    refine ⟨_, y.opened t w, hy.trans (Footing.opened_walk y), rfl, Footing.opened_record hguards, ?_⟩
    rw [Footing.opened_deeds, hdeeds, List.append_assoc]

/-! ## From an empty stack on -/

/-- The frames of the thread belong to the guards of these numbers, outermost first. -/
structure Owned (t : ThreadId) (s : Site π (Noted α)) (owners : List Nat) : Prop where
  length : owners.length = (s.stack t).length
  /-- A frame stands where its guard says, and that guard has not been dropped. -/
  place : ∀ i k, owners[i]? = some k → ∃ g : FrameGuard, (handed s.deeds)[k]? = some g ∧ g.depth = i ∧
    (s.stack t)[i]? = some g.operation ∧ ∀ g', .dropped k g' ∉ s.deeds
  /-- A guard has no frame exactly if one that is no deeper was dropped in its lifetime, or
      it was itself. -/
  missing : ∀ k < (handed s.deeds).length, k ∉ owners ↔ Cut s.deeds k

theorem Footing.Sound.owned {x : Footing π (Noted α)} (h : x.Sound t x.site.deeds) : Owned t x.site x.owners := by
  refine ⟨h.length, fun i k hi => ?_, fun k hk => ?_⟩
  · obtain ⟨g, hg, hd, hop⟩ := h.place i k hi
    exact ⟨g, h.guards ▸ hg, hd, hop, fun g' hk => (h.live k g' hk).2 (List.mem_of_getElem? hi)⟩
  · rw [h.kept k (h.guards ▸ hk), not_not]

/-- What is left of an entry that got the guard `g` on `s`, if nothing that handlers dropped
    in its course is older than its frame: it returned the guard, and the frame is there, on
    top if they left the frames alone; or it failed, in whatever way, and the stack is what
    it was. -/
def EntryEnds (t : ThreadId) (g : FrameGuard) (s : Site π (Noted α)) (r : Outcome FrameGuard × Site π (Noted α)) : Prop :=
  ∃ since, r.2.deeds = s.deeds ++ .pushed g :: since ∧
    ((∀ j g', .dropped j g' ∈ since → (handed s.deeds).length < j) →
      (r.1 = .returned g ∧ s.stack t ++ [g.operation] <+: r.2.stack t ∧
        (since = [] → r.2.stack t = s.stack t ++ [g.operation])) ∨
      ((∀ g', r.1 ≠ .returned g') ∧ r.2.stack t = s.stack t))

/-- What an entry of `m` leaves whose frame is put on record. -/
def EntryStands (entry : Play π (Noted α) (Outcome FrameGuard)) (t : ThreadId) (rt : RuntimeId) (m : MemberRef)
    (s : Site π (Noted α)) : Prop :=
  let g := (pushFrame t rt m s).1
  EntryEnds t g s (entry (note (.pushed g) s).2)

theorem enter_stands {invoke : Invoke π (Noted α)} (hi : ∀ p c, Treads t (invoke t p c)) {x : Footing π (Noted α)}
    (hx : x.guards = handed x.site.deeds) : EntryStands (enter invoke t rt m) t rt m x.site := by
  obtain ⟨since, y, hy, hdeeds, hended⟩ := enter_walk hi x hx rt m
  show EntryEnds t (x.next t rt m) x.site (enter invoke t rt m (note (.pushed (x.next t rt m)) x.site).2)
  generalize enter invoke t rt m (note (.pushed (x.next t rt m)) x.site).2 = r at hended
  have hopened : (x.opened t (.frame rt m)).frames t = x.site.stack t ++ [(x.next t rt m).operation] :=
    Footing.opened_frames x
  obtain rfl | ⟨hfailed, hdropped⟩ := hended
  · refine ⟨since, hdeeds, fun hnewer => .inl ⟨rfl, ?_, fun hnone => ?_⟩⟩
    · rw [← hopened]
      exact Footing.opened_above hy (hx ▸ hnewer)
    · subst hnone
      exact hy.idle.trans hopened
  · refine ⟨since, ?_, fun hnewer => .inr ⟨hfailed, ?_⟩⟩
    · exact (congrArg Site.deeds hdropped).trans hdeeds
    · have hback : (y.drop t (x.next t rt m)).frames t = x.frames t :=
        Footing.opened_drop (w := .frame rt m) hy (hx ▸ hnewer)
      rw [hdropped]
      exact hback

/-- To panic instead of raising changes nothing but that. -/
theorem EntryEnds.orPanic {g : FrameGuard} {s : Site π (Noted α)} {r : Outcome FrameGuard × Site π (Noted α)}
    (h : EntryEnds t g s r) : EntryEnds t g s (r.1.orPanic, r.2) := by
  obtain ⟨since, hdeeds, hended⟩ := h
  refine ⟨since, hdeeds, fun hnewer => ?_⟩
  obtain ⟨hreturned, hthere⟩ | ⟨hfailed, hback⟩ := hended hnewer
  · exact .inl ⟨congrArg Outcome.orPanic hreturned, hthere⟩
  · exact .inr ⟨fun g' hg' => hfailed g' (Outcome.orPanic_eq_returned.1 hg'), hback⟩

/-- On all sites that programs come to on a thread that started without frames: every frame
    stands at the depth that its guard recorded, and that guard has not been dropped; a guard
    has no frame exactly if one that is no deeper was dropped in its lifetime, or it was
    itself. Whatever comes next, if the first of it is that a frame is pushed and the last
    that its guard is dropped, and no older one was dropped between, the stack is what it
    was before. And entries stand, those that panic instead of raising among them. -/
theorem frames_belong_to_guards {s s' : Site π (Noted α)} (hs : (s.process.thread t).frames = [])
    (hnone : s.deeds = []) (h : Attains t s s') :
    (∃ owners, Owned t s' owners) ∧
      (∀ s'', Attains t s' s'' → ∀ g g' mid,
        s''.deeds = s'.deeds ++ .pushed g :: (mid ++ [.dropped (handed s'.deeds).length g']) →
        (∀ j g, .dropped j g ∈ mid → (handed s'.deeds).length < j) → s''.stack t = s'.stack t) ∧
      ∀ (rt : RuntimeId) (m : MemberRef) (invoke : Invoke π (Noted α)),
        (∀ p c, FrameProgram t (invoke t p c)) →
        EntryStands (enter invoke t rt m) t rt m s' ∧ EntryStands (enterOrPanic invoke t rt m) t rt m s' := by
  obtain ⟨past, x, hx, rfl, hguards, hdeeds⟩ := Attains.walk (x := .begin s) (congrArg handed hnone).symm h
  have hrecord : x.site.deeds = past := hdeeds.trans (congrArg (· ++ past) hnone)
  have hsound : x.Sound t x.site.deeds := hrecord ▸ hx.sound (.begin hs)
  refine ⟨⟨_, hsound.owned⟩, fun s'' hs'' g g' mid hgrown hnewer => ?_, fun rt m invoke hi => ?_⟩
  · obtain ⟨since, y, hy, rfl, -, hsince⟩ := hs''.walk hguards
    obtain rfl := List.append_cancel_left (hsince.symm.trans hgrown)
    rw [← hguards] at hy hnewer
    exact hy.restores hnewer
  · have hstands : EntryStands (enter invoke t rt m) t rt m x.site := enter_stands (fun p c => (hi p c).treads) hguards
    exact ⟨hstands, hstands.orPanic⟩

/-- An entry is refused by a handler that leaves a frame behind: it goes with that of the
    entry. Its guard is dropped when the stack has grown again, and takes off the frame that
    stands where its own stood. -/
theorem stale_guard_cuts_in_its_place :
    let t : ThreadId := ⟨1⟩
    let r : RuntimeId := ⟨"r"⟩
    let member (name : String) : MemberRef := ⟨"a::B", name, false, false⟩
    let plan : Plan Unit := { policy := Policy.empty.markBlocking (member "f").key, handler := .program () }
    let s : Site Unit (Noted Unit) := (Move.playAll (bare {} ⟨[], ()⟩) [.openRuntime t r [member "f"],
      .build t (.runtime r) plan, .declare t r [defaultMarker]]).2
    let invoke : Invoke Unit (Noted Unit) := fun _ _ c => pushNoted t r (member "h") >>= fun _ => pure (.raised c)
    let s₁ := (pushNoted t r (member "g") s).2
    let g := (pushFrame t r (member "f") s₁).1
    let entered := enter invoke t r (member "f") (note (.pushed g) s₁).2
    let play : Play Unit (Noted Unit) Unit := pushNoted t r (member "g") >>= fun _ =>
      enterNoted invoke t r (member "f") >>= fun _ => pushNoted t r (member "i") >>= fun _ =>
      pushNoted t r (member "j") >>= fun _ => dropNoted t 2
    entered.2.stack t = s₁.stack t ∧ ((play s).2.stack t).length = 2 ∧ Cut (play s).2.deeds 4 := by
  intro t r member plan s invoke s₁ g entered play
  have hs : (s.process.thread t).frames = [] := by decide +kernel
  have hnone : s.deeds = [] := by decide +kernel
  have hi : ∀ p c, FrameProgram t (invoke t p c) := fun _ _ =>
    .bind (.push r _) fun _ => .aside fun _ => ⟨rfl, rfl⟩
  have hplay : FrameProgram t play :=
    .bind (.push r _) fun _ => .bind (.enter r _ hi) fun _ => .bind (.push r _) fun _ => .bind (.push r _) fun _ => .drop 2
  have hlength : ((play s).2.stack t).length = 2 := by decide +kernel
  refine ⟨?_, hlength, ?_⟩
  · obtain ⟨-, -, hentries⟩ := frames_belong_to_guards hs hnone (.play .start (.push r (member "g")))
    obtain ⟨⟨since, hdeeds, hstands⟩, -⟩ := hentries r (member "f") invoke hi
    have hrecord : entered.2.deeds = [.pushed ⟨⟨firstNumber + 1⟩, 0⟩, .pushed ⟨⟨firstNumber⟩, 1⟩,
        .pushed ⟨⟨firstNumber + 2⟩, 2⟩] := by decide +kernel
    have hpushes : ∀ j g', .dropped j g' ∉ since := by
      intro j g' hj
      have hin : .dropped j g' ∈ entered.2.deeds := hdeeds ▸ List.mem_append_right _ (.tail _ hj)
      simp [hrecord] at hin
    obtain ⟨hback, -⟩ | ⟨-, hrestored⟩ := hstands fun j g' hj => absurd hj (hpushes j g')
    · exact absurd hback (by decide +kernel)
    · exact hrestored
  · obtain ⟨⟨owners, howned⟩, -⟩ := frames_belong_to_guards hs hnone (.play .start hplay)
    refine (howned.missing 4 (by decide +kernel)).1 fun hin => ?_
    obtain ⟨i, hi⟩ := List.mem_iff_getElem?.1 hin
    obtain ⟨g, hg, hdepth, -⟩ := howned.place i 4 hi
    have hlt : i < 2 := hlength ▸ howned.length ▸ (List.getElem?_eq_some_iff.1 hi).1
    have hdeep : ((handed (play s).2.deeds)[4]?).map FrameGuard.depth = some 2 := by decide +kernel
    rw [hg] at hdeep
    obtain rfl : 2 = i := (Option.some.inj hdeep).symm.trans hdepth
    exact absurd hlt (Nat.lt_irrefl 2)

end StallGuard
