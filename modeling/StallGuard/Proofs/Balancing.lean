/-
  StallGuard.Proofs.Balancing — calls and polls in frames of their own, one inside another.

  A service is called in the frame of its member, and the future it gives is polled in such
  a frame; a task is polled in a frame too, and holds its mark besides. All of them are
  plays put into wrappers. Where such a play starts, and what is left when it has ended, is
  said of every play (`Site.Wraps`). A program that drops no guard older than the call or
  poll it runs in keeps the frames it started with, whatever it pushes, leaves behind, calls
  and polls in the course of it, and the stack is in the end that of the entry
  (`Site.Balances`).
  - `callService_runs`, `pollFuture_runs`: services and futures run their steps so.
  - `context_at`: what an engine says of a context, by the frames and the last requests.
  - `wrapped_calls_balanced`: all of it.
-/

import StallGuard.Proofs.Owning
import StallGuard.Proofs.Polling
import StallGuard.Scenario.Futures

namespace StallGuard

open Site

variable {π α β : Type} {t : ThreadId} {rt : RuntimeId} {id : EngineId} {w : Wrapper} {k : Nat}

/-! ## What engines say -/

/-- Of these frames, innermost first, one within the bound was disallowed and none allowed. -/
def Denied (plan : Plan π) (id : EngineId) (since : List Event) (r : Runtime) (frames : List OperationId) : Prop :=
  (∃ op ∈ frames.take plan.settings.depth, lastWord plan id since r op = some false) ∧
    ∀ op ∈ frames.take plan.settings.depth, lastWord plan id since r op ≠ some true

instance (plan : Plan π) (id : EngineId) (since : List Event) (r : Runtime) (frames : List OperationId) :
    Decidable (Denied plan id since r frames) := inferInstanceAs (Decidable (_ ∧ _))

/-- An engine on the runtime is alive and hooked by requests only, and the thread is in no check. -/
structure Site.Asks (t : ThreadId) (rt : RuntimeId) (plan : Plan π) (id : EngineId) (since : List Event)
    (s : Site π α) : Prop where
  built : ∃ past, Built rt plan id past since s
  alive : s.alive id = true
  requests : ∀ ev ∈ since, ev ≠ .hooked id
  outside : s.isChecking t = false

namespace Site

variable {plan : Plan π} {since : List Event} {s : Site π α}

/-- A context is blocking exactly if the thread is restricted and denied it by its frames. -/
theorem context_at (h : s.Asks t rt plan id since) :
    (isBlockingContext t id s).1 = true ↔
      (askRestricted t id s).1 = true ∧ Denied plan id since (s.process.runtime rt) (s.process.thread t).frames := by
  obtain ⟨past, hbuilt⟩ := h.built
  obtain ⟨slot, hf, hh, hcat, hminds⟩ := hbuilt.minds h.alive
  rw [isBlockingContext_at hf hh h.outside, decide_eq_true_iff, askRestricted_at hf hh,
    hminds.condemns_iff (hcat.distinct rt) h.requests]
  unfold ThreadRegister.finds Denied
  rw [hminds.follows.restricts]
  simp only [ScanStart.context, List.drop_zero, Bool.false_eq_true, false_or]
  exact and_congr_right fun _ => and_comm

/-- Where the innermost frame is that of a member last disallowed, it denies the context,
    unless one within the bound allows it. -/
theorem denied_context_at (h : s.Asks t rt plan id since) {key : MemberKey} {op : OperationId}
    (hop : (s.process.runtime rt).operation? key = some op) {outer : List OperationId}
    (hstack : s.stack t = outer ++ [op]) (hlast : lastRequest plan id since key = some false) :
    (isBlockingContext t id s).1 = true ↔ (askRestricted t id s).1 = true ∧
      ∀ op ∈ (s.process.thread t).frames.take plan.settings.depth,
        lastWord plan id since (s.process.runtime rt) op ≠ some true := by
  obtain ⟨past, hbuilt⟩ := h.built
  obtain ⟨slot, -, -, hcat, hminds⟩ := hbuilt.minds h.alive
  have hdepth : 0 < plan.settings.depth := by
    rw [← Settings.window_depth hminds.follows.window]
    exact Window.depth_pos _
  have hframes : (s.process.thread t).frames = op :: outer.reverse := by
    rw [← List.reverse_reverse (s.process.thread t).frames, ← stack, hstack, List.reverse_concat]
  obtain ⟨i, hi, hkey⟩ := (Runtime.operation?_eq_some (hcat.distinct rt)).1 hop
  have hown : lastWord plan id since (s.process.runtime rt) op = some false := by
    rw [lastWord, hi, Option.bind_some, hkey, hlast]
  have hin : op ∈ (s.process.thread t).frames.take plan.settings.depth := by
    rw [hframes, ← Nat.succ_pred_eq_of_pos hdepth]
    exact .head _
  rw [context_at h]
  exact and_congr_right fun _ => and_iff_right ⟨_, hin, hown⟩

/-! ## Plays in wrappers -/

/-- What it comes to that a play is put into these wrappers from `s` on. -/
structure Wraps (t : ThreadId) (ws : List Wrapper) (s : Site π α) : Prop where
  /-- The play runs from the wrapped site on, and all that comes of it is what it leaves there. -/
  runs : ∀ (β : Type) (body : Play π α β),
    inWrappers t ws body s = ((body (s.wrapped t ws)).1, s.unwrapped t ws (body (s.wrapped t ws)).2)
  /-- It starts with the stack of the entry and the frames of the wrappers' members on top. -/
  starts : ∃ ops, (s.wrapped t ws).stack t = s.stack t ++ ops ∧ List.Forall₂ (fun (w : Wrapper) op =>
    ((s.wrapped t ws).process.runtime w.runtime).operation? w.member.key = some op) ws ops
  /-- When it has ended the stack is cut to its height at the entry, so it is that of the
      entry if the play left it in place. -/
  ends : ws ≠ [] → ∀ (β : Type) (body : Play π α β), (inWrappers t ws body s).2.stack t =
    ((body (s.wrapped t ws)).2.stack t).take (s.stack t).length
  /-- If the innermost member was last disallowed the context is blocking where the play
      starts, on a thread that is restricted, unless a frame within the bound was allowed. -/
  denies : ∀ w, ws.getLast? = some w → ∀ (plan : Plan π) id since, (s.wrapped t ws).Asks t w.runtime plan id since →
    lastRequest plan id since w.member.key = some false →
    ((isBlockingContext t id (s.wrapped t ws)).1 = true ↔ (askRestricted t id (s.wrapped t ws)).1 = true ∧
      ∀ op ∈ ((s.wrapped t ws).process.thread t).frames.take plan.settings.depth,
        lastWord plan id since ((s.wrapped t ws).process.runtime w.runtime) op ≠ some true)
  /-- After its end the frames of the entry decide, and nothing else of the thread but
      whether it is restricted. -/
  outside : ws ≠ [] → ∀ (β : Type) (body : Play π α β), s.stack t <+: (body (s.wrapped t ws)).2.stack t →
    ∀ rt (plan : Plan π) id since, (inWrappers t ws body s).2.Asks t rt plan id since →
    ((isBlockingContext t id (inWrappers t ws body s).2).1 = true ↔
      (askRestricted t id (inWrappers t ws body s).2).1 = true ∧
        Denied plan id since ((inWrappers t ws body s).2.process.runtime rt) (s.process.thread t).frames)

theorem inWrappers_stack (t : ThreadId) {ws : List Wrapper} (hne : ws ≠ []) (body : Play π α β) (s : Site π α) :
    (inWrappers t ws body s).2.stack t = ((body (s.wrapped t ws)).2.stack t).take (s.stack t).length := by
  rw [inWrappers_at, unwrapped_stack t hne]

theorem wraps (t : ThreadId) (ws : List Wrapper) (s : Site π α) : s.Wraps t ws where
  runs _ body := inWrappers_at t ws body s
  starts := wrapped_stack t ws s
  ends hne _ body := inWrappers_stack t hne body s
  denies w hw plan id since hasks hlast := by
    obtain ⟨outer, rfl⟩ := List.getLast?_eq_some_iff.1 hw
    rw [wrapped_concat] at hasks ⊢
    exact denied_context_at hasks (opened_operation t w _) (opened_stack t w _) hlast
  outside hne _ body hkept rt plan id since hasks := by
    have hstack : (inWrappers t ws body s).2.stack t = s.stack t := by
      rw [inWrappers_stack t hne, ← List.prefix_iff_eq_take.1 hkept]
    rw [context_at hasks, List.reverse_injective hstack]

/-! ### Programs in a wrapper -/

/-- From `s` to `s'` no guard was dropped but newer ones than number `k`. -/
def DropsNewer (k : Nat) (s s' : Site π (Noted α)) : Prop :=
  ∃ since, s'.deeds = s.deeds ++ since ∧ ∀ j g, .dropped j g ∈ since → k < j

/-- A program that runs in this wrapper from `s` on, and drops no guard that is as old as
    the wrapper's frame or older. -/
structure Balances (t : ThreadId) (w : Wrapper) (s : Site π (Noted α)) : Prop where
  /-- As long as it runs, the stack it started with stays beneath whatever it pushes, in
      what it calls and polls itself, too. -/
  stays : ∀ s', Attains t ((s.onRecord t w).opened t w) s' →
    DropsNewer (handed s.deeds).length ((s.onRecord t w).opened t w) s' →
    s.stack t ++ [(s.guardOf t w).operation] <+: s'.stack t
  /-- When it has ended the stack is that of the entry. -/
  ends : ∀ (β : Type) (body : Play π (Noted α) β), FrameProgram t body →
    DropsNewer (handed s.deeds).length ((s.onRecord t w).opened t w) (body ((s.onRecord t w).opened t w)).2 →
    (inWrappers t [w] body (s.onRecord t w)).2.stack t = s.stack t

theorem opened_stays {x : Footing π (Noted α)} (hx : x.guards = handed x.site.deeds) {s' : Site π (Noted α)}
    (h : Attains t ((x.site.onRecord t w).opened t w) s')
    (hnewer : DropsNewer (handed x.site.deeds).length ((x.site.onRecord t w).opened t w) s') :
    x.site.stack t ++ [(x.site.guardOf t w).operation] <+: s'.stack t := by
  obtain ⟨since, y, hy, rfl, -, hsince⟩ := Attains.walk (x := x.opened t w) (Footing.opened_record hx) h
  obtain ⟨since', hgrown, hnewer⟩ := hnewer
  obtain rfl := List.append_cancel_left (hsince.symm.trans hgrown)
  have habove := Footing.opened_above hy (hx ▸ hnewer)
  rwa [Footing.opened_frames] at habove

end Site

theorem Attains.balances {s s' : Site π (Noted α)} (hnone : s.deeds = []) (h : Attains t s s') (w : Wrapper) :
    s'.Balances t w := by
  obtain ⟨past, x, hx, rfl, hguards, hdeeds⟩ := Attains.walk (x := .begin s) (congrArg handed hnone).symm h
  refine ⟨fun s' => opened_stays hguards, fun β body hbody hnewer => ?_⟩
  have hkept := (List.prefix_append _ _).trans (opened_stays hguards (.play .start hbody) hnewer)
  rw [inWrappers_stack t (List.cons_ne_nil _ _)]
  exact (List.prefix_iff_eq_take.1 hkept).symm

/-! ## Services and futures -/

namespace Scenario

variable {s s' : Site Program Cast} {γ : Type} {again : PlaySteps} {name : String}

theorem bind_granted {x : Turn β} {f : β → Turn γ} {b : β} (h : x.run s = (some b, s')) :
    (x >>= f).run s = (f b).run s' := by
  rw [OptionT.run_bind, Option.elimM, bind_at, h]
  rfl

theorem bind_refused {x : Turn β} {f : β → Turn γ} (h : x.run s = (none, s')) : (x >>= f).run s = (none, s') := by
  rw [OptionT.run_bind, Option.elimM, bind_at, h]
  rfl

theorem onlyIn_run (s : Site Program Cast) :
    (onlyIn false).run s = (if s.extra.rehearsal = true then none else some (), s) := by
  show (require (s.extra.rehearsal == false)).run s = _
  cases s.extra.rehearsal <;> rfl

theorem onlyIn_granted (h : s.extra.rehearsal = false) : (onlyIn false).run s = (some (), s) := by
  rw [onlyIn_run, h]
  rfl

theorem given_run (o : Option β) (s : Site Program Cast) : (given o).run s = (o, s) := by cases o <;> rfl

theorem service_run (name : String) (s : Site Program Cast) :
    (service name).run s = (s.extra.services.get? name, s) := given_run _ s

/-- To ask a service whether it is ready does nothing. -/
theorem serviceReady_site (invoke : Invoke Program Cast) (t : ThreadId) (name : String) (s : Site Program Cast) :
    ((onProcess invoke t (.serviceReady name)).run s).2 = s := by
  have honly := onlyIn_run s
  have hservice := service_run name s
  unfold onProcess
  split at honly
  · rw [bind_refused honly]
  · rw [bind_granted honly]
    cases hv : s.extra.services.get? name with
    | none => rw [bind_refused (hservice.trans (congrArg (·, s) hv))]
    | some v =>
      rw [bind_granted (hservice.trans (congrArg (·, s) hv))]
      rfl

/-- While a service is called it is out of reach. -/
def calling (name : String) (s : Site Program Cast) : Site Program Cast :=
  { s with extra := { s.extra with services := s.extra.services.erase name } }

/-- While a future is polled it is out of reach. -/
def polling (name : String) (s : Site Program Cast) : Site Program Cast :=
  { s with extra := { s.extra with futures := s.extra.futures.erase name } }

/-- The turn runs these steps in wrappers, from `s` on with something out of reach. -/
structure RunsIn (again : PlaySteps) (t : ThreadId) (ws : List Wrapper) (steps : List Step)
    (s reach : Site Program Cast) (turn : Turn Result) (result : List StepAnswer → Result) : Prop where
  runs : (turn.run s).1 = some (result (again t steps (reach.wrapped t ws)).1)
  /-- The steps start with the stack of the entry and the frames of the wrappers' members on top. -/
  starts : ∃ ops, (reach.wrapped t ws).stack t = s.stack t ++ ops ∧ List.Forall₂ (fun (w : Wrapper) op =>
    ((reach.wrapped t ws).process.runtime w.runtime).operation? w.member.key = some op) ws ops
  /-- In the end the stack that they leave is cut to its height at the entry. -/
  ends : ws ≠ [] → (turn.run s).2.stack t =
    ((again t steps (reach.wrapped t ws)).2.stack t).take (s.stack t).length

theorem RunsIn.of_run {ws : List Wrapper} {steps : List Step} {reach : Site Program Cast} {turn : Turn Result}
    {result : List StepAnswer → Result} (hreach : reach.stack t = s.stack t)
    (hsaid : (turn.run s).1 = some (result (inWrappers t ws (again t steps) reach).1))
    (hleft : (turn.run s).2.stack t = (inWrappers t ws (again t steps) reach).2.stack t) :
    RunsIn again t ws steps s reach turn result where
  runs := by rw [hsaid, inWrappers_at]
  starts := by
    rw [← hreach]
    exact wrapped_stack t ws reach
  ends hne := by rw [hleft, inWrappers_stack t hne, hreach]

/-- A service is called in the frame of its member, and its future is wrapped in such a frame. -/
theorem callService_runs (hr : s.extra.rehearsal = false) {v : Service} (hv : s.extra.services.get? name = some v)
    (future : String) (body : List Step) (stages : Option (List (List Step))) (out : Payload) (fails : Bool) :
    RunsIn again t [.frame globalRuntime v.member] body s (calling name s)
        (callService again t name future body stages out fails) (fun as => .value (.steps as)) ∧
      (((callService again t name future body stages out fails).run s).2.extra.futures.get? future).map Future.wrappers =
        some [.frame globalRuntime v.member] := by
  have hservice := (service_run name s).trans (congrArg (·, s) hv)
  unfold callService
  refine ⟨.of_run rfl ?_ ?_, ?_⟩
  all_goals rw [bind_granted (onlyIn_granted hr), bind_granted hservice]
  · rfl
  · rfl
  · show ((Table.insert _ future _).get? future).map Future.wrappers = _
    rw [Table.get?_insert, if_pos rfl]
    rfl

/-- A future is polled in its wrappers. -/
theorem pollFuture_runs (hr : s.extra.rehearsal = false) {f : Future} (hf : s.extra.futures.get? name = some f) :
    RunsIn again t f.wrappers (f.stages.headD []) s (polling name s) (pollFuture again t name) fun as =>
      .value (match f.stages.tail with
        | [] => .ready f.out as
        | _ => .pending as) := by
  have hgiven : (given (s.extra.futures.get? name)).run s = (some f, s) := by rw [given_run, hf]
  have hrun : (pollFuture again t name).run s =
      (play (inWrappers t f.wrappers (again t (f.stages.headD []))) >>= fun answers => match f.stages.tail with
        | [] => pure (.value (.ready f.out answers))
        | rest => do
          keepFuture name { f with stages := rest }
          pure (.value (.pending answers)) : Turn Result).run (polling name s) := by
    unfold pollFuture
    rw [bind_granted (onlyIn_granted hr)]
    exact bind_granted hgiven
  refine .of_run rfl ?_ ?_
  all_goals
    rw [hrun]
    -- It is kept or it is not, according to what is left to do.
    cases f.stages.tail <;> rfl

end Scenario

/-! ## Everywhere -/

section

variable {plan : Plan π} {past since : List Event} {s s' : Site π α}

/-! An engine takes what is put into a wrapper for a definition, and no more. -/

theorem Built.opened (h : Built rt plan id past since s) (t : ThreadId) (w : Wrapper) :
    Built rt plan id past (since ++ [.defined w.runtime w.member]) (s.opened t w) := by
  have hjoined : ∀ rt', Built rt plan id past since (s.joined t rt') := by
    intro rt'
    unfold joined
    split
    · exact h
    · exact List.append_nil since ▸ h.step (.declare t rt' [Primitives.taskThread]) trivial
  cases w with
  | frame rt' m => exact h.step (.push t rt' m) trivial
  | task rt' =>
    have hheld := (hjoined rt').step (.hold t Primitives.taskMark) trivial
    exact (List.append_nil since ▸ hheld).step (.push t rt' Primitives.taskPoll) trivial

theorem Built.closed (h : Built rt plan id past since s') (t : ThreadId) (w : Wrapper) (s : Site π α) :
    Built rt plan id past since (s.closed t w s') := by
  have hcut : Built rt plan id past since (dropFrame t (s.guardOf t w) s').2 :=
    List.append_nil since ▸ h.step (.cut t (s.guardOf t w)) trivial
  cases w with
  | frame rt' m => exact hcut
  | task rt' => exact List.append_nil since ▸ hcut.step (.letGo t _) trivial

theorem Built.wrapped (h : Built rt plan id past since s) (t : ThreadId) (ws : List Wrapper) :
    Built rt plan id past (since ++ ws.map fun w => .defined w.runtime w.member) (s.wrapped t ws) := by
  induction ws generalizing since s with
  | nil => rwa [List.map_nil, List.append_nil]
  | cons w ws ih =>
    rw [List.map_cons, List.append_cons]
    exact ih (h.opened t w)

theorem Built.unwrapped (h : Built rt plan id past since s') (t : ThreadId) (ws : List Wrapper) (s : Site π α) :
    Built rt plan id past since (s.unwrapped t ws s') := by
  induction ws generalizing s with
  | nil => exact h
  | cons w ws ih => exact (ih _).closed t w s

theorem Built.inWrappers (t : ThreadId) (ws : List Wrapper) (body : Play π α β) (s : Site π α)
    (h : Built rt plan id past since (body (s.wrapped t ws)).2) :
    Built rt plan id past since (Site.inWrappers t ws body s).2 := by
  rw [inWrappers_at]
  exact h.unwrapped t ws s

theorem Built.pushNoted {s : Site π (Noted α)} (h : Built rt plan id past since s) (t : ThreadId) (rt' : RuntimeId)
    (m : MemberRef) : Built rt plan id past (since ++ [.defined rt' m]) (Site.pushNoted t rt' m s).2 :=
  List.append_nil (since ++ [.defined rt' m]) ▸
    (h.step (.push t rt' m) trivial).step (.extra fun n => { n with deeds := n.deeds ++ [.pushed _] }) trivial

end

/-- Whatever is put into wrappers on a thread is balanced, and seen so by engines; so is
    every program that calls and polls, in whatever order and one inside another, as long
    as what runs in a call or poll drops no guard that is older. Services are called so, and
    futures polled so, in their wrappers; and to ask whether a service is ready does nothing. -/
theorem wrapped_calls_balanced (t : ThreadId) :
    (∀ ws (s : Site π α), s.Wraps t ws) ∧
      (∀ s s' : Site π (Noted α), s.deeds = [] → Attains t s s' → ∀ w, s'.Balances t w) ∧
      ∀ (again : Scenario.PlaySteps) (name : String) (s : Site Scenario.Program Scenario.Cast),
        s.extra.rehearsal = false →
        (∀ v, s.extra.services.get? name = some v → ∀ future body stages out fails,
          let turn := Scenario.callService again t name future body stages out fails
          Scenario.RunsIn again t [.frame Scenario.globalRuntime v.member] body s (Scenario.calling name s) turn
              (fun as => .value (.steps as)) ∧
            ((turn.run s).2.extra.futures.get? future).map Scenario.Future.wrappers =
              some [.frame Scenario.globalRuntime v.member]) ∧
        (∀ f, s.extra.futures.get? name = some f →
          Scenario.RunsIn again t f.wrappers (f.stages.headD []) s (Scenario.polling name s)
            (Scenario.pollFuture again t name) fun as => .value (match f.stages.tail with
              | [] => .ready f.out as
              | _ => .pending as)) ∧
        ∀ invoke, ((Scenario.onProcess invoke t (.serviceReady name)).run s).2 = s :=
  ⟨wraps t, fun _ _ hnone h => h.balances hnone, fun _ name s hr =>
    ⟨fun _ hv future body stages out fails => Scenario.callService_runs hr hv future body stages out fails,
      fun _ hf => Scenario.pollFuture_runs hr hf, fun invoke => Scenario.serviceReady_site invoke t name s⟩⟩

/-- A task is polled, and in the poll a service is called that leaves a frame behind. -/
theorem wrapped_calls_balanced_in_a_task :
    let t : ThreadId := ⟨1⟩
    let r : RuntimeId := ⟨"r"⟩
    let member (name : String) : MemberRef := ⟨"a::S", name, false, false⟩
    let call : Wrapper := .frame r (member "call")
    let plan : Plan Unit := { settings := {}, policy := .empty }
    let s₀ : Site Unit (Noted Unit) := (Move.playAll (build t (.runtime r) plan (Move.playAll (bare {} ⟨[], ()⟩)
        [.openRuntime t r [Primitives.taskPoll]]).2).2
      [.declare t r [defaultMarker], .use t ⟨0⟩ (.request "a::S" "call" false)]).2
    let s := (pushNoted t r (member "main") s₀).2
    let body : Play Unit (Noted Unit) Nat := pushNoted t r (member "work")
    let s' := (inWrappers t [.task r, call] body s).2
    (isBlockingContext t ⟨0⟩ (s.wrapped t [.task r, call])).1 = true ∧
      ((body (s.wrapped t [.task r, call])).2.stack t).length = 4 ∧ s'.stack t = s.stack t ∧
      (isBlockingContext t ⟨0⟩ s').1 = false ∧ (inWrappers t [call] body (s.onRecord t call)).2.stack t = s.stack t := by
  intro t r member call plan s₀ s body s'
  have hwraps : s.Wraps t [.task r, call] := (wrapped_calls_balanced t).1 [.task r, call] s
  have hbalances : s.Balances t call :=
    (wrapped_calls_balanced t).2.1 s₀ s (by decide +kernel) (.play .start (.push r _)) call
  -- The engine was built on `s₀`, and what happens then are definitions.
  have hbuilt : Built r plan ⟨0⟩ [.defined r Primitives.taskPoll] [.requested ⟨0⟩ ("a::S", "call") false] s₀ :=
    .of_moves {} (⟨[], ()⟩ : Noted Unit) t [.openRuntime t r [Primitives.taskPoll]]
      [.declare t r [defaultMarker], .use t ⟨0⟩ (.request "a::S" "call" false)]
      (by decide +kernel) (by decide +kernel) (by decide +kernel) (by decide +kernel) (by decide +kernel)
  have hinside : Built r plan ⟨0⟩ _ _ (s.wrapped t [.task r, call]) :=
    (hbuilt.pushNoted t r (member "main")).wrapped t [.task r, call]
  have hleft : Built r plan ⟨0⟩ _ _ s' := .inWrappers t [.task r, call] body s (hinside.pushNoted t r (member "work"))
  have hinner : (s.wrapped t [.task r, call]).Asks t r plan ⟨0⟩ _ :=
    ⟨⟨_, hinside⟩, by decide +kernel, by decide, by decide +kernel⟩
  have houter : s'.Asks t r plan ⟨0⟩ _ := ⟨⟨_, hleft⟩, by decide +kernel, by decide, by decide +kernel⟩
  have hkept : s.stack t <+: (body (s.wrapped t [.task r, call])).2.stack t := by decide +kernel
  refine ⟨(hwraps.denies call rfl plan ⟨0⟩ _ hinner (by decide)).2 (by decide +kernel), by decide +kernel,
    (hwraps.ends nofun Nat body).trans (List.prefix_iff_eq_take.1 hkept).symm, Bool.eq_false_iff.2 fun hyes => ?_,
    hbalances.ends Nat body (.push r _) ⟨_, pushNoted_deeds .., by simp⟩⟩
  exact absurd ((hwraps.outside nofun Nat body hkept r plan ⟨0⟩ _ houter).1 hyes).2 (by decide +kernel)

end StallGuard
