/-
  StallGuard.Proofs.Verdict — what checks on a runtime come to.

  A runtime refuses an asking thread nothing about itself, so a check there never meets a
  fault of the host and leaves the process as it was. What it finds is said at once:
  - `classify_at`, `check_at`: violating exactly if the thread is restricted and the window
    of its stack convicts (`Monitor.Condemns`).
  - `isBlockingContext_at`, `checkBlocking_at`: the engine's answers outside any check.
  Along a run the hooks are the last requests made, so that a verdict is one on names:
  - `verdict_end_to_end`: for every engine that is alive and every thread outside a check.
-/

import StallGuard.Proofs.Resolution
import StallGuard.Proofs.Scan

namespace StallGuard

open Engine Site

variable {π α β : Type} {rt : RuntimeId} {t : ThreadId} {w : World}

/-! ## Monitors on a runtime -/

/-- The verdict on a thread: the one that was kept, else the predicate's. -/
def ThreadRegister.finds (r : ThreadRegister) (i : ThreadInfo) : Bool :=
  (r.verdicts.get? i.thread).getD (r.restricts i)

/-- The thread is restricted, and the window of its stack convicts. -/
def Monitor.Condemns (m : Monitor) (th : Thread) (t : ThreadId) (start : ScanStart) : Prop :=
  m.register.finds (th.info t) = true ∧
    m.hooks.Convicts start.disallowed ((th.frames.take m.window.depth).drop start.skip)

instance (m : Monitor) (th : Thread) (t : ThreadId) (start : ScanStart) : Decidable (m.Condemns th t start) := by
  unfold Monitor.Condemns; infer_instance

theorem World.host_serves (rt : RuntimeId) (t : ThreadId) (w : World) :
    (World.host (.runtime rt) t).Serves t (w.process.thread t).frames (· = w) := by
  rintro w rfl start count
  rw [World.host_stackFrames, if_pos rfl]
  exact ⟨rfl, rfl⟩

namespace Monitor

variable {m : Monitor} {ns : List Notice}

/-- The monitor with other kept verdicts and counters. -/
def noting (m : Monitor) (verdicts : Table ThreadId Bool) (counters : Counters) : Monitor :=
  { m with register := { m.register with verdicts }, counters }

/-- So many checks and violations were counted, and faults only if `silent` is not to hold. -/
structure Counted (c c' : Counters) (checks violations : Nat) (silent : Prop) : Prop where
  checks : c'.checks = c.checks + checks
  violations : c'.violations = c.violations + violations
  faults : silent → c'.faults = c.faults

theorem isRestricted_at (rt : RuntimeId) (t : ThreadId) (m : Monitor) (w : World) (ns : List Notice) :
    ∃ v c ns', isRestricted (World.host (.runtime rt) t) t ⟨m, w, ns⟩ =
        (m.register.finds ((w.process.thread t).info t), ⟨m.noting v c, w, ns'⟩) ∧ Counted m.counters c 0 0 True := by
  have hget : m.register.finds ((w.process.thread t).info t) =
      (m.register.verdicts.get? t).getD (m.register.restricts ((w.process.thread t).info t)) := rfl
  unfold isRestricted
  rw [bind_at, Act.own_at, hget]
  cases m.register.verdicts.get? t with
  | some b => exact ⟨m.register.verdicts, m.counters, ns, rfl, rfl, rfl, fun _ => rfl⟩
  | none =>
    dsimp only
    rw [bind_at, Act.ask_at, World.host_threadInfo, if_pos rfl]
    dsimp only
    split
    · exact ⟨m.register.verdicts, m.counters, ns, rfl, rfl, rfl, fun _ => rfl⟩
    · exact ⟨_, _, _, rfl, rfl, rfl, fun _ => rfl⟩

theorem classify_at (rt : RuntimeId) (t : ThreadId) (m : Monitor) (w : World) (ns : List Notice) (start : ScanStart) :
    ∃ v c ns', classify (World.host (.runtime rt) t) t start ⟨m, w, ns⟩ =
        (if m.Condemns (w.process.thread t) t start then .violating else .permitted, ⟨m.noting v c, w, ns'⟩) ∧
      Counted m.counters c 1 0 True := by
  obtain ⟨v, c, ns', hr, hc⟩ := isRestricted_at rt t { m with counters := m.counters.mark .check } w
    (ns ++ [.marked .check])
  refine ⟨v, c, ns', ?_, hc.checks, hc.violations, hc.faults⟩
  have hscan : scan (World.host (.runtime rt) t) m.hooks m.window t start w =
      (.ok (if m.hooks.Convicts start.disallowed (((w.process.thread t).frames.take m.window.depth).drop start.skip)
        then .violating else .permitted), w) :=
    Prod.ext (scan_window (World.host_serves rt t w) start w rfl)
      ((World.host_reads rt t (· = w)).scanFrom m.hooks m.window t _ start.skip start.disallowed w rfl)
  unfold classify
  rw [bind_at, bind_at]
  show (if (isRestricted _ t ⟨{ m with counters := m.counters.mark .check }, w, ns ++ [.marked .check]⟩).1 = true
    then _ else _ : Act Monitor World Verdict)
      (isRestricted _ t ⟨{ m with counters := m.counters.mark .check }, w, ns ++ [.marked .check]⟩).2 = _
  rw [hr]
  dsimp only
  by_cases hfind : m.register.finds ((w.process.thread t).info t) = true
  · rw [if_pos hfind, bind_at, Act.own_at, bind_at, Act.ask_at]
    dsimp only [noting]
    rw [hscan]
    simp only [Condemns, hfind, true_and]
    rfl
  · rw [if_neg hfind, if_neg fun h => hfind h.1]
    rfl

/-- The call that a check of `op` reports. -/
def called (m : Monitor) (r : Runtime) (op : OperationId) : BlockingCall :=
  match m.targets.member? op with
  | some i => .ofMember i
  | none => match r.byId? op with
    | some i => .ofMember i
    | none => .unresolved op

/-- Neither a target nor the runtime tells what `op` is. -/
def lacks (m : Monitor) (r : Runtime) (op : OperationId) : Bool := (m.targets.member? op).isNone && (r.byId? op).isNone

/-- A check of `op` that may convict: the call it reports, and what it counts. -/
theorem check_at (rt : RuntimeId) (t : ThreadId) (m : Monitor) (w : World) (ns : List Notice)
    (op : OperationId) (start : ScanStart) :
    ∃ v c ns', check (World.host (.runtime rt) t) t op start ⟨m, w, ns⟩ =
        (if m.Condemns (w.process.thread t) t start then some (m.called (w.process.runtime rt) op) else none,
          ⟨m.noting v c, w, ns'⟩) ∧
      c.faults = m.counters.faults +
        (if m.Condemns (w.process.thread t) t start ∧ m.lacks (w.process.runtime rt) op = true then 1 else 0) ∧
      Counted m.counters c 1 (if m.Condemns (w.process.thread t) t start then 1 else 0)
        ((m.targets.member? op).isSome = true) := by
  obtain ⟨v, c, ns', hcl, hc⟩ := classify_at rt t m w ns start
  have hfaults : c.faults = m.counters.faults := hc.faults trivial
  unfold check
  rw [bind_at, hcl]
  by_cases hcon : m.Condemns (w.process.thread t) t start
  · have hviolations : c.violations + 1 = m.counters.violations + 1 := congrArg (· + 1) hc.violations
    simp only [hcon, true_and, if_true]
    rw [bind_at, Act.own_at]
    dsimp only [noting]
    unfold called lacks
    cases m.targets.member? op with
    | some i => exact ⟨v, c.mark .violation, _, rfl, hfaults, hc.checks, hviolations, fun _ => hfaults⟩
    | none =>
      dsimp only
      rw [bind_at]
      unfold describe
      rw [bind_at, Act.ask_at, World.host_memberInfo]
      unfold Runtime.memberInfo
      cases (w.process.runtime rt).byId? op with
      | some i => exact ⟨v, c.mark .violation, _, rfl, hfaults, hc.checks, hviolations, nofun⟩
      | none =>
        exact ⟨v, (c.mark (.fault (.unknownOperation op))).mark .violation, _, rfl, congrArg (· + 1) hfaults,
          hc.checks, hviolations, nofun⟩
  · simp only [hcon, false_and, if_false]
    exact ⟨v, c, ns', rfl, hfaults, hc.checks, hc.violations, fun _ => hfaults⟩

end Monitor

/-! ## Engines on a site -/

theorem Engine.watch_eq {σ : Type} {a : Act Monitor σ β} (x : Scene (Engine π) σ) {b : β} {m : Monitor} {w : σ}
    {ns : List Notice} (h : a ⟨x.own.monitor, x.host, x.notices⟩ = (b, ⟨m, w, ns⟩)) :
    watch a x = (b, ⟨{ x.own with monitor := m }, w, ns⟩) := by
  unfold watch
  rw [h]

/-- What a check reads of the engine, and what it counts in it, is the same in both. -/
structure Engine.Poised (e e' : Engine π) : Prop where
  handler : e'.handler = e.handler
  hooks : e'.monitor.hooks = e.monitor.hooks
  window : e'.monitor.window = e.monitor.window
  register : e'.monitor.register = e.monitor.register
  checks : e'.monitor.counters.checks = e.monitor.counters.checks
  violations : e'.monitor.counters.violations = e.monitor.counters.violations
  faults : e'.monitor.counters.faults = e.monitor.counters.faults

theorem Engine.Poised.condemns_iff {e e' : Engine π} (h : e.Poised e') (th : Thread) (t : ThreadId)
    (start : ScanStart) : e'.monitor.Condemns th t start ↔ e.monitor.Condemns th t start := by
  unfold Monitor.Condemns
  rw [h.hooks, h.window, h.register]

theorem Engine.Poised.refl (e : Engine π) : e.Poised e := ⟨rfl, rfl, rfl, rfl, rfl, rfl, rfl⟩

namespace Site

variable {s : Site π α} {id : EngineId} {slot : Slot π}

/-- The site after engine `id`, found in `slot`, counted and kept verdicts. -/
def noting (s : Site π α) (id : EngineId) (slot : Slot π) (verdicts : Table ThreadId Bool) (counters : Counters)
    (ns : List (ThreadId × Notice)) : Site π α :=
  s.acted id slot { slot.engine with monitor := slot.engine.monitor.noting verdicts counters } s.world ns

theorem noting_found (id : EngineId) (slot : Slot π) (v : Table ThreadId Bool) (c : Counters)
    (ns : List (ThreadId × Notice)) :
    (s.noting id slot v c ns).engine? id = some { slot.engine with monitor := slot.engine.monitor.noting v c } := by
  rw [engine?, noting, acted_found]
  rfl

/-- The verdict of engine `id` on what `t` does now. -/
def verdict (t : ThreadId) (id : EngineId) (start : ScanStart) (s : Site π α) : Verdict :=
  (acting t id .permitted (fun h => Engine.watch (Monitor.classify h t start)) s).1

theorem verdict_iff (hf : s.slots.get? id = some slot) (hh : slot.host = .runtime rt) {start : ScanStart} :
    s.verdict t id start = .violating ↔ slot.engine.monitor.Condemns (s.process.thread t) t start := by
  obtain ⟨v, c, ns, hcl, -⟩ := Monitor.classify_at rt t slot.engine.monitor s.world [] start
  have hact := Engine.watch_eq ⟨slot.engine, s.world, []⟩ hcl
  rw [verdict, acting_eq hf hh hact]
  show (if slot.engine.monitor.Condemns (s.process.thread t) t start then Verdict.violating else _) = _ ↔ _
  by_cases hcon : slot.engine.monitor.Condemns (s.process.thread t) t start
  · rw [if_pos hcon]
    exact ⟨fun _ => hcon, fun _ => rfl⟩
  · rw [if_neg hcon]
    exact ⟨nofun, fun h => absurd h hcon⟩

theorem judgesContext_at (hf : s.slots.get? id = some slot) (hh : slot.host = .runtime rt) :
    (judgesContext t id s).1 = decide (s.verdict t id .context = .violating) := by
  rw [judgesContext, verdict, acting_at hf, acting_at hf, hh]
  rfl

/-- An engine checks a call of `op` by the thread that its host calls current. -/
def finding (t : ThreadId) (id : EngineId) (op : OperationId) (start : ScanStart) :
    Play π α (Option BlockingCall) :=
  acting t id none fun h => do
    let asked ← Act.ask fun w => (currentOf h w, w)
    Engine.watch (Monitor.check h asked op start)

theorem finding_at (hf : s.slots.get? id = some slot) (hh : slot.host = .runtime rt) (op : OperationId)
    (start : ScanStart) :
    ∃ v c ns, c.faults = slot.engine.monitor.counters.faults +
        (if slot.engine.monitor.Condemns (s.process.thread t) t start ∧
          slot.engine.monitor.lacks (s.process.runtime rt) op = true then 1 else 0) ∧
      Monitor.Counted slot.engine.monitor.counters c 1
        (if slot.engine.monitor.Condemns (s.process.thread t) t start then 1 else 0)
        ((slot.engine.monitor.targets.member? op).isSome = true) ∧
      finding t id op start s =
        (if slot.engine.monitor.Condemns (s.process.thread t) t start
          then some (slot.engine.monitor.called (s.process.runtime rt) op) else none,
          s.noting id slot v c ns) := by
  obtain ⟨v, c, ns, hch, hfaults, hcount⟩ := Monitor.check_at rt t slot.engine.monitor s.world [] op start
  refine ⟨v, c, ns.map (t, ·), hfaults, hcount, acting_eq hf hh ?_⟩
  exact Engine.watch_eq ⟨slot.engine, s.world, []⟩ hch

/-- Judging a call: the handler is called exactly if the thread is condemned. -/
theorem judge_at (hf : s.slots.get? id = some slot) (hh : slot.host = .runtime rt) (op : OperationId)
    (start : ScanStart) :
    ∃ v c ns, Monitor.Counted slot.engine.monitor.counters c 1
        (if slot.engine.monitor.Condemns (s.process.thread t) t start then 1 else 0)
        ((slot.engine.monitor.targets.member? op).isSome = true) ∧
      ∀ invoke : Invoke π α, judge invoke t id currentOf op start s =
        if slot.engine.monitor.Condemns (s.process.thread t) t start
        then respond invoke t slot.engine.handler (slot.engine.monitor.called (s.process.runtime rt) op)
          (s.noting id slot v c ns)
        else (.returned (), s.noting id slot v c ns) := by
  obtain ⟨v, c, ns, -, hcount, hfound⟩ := finding_at (t := t) hf hh op start
  refine ⟨v, c, ns, hcount, fun invoke => ?_⟩
  unfold judge
  rw [bind_at, show acting t id none _ s = _ from hfound, bind_at, get_at]
  dsimp only
  rw [noting_found]
  split <;> rfl

theorem isBlockingContext_at (hf : s.slots.get? id = some slot) (hh : slot.host = .runtime rt)
    (hout : s.isChecking t = false) :
    (isBlockingContext t id s).1 = decide (slot.engine.monitor.Condemns (s.process.thread t) t .context) := by
  have hf' : (s.entered t).slots.get? id = some slot := hf
  rw [isBlockingContext_outside hout]
  refine (judgesContext_at hf' hh).trans (decide_eq_decide.2 ?_)
  rw [verdict_iff hf' hh, entered_thread]
  rfl

/-- A check of a call, made outside any other: the handler is called exactly if the thread
    is condemned, and then the check ends. -/
theorem checkBlocking_at (hf : s.slots.get? id = some slot) (hh : slot.host = .runtime rt)
    (hout : s.isChecking t = false) (op : OperationId) :
    ∃ v c ns, Monitor.Counted slot.engine.monitor.counters c 1
        (if slot.engine.monitor.Condemns (s.process.thread t) t .blockingCall then 1 else 0)
        ((slot.engine.monitor.targets.member? op).isSome = true) ∧
      ∀ invoke : Invoke π α, checkBlocking invoke t id op s = released id (concluded t (
        if slot.engine.monitor.Condemns (s.process.thread t) t .blockingCall
        then respond invoke t slot.engine.handler (slot.engine.monitor.called (s.process.runtime rt) op)
          (((s.taken id).entered t).noting id { slot with uses := slot.uses + 1 } v c ns)
        else (.returned (), ((s.taken id).entered t).noting id { slot with uses := slot.uses + 1 } v c ns))) := by
  have hfound : ((s.taken id).entered t).slots.get? id = some { slot with uses := slot.uses + 1 } := taken_found hf
  obtain ⟨v, c, ns, hc, hj⟩ := judge_at (t := t) hfound hh op .blockingCall
  have hcon : slot.engine.monitor.Condemns (((s.taken id).entered t).process.thread t) t .blockingCall ↔
      slot.engine.monitor.Condemns (s.process.thread t) t .blockingCall := by
    rw [entered_thread]
    rfl
  simp only [hcon] at hc hj
  refine ⟨v, c, ns, hc, fun invoke => ?_⟩
  have hout' : (s.taken id).isChecking t = false := hout
  unfold checkBlocking
  rw [keepingAlive_at, checking_outside hout', hj]
  rfl

/-- Inside another check a call is let through, and nothing is counted. -/
theorem checkBlocking_inside (hf : s.slots.get? id = some slot) (hin : s.isChecking t = true) (invoke : Invoke π α)
    (op : OperationId) : checkBlocking invoke t id op s = (.returned (), s) := by
  have hin' : (s.taken id).isChecking t = true := hin
  unfold checkBlocking
  rw [keepingAlive_at, checking_inside hin']
  exact released_taken hf _

end Site

/-! ## Verdicts on names -/

/-- What was last requested for the member whose frame this is, if the runtime knows it. -/
def lastWord (plan : Plan π) (id : EngineId) (past : List Event) (r : Runtime) (op : OperationId) : Option Bool :=
  (r.byId? op).bind fun m => lastRequest plan id past m.key

variable {plan : Plan π} {id : EngineId} {past since : List Event} {s : Site π α} {r : Runtime} {e : Engine π}

/-- Hooks say of a frame what was last requested for its member. -/
theorem Engine.Minds.allows?_eq (h : Minds plan id since r (fun _ => True) e) (hd : r.Distinct)
    (hc : ∀ ev ∈ since, ev ≠ .hooked id) (op : OperationId) :
    e.monitor.hooks.allows? op = lastWord plan id since r op := by
  ext a
  simp only [Hooks.allows?, lastWord, Option.map_eq_some_iff, Option.bind_eq_some_iff, h.get?_hooks hc,
      Runtime.byId?_eq_some hd]
  constructor
  · rintro ⟨k, ⟨m, hm, hid, a', ha', rfl⟩, rfl⟩
    exact ⟨m, ⟨hm, hid⟩, ha'⟩
  · rintro ⟨m, ⟨hm, hid⟩, ha⟩
    exact ⟨⟨m.owner, m.name, a⟩, ⟨m, hm, hid, a, ha, rfl⟩, rfl⟩

theorem Settings.window_depth {c : Settings} {w : Window} (h : c.window = .ok w) : w.depth = c.depth := by
  unfold Settings.window at h
  split at h
  · cases h
  split at h
  · cases h
  split at h
  · cases h
  · cases h; rfl

/-- Who is condemned, said in terms of what was requested. -/
theorem Engine.Minds.condemns_iff (h : Minds plan id since r (fun _ => True) e) (hd : r.Distinct)
    (hc : ∀ ev ∈ since, ev ≠ .hooked id) (th : Thread) (t : ThreadId) (start : ScanStart) :
    e.monitor.Condemns th t start ↔
      (e.monitor.register.verdicts.get? t).getD (plan.restricts (th.info t)) = true ∧
      (∀ op ∈ (th.frames.take plan.settings.depth).drop start.skip, lastWord plan id since r op ≠ some true) ∧
      (start.disallowed = true ∨
        ∃ op ∈ (th.frames.take plan.settings.depth).drop start.skip, lastWord plan id since r op = some false) := by
  unfold Monitor.Condemns ThreadRegister.finds Hooks.Convicts
  rw [h.follows.restricts, Settings.window_depth h.follows.window]
  simp only [h.allows?_eq hd hc]
  rfl

/-- A runtime knows none of the operations of another. -/
theorem lastWord_elsewhere {p : Process} (hp : p.Catalogued) {rt rt' : RuntimeId} (hne : rt' ≠ rt) {n : Member}
    (hn : n ∈ (p.runtime rt').members) : lastWord plan id past (p.runtime rt) n.id = none := by
  rw [lastWord, Option.bind_eq_none_iff]
  intro m hm
  obtain ⟨hin, hid⟩ := (Runtime.byId?_eq_some (hp.distinct rt)).1 hm
  exact absurd hid (hp.apart rt rt' (Ne.symm hne) m hin n hn)

/-- For every engine that is alive on its runtime and every thread outside a check: the
    context is blocking exactly if the thread is restricted and of the innermost frames one
    was disallowed and none was allowed, by the last request for its member; and the check
    of a call ends with its handler at work exactly if the thread is restricted and none of
    those frames was allowed. A frame of another runtime is neither: it only takes up room. -/
theorem verdict_end_to_end (h : Built rt plan id past since s) (ha : s.alive id = true)
    (hc : ∀ ev ∈ since, ev ≠ .hooked id) (t : ThreadId) (hout : s.isChecking t = false) :
    ∃ e, s.engine? id = some e ∧
      let restricted := (e.monitor.register.verdicts.get? t).getD (plan.restricts ((s.process.thread t).info t))
      let frames := (s.process.thread t).frames.take plan.settings.depth
      let said := lastWord plan id since (s.process.runtime rt)
      ((isBlockingContext t id s).1 = true ↔
        restricted = true ∧ (∃ op ∈ frames, said op = some false) ∧ ∀ op ∈ frames, said op ≠ some true) ∧
      (∀ op, ∃ call s' e', s'.engine? id = some e' ∧
        e'.monitor.counters.violations = e.monitor.counters.violations +
          (if restricted = true ∧ ∀ op ∈ frames, said op ≠ some true then 1 else 0) ∧
        ∀ invoke : Invoke π α, checkBlocking invoke t id op s = released id (concluded t (
          if restricted = true ∧ ∀ op ∈ frames, said op ≠ some true
          then respond invoke t plan.handler call s' else (.returned (), s')))) ∧
      ∀ rt' ≠ rt, ∀ n ∈ (s.process.runtime rt').members, said n.id = none := by
  obtain ⟨slot, hf, hh, hcat, hm⟩ := h.minds ha
  have hcon := hm.condemns_iff (hcat.distinct rt) hc (s.process.thread t) t
  refine ⟨slot.engine, by rw [engine?, hf]; rfl, ?_, fun op => ?_, fun rt' hne n hn => lastWord_elsewhere hcat hne hn⟩
  · rw [isBlockingContext_at hf hh hout, decide_eq_true_iff, hcon]
    simp only [ScanStart.context, List.drop_zero, Bool.false_eq_true, false_or]
    exact and_congr_right fun _ => and_comm
  · obtain ⟨v, c, ns, hcount, hcheck⟩ := checkBlocking_at hf hh hout op
    have hcon' := hcon .blockingCall
    simp only [ScanStart.blockingCall, List.drop_zero, true_or, and_true] at hcon'
    simp only [ScanStart.blockingCall, hcon', hm.follows.handler] at hcount hcheck
    exact ⟨_, _, _, noting_found _ _ _ _ _, hcount.violations, hcheck⟩

/-- A member is disallowed after its frame was pushed, and a frame of another runtime, of a
    member with the same name, lies above it. -/
theorem verdict_end_to_end_beneath_another_runtime :
    let r : RuntimeId := ⟨"r"⟩
    let q : RuntimeId := ⟨"q"⟩
    let f : MemberRef := ⟨"a::B", "f", false, false⟩
    let plan : Plan Unit := { settings := { depth := 2 }, policy := .empty }
    let s := (Move.playAll (build ⟨1⟩ (.runtime r) plan (Move.playAll (bare {} ())
      [.openRuntime ⟨1⟩ r [], .openRuntime ⟨1⟩ q [f], .declare ⟨1⟩ r [defaultMarker]]).2).2
      [.push ⟨1⟩ r f, .push ⟨1⟩ q f, .use ⟨1⟩ ⟨0⟩ (.request "a::B" "f" false)]).2
    (isBlockingContext ⟨1⟩ ⟨0⟩ s).1 = true ∧
      ∃ call, ∀ invoke : Invoke Unit Unit, (checkBlocking invoke ⟨1⟩ ⟨0⟩ ⟨3⟩ s).1 = .raised call := by
  intro r q f plan s
  have h : Built r plan ⟨0⟩ [.defined q f] [.defined r f, .defined q f, .requested ⟨0⟩ ("a::B", "f") false] s :=
    .of_moves {} () ⟨1⟩ [.openRuntime ⟨1⟩ r [], .openRuntime ⟨1⟩ q [f], .declare ⟨1⟩ r [defaultMarker]]
      [.push ⟨1⟩ r f, .push ⟨1⟩ q f, .use ⟨1⟩ ⟨0⟩ (.request "a::B" "f" false)]
      (by decide +kernel) (by decide +kernel) (by decide +kernel) (by decide +kernel) (by decide +kernel)
  obtain ⟨e, he, hctx, hcheck, -⟩ := verdict_end_to_end h (by decide +kernel) (by decide) ⟨1⟩ (by decide +kernel)
  have hv : (s.engine? ⟨0⟩).map (fun e => e.monitor.register.verdicts.get? ⟨1⟩) = some none := by decide +kernel
  rw [he] at hv
  have hnone : e.monitor.register.verdicts.get? ⟨1⟩ = none := Option.some.inj hv
  rw [hnone] at hctx hcheck
  refine ⟨hctx.2 (by decide +kernel), ?_⟩
  obtain ⟨call, s', e', -, -, hrun⟩ := hcheck ⟨3⟩
  refine ⟨call, fun invoke => ?_⟩
  rw [hrun, if_pos (by decide +kernel)]
  rfl

end StallGuard
