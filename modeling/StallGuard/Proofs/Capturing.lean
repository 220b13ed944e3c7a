/-
  StallGuard.Proofs.Capturing — targets are written once.

  Binds of native members, look-ups of what was bound and breakpoints compete for the one
  target that an operation can have. A history is any sequence of these calls, on a host
  that accepts or refuses each breakpoint as it likes. Each call is atomic, so the calls of
  several callers come to one of these sequences.
  - `Served`: what one call comes to, with a constructor per way it can go.
  - `firstBind`: what the first bind of an operation came with, read off the history alone.

  Proved, for every host:
  - `play_served`: the ways of `Served` are the ways of a call.
  - `targets_written_once`: after any history, a target lasts whatever is called next, what
    is handed out is what the first bind came with, a call refused with a fault changes
    nothing, the host is asked only about operations without a target, and the counters tell
    how many targets of each kind there are.
-/

import StallGuard.Process.Guard
import StallGuard.Proofs.FailOpen

namespace StallGuard

open Act Monitor

variable {σ : Type}

/-! ## Calls -/

inductive TargetCall
  | bind (m : Member) (guarded : Bool) (entry : EntryPoint)
  | lookUp (op : OperationId) (s : Signature)
  | breakpoint (m : Member)

/-- What a call is granted. -/
inductive Grant
  | code (b : Binding)
  /-- There is a breakpoint, or there was a target before. -/
  | breakpoint (isNew : Bool)
deriving DecidableEq

namespace TargetCall

def op : TargetCall → OperationId
  | bind m _ _ => m.id
  | lookUp op _ => op
  | breakpoint m => m.id

def play (h : Host σ) : TargetCall → Act Monitor σ (Except Fault Grant)
  | bind m guarded entry => do
    let r ← bindNative m guarded entry
    pure (r.map .code)
  | lookUp op s => do
    let m ← own
    pure ((m.targets.bound op s).map .code)
  | breakpoint m => do
    let r ← setBreakpoint h m
    pure (r.map .breakpoint)

/-- The scene after a history of calls. -/
def after (h : Host σ) (calls : List TargetCall) (x : Scene Monitor σ) : Scene Monitor σ :=
  calls.foldl (fun x c => (c.play h x).2) x

/-- What the call gets if its operation has this target. -/
def reply (g : Target) : TargetCall → Except Fault Grant
  | bind m _ entry => (g.binding m.id entry.signature).map .code
  | lookUp op s => (g.binding op s).map .code
  | breakpoint _ => .ok (.breakpoint false)

def binding? (op : OperationId) : TargetCall → Option Binding
  | bind m guarded entry => if m.id = op then some ⟨guarded, entry⟩ else none
  | _ => none

end TargetCall

open TargetCall

/-- What the first bind of the operation came with, whether it succeeded or not. -/
def firstBind (op : OperationId) (calls : List TargetCall) : Option Binding := calls.findSome? (binding? op)

theorem firstBind_append (op : OperationId) (past : List TargetCall) (c : TargetCall) :
    firstBind op (past ++ [c]) = (firstBind op past).or (c.binding? op) := by
  simp [firstBind, List.findSome?_append, List.findSome?_singleton]

/-! ## What one call comes to -/

/-- A target that hands out code holds it. -/
theorem Target.native_of_binding {g : Target} {op : OperationId} {s : Signature} {b : Binding}
    (hb : g.binding op s = .ok b) : ∃ i, g = .native i b.guarded b.entry := by
  cases g with
  | callSite i => simp [Target.binding] at hb
  | native i guarded entry =>
    by_cases hs : entry.signature = s
    · simp [Target.binding, hs] at hb
      exact ⟨i, by simp [← hb]⟩
    · simp [Target.binding, hs] at hb

def Target.tally : Target → Tally
  | callSite _ => .breakpointSet
  | native .. => .nativeBound

/-- The monitor with this target, counted. -/
def Monitor.having (m : Monitor) (op : OperationId) (g : Target) : Monitor :=
  { m with targets := m.targets.insert op g, counters := m.counters.mark g.tally }

@[simp] theorem Monitor.having_targets (m : Monitor) (op : OperationId) (g : Target) :
    (m.having op g).targets = m.targets.insert op g := rfl

/-- The call is served by these exchanges with this reply, and the monitor is this one then;
    `answer` is what the host answers if it is asked. -/
inductive Served (m : Monitor) (answer : Except Fault Unit) :
    TargetCall → List Exchange → Except Fault Grant → Monitor → Prop
  | taken {c : TargetCall} {g : Target} : m.targets.get? c.op = some g → Served m answer c [] (c.reply g) m
  | captured {i : Member} {b : Bool} {f : EntryPoint} : m.targets.get? i.id = none →
      Served m answer (.bind i b f) [] (.ok (.code ⟨b, f⟩)) (m.having i.id (.native i b f))
  | unknown {op : OperationId} {s : Signature} : m.targets.get? op = none →
      Served m answer (.lookUp op s) [] (.error (.unknownOperation op)) m
  | refused {i : Member} {f : Fault} : m.targets.get? i.id = none → answer = .error f →
      Served m answer (.breakpoint i) [.setBreakpoint i.id (.error f)] (.error f) m
  | set {i : Member} : m.targets.get? i.id = none → answer = .ok () →
      Served m answer (.breakpoint i) [.setBreakpoint i.id (.ok ())] (.ok (.breakpoint true))
        (m.having i.id (.callSite i))

theorem play_served (h : Host σ) (c : TargetCall) (x : Scene Monitor σ) :
    Logs Scene.logging (c.play h) (c.play h.logged) x
      fun log r => Served x.own (h.setBreakpoint c.op x.host).1 c log r.1 r.2.own := by
  cases c with
  | bind i b f =>
    refine .bind (.bind (.own ?_))
    cases htg : x.own.targets.get? i.id with
    | some g => exact .pure (.pure (.taken htg))
    | none => exact .bind (.change (.bind (mark_logs (.bind (.give (.pure (.pure (.captured htg))))))))
  | lookUp op s =>
    refine .bind (.own (.pure ?_))
    show Served x.own _ _ _ ((x.own.targets.bound op s).map .code) _
    unfold Targets.bound
    cases htg : x.own.targets.get? op with
    | some g => exact .taken htg
    | none => exact .unknown htg
  | breakpoint i =>
    refine .bind (.bind (.own ?_))
    cases htg : x.own.targets.get? i.id with
    | some g => exact .pure (.pure (.taken htg))
    | none =>
      refine .bind (.ask (.recording ?_))
      cases hans : (h.setBreakpoint i.id x.host).1 with
      | error f => exact .pure (.pure (.refused htg hans))
      | ok _ => exact .bind (.change (.bind (mark_logs (.pure (.pure (.set htg hans))))))

namespace Served

variable {m m' : Monitor} {answer : Except Fault Unit} {c : TargetCall} {log : List Exchange} {r : Except Fault Grant}

theorem of_taken (hs : Served m answer c log r m') {g : Target} (hg : m.targets.get? c.op = some g) :
    log = [] ∧ r = c.reply g ∧ m' = m := by
  cases hs with
  | taken htg =>
    rw [htg] at hg
    cases hg
    exact ⟨rfl, rfl, rfl⟩
  | captured htg => simp_all [op]
  | unknown htg => simp_all [op]
  | refused htg => simp_all [op]
  | set htg => simp_all [op]

theorem of_bind {i : Member} {b : Bool} {f : EntryPoint} (hs : Served m answer (.bind i b f) log r m')
    (hg : m.targets.get? i.id = none) : r = .ok (.code ⟨b, f⟩) ∧ m' = m.having i.id (.native i b f) := by
  cases hs with
  | taken htg => simp [op, hg] at htg
  | captured => exact ⟨rfl, rfl⟩

theorem of_lookUp {op : OperationId} {s : Signature} (hs : Served m answer (.lookUp op s) log r m')
    (hg : m.targets.get? op = none) : r = .error (.unknownOperation op) := by
  cases hs with
  | taken htg => simp [TargetCall.op, hg] at htg
  | unknown => rfl

theorem of_breakpoint {i : Member} (hs : Served m answer (.breakpoint i) log r m') (hg : m.targets.get? i.id = none) :
    log = [.setBreakpoint i.id answer] ∧ r = answer.map (fun _ => .breakpoint true) ∧
      (m'.targets.get? i.id = some (.callSite i) ↔ answer = .ok ()) := by
  cases hs with
  | taken htg => simp [op, hg] at htg
  | refused _ hans => simp [hans, hg, Except.map]
  | set _ hans => simp [hans, Except.map, Table.get?_insert]

theorem of_fault (hs : Served m answer c log r m') {f : Fault} (hf : r = .error f) : m' = m := by
  cases hs with
  | captured => cases hf
  | set => cases hf
  | _ => rfl

theorem lasting (hs : Served m answer c log r m') {op : OperationId} {g : Target} (hg : m.targets.get? op = some g) :
    m'.targets.get? op = some g := by
  cases hs with
  | captured htg => exact Table.get?_insert_of_absent htg hg
  | set htg => exact Table.get?_insert_of_absent htg hg
  | _ => exact hg

/-- Nothing is asked but for a breakpoint on an operation without a target. -/
theorem asked (hs : Served m answer c log r m') :
    ∀ e ∈ log, ∃ i, c = .breakpoint i ∧ e = .setBreakpoint i.id answer ∧ m.targets.get? i.id = none := by
  intro e he
  cases hs with
  | refused htg hans => exact ⟨_, rfl, by simpa [hans] using he, htg⟩
  | set htg hans => exact ⟨_, rfl, by simpa [hans] using he, htg⟩
  | _ => simp at he

end Served

/-! ## Histories -/

namespace Targets

def natives (ts : Targets) : Nat := ts.values.countP fun g => !g.isCallSite

def callSites (ts : Targets) : Nat := ts.values.countP Target.isCallSite

theorem size_eq (ts : Targets) : ts.size = ts.natives + ts.callSites := by
  have hvalues : ts.size = ts.values.length := by simp [Table.size, Table.values]
  have hsplit : ts.values.length = ts.callSites + ts.natives := by
    simpa [natives, callSites] using List.length_eq_countP_add_countP Target.isCallSite (l := ts.values)
  omega

end Targets

/-- What the calls in `past` have left in the monitor. -/
structure Captures (past : List TargetCall) (m : Monitor) : Prop where
  first : ∀ op i b f, m.targets.get? op = some (.native i b f) → firstBind op past = some ⟨b, f⟩
  unbound : ∀ op, m.targets.get? op = none → firstBind op past = none
  natives : m.counters.nativesBound = Targets.natives m.targets
  callSites : m.counters.breakpointsSet = Targets.callSites m.targets

namespace Captures

variable {m m' : Monitor} {answer : Except Fault Unit} {c : TargetCall} {log : List Exchange} {r : Except Fault Grant}
  {past : List TargetCall}

/-- A target for the call's operation, where there was none, is what the call itself came
    with; the counters move with it. -/
theorem having (hm : Captures past m) {g : Target} (habsent : m.targets.get? c.op = none)
    (hc : ∀ i b f, g = .native i b f → c.binding? c.op = some ⟨b, f⟩) (hother : ∀ op ≠ c.op, c.binding? op = none) :
    Captures (past ++ [c]) (m.having c.op g) where
  first op i b f hop := by
    rw [firstBind_append]
    by_cases h : op = c.op
    · subst h
      simp [Table.get?_insert] at hop
      rw [hm.unbound _ habsent, hc i b f hop, Option.none_or]
    · simp [Table.get?_insert, h] at hop
      rw [hm.first op i b f hop, Option.some_or]
  unbound op hop := by
    by_cases h : op = c.op
    · simp [Table.get?_insert, h] at hop
    · simp [Table.get?_insert, h] at hop
      rw [firstBind_append, hm.unbound op hop, hother op h, Option.none_or]
  natives := by
    cases g <;> simp [Monitor.having, Target.tally, Counters.mark, Targets.natives, Target.isCallSite,
      Table.values_insert_of_absent habsent, hm.natives]
  callSites := by
    cases g <;> simp [Monitor.having, Target.tally, Counters.mark, Targets.callSites, Target.isCallSite,
      Table.values_insert_of_absent habsent, hm.callSites]

/-- A call that binds nothing new, if it is no bind or its operation has a target. -/
theorem same (hm : Captures past m) (hc : ∀ op, m.targets.get? op = none → c.binding? op = none) :
    Captures (past ++ [c]) m where
  first op i b f hop := by rw [firstBind_append, hm.first op i b f hop, Option.some_or]
  unbound op hop := by rw [firstBind_append, hm.unbound op hop, hc op hop, Option.none_or]
  natives := hm.natives
  callSites := hm.callSites

theorem served (hm : Captures past m) (hs : Served m answer c log r m') : Captures (past ++ [c]) m' := by
  cases hs with
  | @taken c g htg =>
    refine hm.same fun op hop => ?_
    cases c with
    | bind i b f =>
      have hne : i.id ≠ op := by
        rintro rfl
        simp_all [TargetCall.op]
      simp [binding?, hne]
    | _ => rfl
  | @captured i b f htg =>
    refine hm.having htg (fun _ _ _ hg => ?_) fun op hop => ?_
    · cases hg
      simp [binding?, TargetCall.op]
    · exact if_neg (Ne.symm hop)
  | unknown => exact hm.same fun _ _ => rfl
  | refused => exact hm.same fun _ _ => rfl
  | @set i htg => exact hm.having (c := .breakpoint i) htg (fun _ _ _ hg => by cases hg) fun _ _ => rfl

theorem native_of_reply {g : Target} {b : Binding} (hr : c.reply g = .ok (.code b)) :
    ∃ i, g = .native i b.guarded b.entry := by
  have hbinding {op : OperationId} {s : Signature} (hb : (g.binding op s).map Grant.code = .ok (.code b)) :
      ∃ i, g = .native i b.guarded b.entry := by
    cases hg : g.binding op s with
    | error f => simp [hg, Except.map] at hb
    | ok b' =>
      simp [hg, Except.map] at hb
      exact hb ▸ Target.native_of_binding hg
  cases c with
  | bind => exact hbinding hr
  | lookUp => exact hbinding hr
  | breakpoint => cases hr

theorem code {b : Binding} (hm : Captures past m) (hs : Served m answer c log (.ok (.code b)) m') :
    firstBind c.op (past ++ [c]) = some b := by
  generalize hr : Except.ok (Grant.code b) = r at hs
  cases hs with
  | taken htg =>
    obtain ⟨i, rfl⟩ := native_of_reply hr.symm
    rw [firstBind_append, hm.first _ i _ _ htg, Option.some_or]
  | @captured i b f htg =>
    cases hr
    have hnone : firstBind i.id past = none := hm.unbound _ htg
    simp [firstBind_append, TargetCall.op, binding?, hnone]
  | _ => cases hr

end Captures

theorem after_captures (h : Host σ) (past calls : List TargetCall) {x : Scene Monitor σ} (hx : Captures past x.own) :
    Captures (past ++ calls) (after h calls x).own := by
  induction calls generalizing past x with
  | nil => simpa [after] using hx
  | cons c calls ih =>
    have hc : Captures (past ++ [c]) (c.play h x).2.own := hx.served (play_served h c x).asks.2
    simpa [after] using ih (past ++ [c]) hc

theorem after_lasting (h : Host σ) (calls : List TargetCall) {x : Scene Monitor σ} {op : OperationId} {g : Target}
    (hg : x.own.targets.get? op = some g) : (after h calls x).own.targets.get? op = some g := by
  induction calls generalizing x with
  | nil => exact hg
  | cons c calls ih => exact ih ((play_served h c x).asks.2.lasting hg)

/-! ## Written once -/

/-- What is to be said of the targets after the calls in `past`, when the scene is `x`. -/
structure WrittenOnce (h : Host σ) (past : List TargetCall) (x : Scene Monitor σ) : Prop where
  /-- A target with its kind, member, flag and code stays, whatever is called later. -/
  lasting : ∀ op g, x.own.targets.get? op = some g → ∀ later, (after h later x).own.targets.get? op = some g
  /-- What is handed out now is what the first bind of the operation came with. -/
  first : ∀ (c : TargetCall) b, (c.play h x).1 = .ok (.code b) → firstBind c.op (past ++ [c]) = some b
  /-- A call that gets a fault leaves the whole monitor as it was. -/
  atomic : ∀ (c : TargetCall) f, (c.play h x).1 = .error f → (c.play h x).2.own = x.own
  /-- If the operation has a target, that alone decides, and the host is not asked. -/
  taken : ∀ (c : TargetCall) g, x.own.targets.get? c.op = some g →
    (c.play h x).1 = c.reply g ∧ (c.play h.logged).asks x = []
  /-- If it has none it can be bound, -/
  binds : ∀ i b f, x.own.targets.get? i.id = none →
    ((TargetCall.bind i b f).play h x).1 = .ok (.code ⟨b, f⟩) ∧
      ((TargetCall.bind i b f).play h x).2.own.targets.get? i.id = some (.native i b f)
  /-- there is nothing to look up, -/
  unknown : ∀ op s, x.own.targets.get? op = none → ((lookUp op s).play h x).1 = .error (.unknownOperation op)
  /-- and it gets a breakpoint exactly if the host, asked once, sets it. -/
  breaks : ∀ i, x.own.targets.get? i.id = none →
    let answer := (h.setBreakpoint i.id x.host).1
    ((TargetCall.breakpoint i).play h.logged).asks x = [.setBreakpoint i.id answer] ∧
      ((TargetCall.breakpoint i).play h x).1 = answer.map (fun _ => .breakpoint true) ∧
      (((TargetCall.breakpoint i).play h x).2.own.targets.get? i.id = some (.callSite i) ↔ answer = .ok ())
  /-- The host is asked for nothing else. -/
  asked : ∀ c : TargetCall, ∀ e ∈ (c.play h.logged).asks x, ∃ i answer,
    c = .breakpoint i ∧ e = .setBreakpoint i.id answer ∧ x.own.targets.get? i.id = none
  natives : x.own.counters.nativesBound = x.own.targets.natives
  callSites : x.own.counters.breakpointsSet = x.own.targets.callSites
  total : x.own.targets.size = x.own.counters.nativesBound + x.own.counters.breakpointsSet

/-- After any history of calls on a monitor that had no target, targets are written once. -/
theorem targets_written_once (h : Host σ) (restricts : ThreadPredicate) (volatile : Option ThreadPredicate)
    (w : Window) (past : List TargetCall) (s : σ) (ns : List Notice) :
    WrittenOnce h past (after h past ⟨.ofPredicates restricts volatile w, s, ns⟩) := by
  have hm : Captures past (after h past ⟨.ofPredicates restricts volatile w, s, ns⟩).own :=
    after_captures h [] past ⟨nofun, fun _ _ => rfl, rfl, rfl⟩
  generalize after h past ⟨.ofPredicates restricts volatile w, s, ns⟩ = x at hm
  have hserved (c : TargetCall) := (play_served h c x).asks.2
  constructor
  case lasting => exact fun op g hg later => after_lasting h later hg
  case first =>
    intro c b hr
    have hs := hserved c
    rw [hr] at hs
    exact hm.code hs
  case atomic => exact fun c f hf => (hserved c).of_fault hf
  case taken =>
    intro c g hg
    obtain ⟨hasked, hreply, -⟩ := (hserved c).of_taken hg
    exact ⟨hreply, hasked⟩
  case binds =>
    intro i b f hg
    obtain ⟨hreply, hx⟩ := (hserved (.bind i b f)).of_bind hg
    exact ⟨hreply, by simp [hx, Table.get?_insert]⟩
  case unknown => exact fun op s hg => (hserved (.lookUp op s)).of_lookUp hg
  case breaks =>
    intro i hg answer
    obtain ⟨hasked, hreply, hset⟩ := (hserved (.breakpoint i)).of_breakpoint hg
    exact ⟨hasked, hreply, hset⟩
  case asked =>
    intro c e he
    obtain ⟨i, hc, heq, hg⟩ := (hserved c).asked e he
    exact ⟨i, _, hc, heq, hg⟩
  case natives => exact hm.natives
  case callSites => exact hm.callSites
  case total => rw [hm.natives, hm.callSites, Targets.size_eq]

/-- The host refuses a breakpoint on an operation it does not know. The operation is bound
    all the same, and what was bound first is handed out from then on. -/
theorem refused_breakpoint_leaves_room_for_a_bind :
    let h := Process.host ⟨"r"⟩ ⟨1⟩
    let i : Member := ⟨⟨7⟩, "T", "sleep", true, true⟩
    let past : List TargetCall := [.breakpoint i, .bind i true (.unary .double), .bind i false .unit]
    let start : Scene Monitor Process :=
      ⟨.ofPredicates (markerPredicate "x") none ⟨1, 1, by decide, by decide⟩, .fresh, []⟩
    WrittenOnce h past (after h past start) ∧
      ((TargetCall.breakpoint i).play h start).1 = .error (.breakpointRejected ⟨7⟩) ∧
      ((TargetCall.bind i false (.unary .negate)).play h (after h past start)).1 = .ok (.code ⟨true, .unary .double⟩) ∧
      firstBind ⟨7⟩ past = some ⟨true, .unary .double⟩ ∧
      (after h past start).own.counters.nativesBound = 1 := by
  intro h i past start
  exact ⟨targets_written_once h _ _ _ past .fresh [], rfl, rfl, rfl, rfl⟩

end StallGuard
