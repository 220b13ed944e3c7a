/-
  StallGuard.Proofs.Move — everything that can happen to a site, a move at a time.

  A move is a piece of work on a site during which no handler runs: a definition with its
  announcement, the build of an engine, one act of an engine, a frame pushed or cut, a
  check entered or left. A `Run` is any sequence of moves, by any threads, with handler
  programs among them: an operation that calls a handler is the moves before the call,
  those of the handler's program, and the moves after it. So the states that runs reach
  are those between operations and, besides, every state in which a handler is at work.

  Moves leave a record of what later answers hang on (`Event`): members defined, requests
  made of engines, entry points bound, hooks set past the requests. From the record are read
  - `lastRequest`: the last request that an engine got for a member, its policy's first;
  - `firstBound`: the entry point of the first bind of an operation that succeeded;
  - `definitions`: the members defined, in order.
-/

import StallGuard.Site.Frames

namespace StallGuard

/-! ## The record -/

inductive Event
  /-- The member was defined on the runtime, or used as one that may have to be. -/
  | defined (rt : RuntimeId) (m : MemberRef)
  | requested (id : EngineId) (key : MemberKey) (allowed : Bool)
  /-- A bind of the operation succeeded; the caller's own entry point was `entry`. -/
  | bound (id : EngineId) (op : OperationId) (entry : EntryPoint)
  /-- A hook of the engine was set by other means than a request. -/
  | hooked (id : EngineId)
deriving DecidableEq

namespace Event

def request? (id : EngineId) (key : MemberKey) : Event → Option Bool
  | requested id' key' allowed => if id' = id ∧ key' = key then some allowed else none
  | _ => none

def binding? (id : EngineId) (op : OperationId) : Event → Option EntryPoint
  | bound id' op' entry => if id' = id ∧ op' = op then some entry else none
  | _ => none

def definition? : Event → Option (RuntimeId × MemberRef)
  | defined rt m => some (rt, m)
  | _ => none

/-- The engine that the event is about. -/
def subject? : Event → Option EngineId
  | defined .. => none
  | requested id .. => some id
  | bound id .. => some id
  | hooked id => some id

end Event

variable {π α : Type}

/-- The requests that engine `id`, built from this plan, got for a member, oldest first. -/
def requestsFor (plan : Plan π) (id : EngineId) (past : List Event) (key : MemberKey) : List Bool :=
  (plan.policy.allowances.get? key).toList ++ past.filterMap (Event.request? id key)

def lastRequest (plan : Plan π) (id : EngineId) (past : List Event) (key : MemberKey) : Option Bool :=
  (requestsFor plan id past key).getLast?

def firstBound (id : EngineId) (past : List Event) (op : OperationId) : Option EntryPoint :=
  past.findSome? (Event.binding? id op)

def definitions (past : List Event) : List (RuntimeId × MemberRef) := past.filterMap Event.definition?

/-! ### Longer records -/

section

variable {plan : Plan π} {id : EngineId} (past : List Event)

theorem lastRequest_requested (key key' : MemberKey) (a : Bool) :
    lastRequest plan id (past ++ [.requested id key a]) key' =
      if key' = key then some a else lastRequest plan id past key' := by
  unfold lastRequest requestsFor
  rw [List.filterMap_append, ← List.append_assoc, List.getLast?_append]
  by_cases h : key' = key
  · subst h; simp [Event.request?]
  · have h' : ¬key = key' := fun e => h e.symm
    simp [Event.request?, h, h']

theorem lastRequest_append_of_none {evs : List Event} {key : MemberKey} (h : ∀ ev ∈ evs, ev.request? id key = none) :
    lastRequest plan id (past ++ evs) key = lastRequest plan id past key := by
  rw [lastRequest, lastRequest, requestsFor, requestsFor, List.filterMap_append, List.filterMap_eq_nil_iff.2 h,
    List.append_nil]

theorem lastRequest_append_of_other {evs : List Event} (h : ∀ ev ∈ evs, ev.subject? ≠ some id) (key : MemberKey) :
    lastRequest plan id (past ++ evs) key = lastRequest plan id past key := by
  refine lastRequest_append_of_none past fun ev hev => ?_
  cases ev with
  | requested j k a => exact if_neg fun e => h _ hev (congrArg some e.1)
  | _ => rfl

theorem firstBound_bound (op op' : OperationId) (f : EntryPoint) :
    firstBound id (past ++ [.bound id op f]) op' = (firstBound id past op').or (if op' = op then some f else none) := by
  unfold firstBound
  rw [List.findSome?_append]
  congr 1
  by_cases h : op' = op
  · subst h; simp [Event.binding?]
  · have h' : ¬op = op' := fun e => h e.symm
    simp [Event.binding?, h, h']

theorem firstBound_append_of_none {evs : List Event} (h : ∀ ev ∈ evs, ∀ op, ev.binding? id op = none) :
    firstBound id (past ++ evs) = firstBound id past := by
  funext op
  have hnone : evs.findSome? (Event.binding? id op) = none := List.findSome?_eq_none_iff.2 fun ev hev => h ev hev op
  rw [firstBound, List.findSome?_append, hnone, Option.or_none]
  rfl

theorem firstBound_append_of_other {evs : List Event} (h : ∀ ev ∈ evs, ev.subject? ≠ some id) :
    firstBound id (past ++ evs) = firstBound id past := by
  refine firstBound_append_of_none past fun ev hev op => ?_
  cases ev with
  | bound j o f => exact if_neg fun e => h _ hev (congrArg some e.1)
  | _ => rfl

end

/-! ## Moves -/

/-- What an engine can be made to do in one act. -/
inductive Use
  | request (owner name : String) (allowed : Bool)
  | resolve (owner : String)
  | isRestricted (thread : ThreadId)
  | forget (thread : ThreadId)
  | classify (thread : ThreadId) (start : ScanStart)
  | check (thread : ThreadId) (op : OperationId) (start : ScanStart)
  | reached (op : OperationId)
  | bind (m : MemberRef) (entry : EntryPoint)
  | hook (op : OperationId) (k : Hook)

open Act in
/-- The act of engine `id`, and what it adds to the record. -/
def Use.act (id : EngineId) (h : Host World) : Use → Act (Engine π) World (List Event)
  | request owner name allowed => do
    let _ ← Engine.registerHook h owner name allowed
    pure [.requested id (owner, name) allowed]
  | resolve owner => do
    Engine.resolveType h owner
    pure []
  | isRestricted thread => do
    let _ ← Engine.watch (Monitor.isRestricted h thread)
    pure []
  | forget thread => do
    let _ ← Engine.watch (Monitor.forget thread)
    pure []
  | classify thread start => do
    let _ ← Engine.watch (Monitor.classify h thread start)
    pure []
  | check thread op start => do
    let _ ← Engine.watch (Monitor.check h thread op start)
    pure []
  | reached op => do
    if (← own).monitor.targets.isBreakpoint op then
      Engine.watch (Monitor.mark .breakpointHit)
      pure []
    else pure []
  | bind m entry => do
    let b ← Engine.bindNative h m entry
    pure (b.map fun b => .bound id b.1 entry).toList
  | hook op k => do
    Engine.watch (Monitor.setHook op k)
    pure [.hooked id]

inductive Move (π α : Type)
  /-- A runtime comes into being, with members that it knows from the start. -/
  | openRuntime (t : ThreadId) (rt : RuntimeId) (ms : List MemberRef)
  | define (t : ThreadId) (rt : RuntimeId) (m : MemberRef)
  | defineAll (t : ThreadId) (rt : RuntimeId) (ms : List MemberRef)
  | setBreakpoint (rt : RuntimeId) (op : OperationId)
  | prune (rt : RuntimeId)
  | listen (rt : RuntimeId) (id : RecorderId)
  | newThread (name : Option String)
  | push (t : ThreadId) (rt : RuntimeId) (m : MemberRef)
  | cut (t : ThreadId) (g : FrameGuard)
  | declare (t : ThreadId) (rt : RuntimeId) (capabilities : List String)
  | hold (t : ThreadId) (capability : String)
  | letGo (t : ThreadId) (g : CapabilityGuard)
  /-- A check on the thread begins or ends. -/
  | checking (t : ThreadId) (b : Bool)
  | build (t : ThreadId) (h : HostId) (plan : Plan π)
  | disown (id : EngineId)
  /-- An operation takes the engine up, or is done with it. -/
  | retain (id : EngineId)
  | release (id : EngineId)
  | use (t : ThreadId) (id : EngineId) (u : Use)
  | give (t : ThreadId) (n : Notice)
  | recorders (f : Table RecorderId Recorder → Table RecorderId Recorder)
  | stage (f : Stage → Stage)
  | extra (f : α → α)

namespace Move

/-- A runtime is opened once, and only engines that are alive are taken up or used. -/
def Allowed (s : Site π α) : Move π α → Prop
  | openRuntime _ rt _ => s.process.runtimes.contains rt = false
  | retain id => s.alive id = true
  | use _ id _ => s.alive id = true
  | _ => True

open Site in
/-- The move as a play that gives what it adds to the record. -/
def play : Move π α → Play π α (List Event)
  | openRuntime t rt ms => do
    Site.openRuntime t rt ms
    pure (ms.map (.defined rt))
  | define t rt m => do
    let _ ← Site.define t rt m
    pure [.defined rt m]
  | defineAll t rt ms => do
    Site.defineAll t rt ms
    pure (ms.map (.defined rt))
  | setBreakpoint rt op => do
    changeProcess (·.changeRuntime rt fun r => (r.setBreakpoint op).2)
    pure []
  | prune rt => do
    let _ ← listeners rt
    pure []
  | listen rt id => do
    subscribe (.runtime rt) (.recorder id)
    pure []
  | newThread name => do
    let _ ← inProcess (·.newThread name)
    pure []
  | push t rt m => do
    let _ ← pushFrame t rt m
    pure [.defined rt m]
  | cut t g => do
    dropFrame t g
    pure []
  | declare t rt capabilities => do
    Site.declare t rt capabilities
    pure []
  | hold t capability => do
    let _ ← inProcess (·.holdCapability t capability)
    pure []
  | letGo t g => do
    changeProcess (·.dropCapability t g)
    pure []
  | checking t b => do
    setChecking t b
    pure []
  | build t h plan => do
    let _ ← Site.build t h plan
    pure []
  | disown id => do
    Site.disown id
    pure []
  | retain id => do
    changeSlot id fun slot => { slot with uses := slot.uses + 1 }
    pure []
  | release id => do
    changeSlot id fun slot => { slot with uses := slot.uses - 1 }
    pure []
  | use t id u => acting t id [] fun h => u.act id h
  | give t n => do
    Site.give t n
    pure []
  | recorders f => do
    modify fun s => { s with recorders := f s.recorders }
    pure []
  | stage f => do
    changeStage f
    pure []
  | extra f => do
    changeExtra f
    pure []

end Move

/-! ## Runs -/

/-- A run from `s`, what it recorded, and where it ended. -/
inductive Run (s : Site π α) : List Event → Site π α → Prop
  | start : Run s [] s
  | step {past : List Event} {s' : Site π α} (m : Move π α) : Run s past s' → m.Allowed s' →
      Run s (past ++ (m.play s').1) (m.play s').2

/-- A site on which nothing has happened. -/
def Site.bare (stage : Stage) (extra : α) : Site π α := { world := { process := .fresh, stage }, extra }

/-- Engine `id` was built from `plan` on the runtime `rt`, in a run from a bare site: `past`
    is the record up to the build, `since` the record from then on. -/
inductive Built (rt : RuntimeId) (plan : Plan π) (id : EngineId) :
    (past since : List Event) → Site π α → Prop
  | intro {stage : Stage} {extra : α} {past since : List Event} {s s' : Site π α} (t : ThreadId) :
      Run (Site.bare stage extra) past s → (Site.build t (.runtime rt) plan s).1.1 = .ok id →
      Run (Site.build t (.runtime rt) plan s).2 since s' → Built rt plan id past since s'

theorem Run.trans {s s' s'' : Site π α} {past since : List Event} (h : Run s past s') (h' : Run s' since s'') :
    Run s (past ++ since) s'' := by
  induction h' with
  | start => rw [List.append_nil]; exact h
  | step m _ ha ih => rw [← List.append_assoc]; exact ih.step m ha

/-! ### Runs that are written out -/

instance (s : Site π α) (m : Move π α) : Decidable (m.Allowed s) :=
  match m with
  | .openRuntime _ rt _ => inferInstanceAs (Decidable (s.process.runtimes.contains rt = false))
  | .retain id => inferInstanceAs (Decidable (s.alive id = true))
  | .use _ id _ => inferInstanceAs (Decidable (s.alive id = true))
  | .define .. | .defineAll .. | .setBreakpoint .. | .prune .. | .listen .. | .newThread .. | .push .. | .cut ..
  | .declare .. | .hold .. | .letGo .. | .checking .. | .build .. | .disown .. | .release .. | .give ..
  | .recorders .. | .stage .. | .extra .. => inferInstanceAs (Decidable True)

namespace Move

/-- The record of these moves, made one after the other, and where they end. -/
def playAll (s : Site π α) : List (Move π α) → List Event × Site π α
  | [] => ([], s)
  | m :: ms => ((m.play s).1 ++ (playAll (m.play s).2 ms).1, (playAll (m.play s).2 ms).2)

def AllAllowed (s : Site π α) : List (Move π α) → Prop
  | [] => True
  | m :: ms => m.Allowed s ∧ AllAllowed (m.play s).2 ms

instance decidableAllAllowed (s : Site π α) : (ms : List (Move π α)) → Decidable (AllAllowed s ms)
  | [] => inferInstanceAs (Decidable True)
  | m :: ms => @instDecidableAnd _ _ _ (decidableAllAllowed (m.play s).2 ms)

end Move

theorem Run.of_moves {s : Site π α} {ms : List (Move π α)} (h : Move.AllAllowed s ms) :
    Run s (Move.playAll s ms).1 (Move.playAll s ms).2 := by
  induction ms generalizing s with
  | nil => exact .start
  | cons m ms ih =>
    have h1 : Run s ([] ++ (m.play s).1) (m.play s).2 := .step m .start h.1
    exact h1.trans (ih h.2)

/-- Moves on a bare site, a build, and moves after it. -/
theorem Built.of_moves (stage : Stage) (extra : α) (t : ThreadId) {rt : RuntimeId} {plan : Plan π} {id : EngineId}
    {past since : List Event} (before after : List (Move π α))
    (hbefore : Move.AllAllowed (Site.bare stage extra) before)
    (hpast : (Move.playAll (Site.bare stage extra) before).1 = past)
    (hbuild : (Site.build t (.runtime rt) plan (Move.playAll (Site.bare stage extra) before).2).1.1 = .ok id)
    (hafter : Move.AllAllowed (Site.build t (.runtime rt) plan (Move.playAll (Site.bare stage extra) before).2).2 after)
    (hsince : (Move.playAll (Site.build t (.runtime rt) plan
      (Move.playAll (Site.bare stage extra) before).2).2 after).1 = since) :
    Built rt plan id past since
      (Move.playAll (Site.build t (.runtime rt) plan (Move.playAll (Site.bare stage extra) before).2).2 after).2 := by
  subst hpast hsince
  exact .intro t (.of_moves hbefore) hbuild (.of_moves hafter)

end StallGuard
