/-
  StallGuard.Proofs.Vanishing — an engine that was given up is not noticed any more.

  Two runs are compared. In one an engine is built and given up again; in the other it was
  never built. What happens afterwards is a script: operations on the site, each chosen by
  the answers so far (`Script`). Handlers' programs are scripts as well, so a script may lead
  to any number of others, one within the other. A script calls engines by the numbers they
  have if the engine was never built; in the run in which it was they are translated
  (`Numbering`), and what a script cannot see is the difference. It sees what the operations
  answer, the engines, the threads and the catalogues, but not which breakpoints are set.
  - `Operation.concurs`: every operation answers the same in both runs.
  - `Script.concurs`: so does whatever is made of them.
  - `dropped_engine_invisible`: what the runs have in common in the end, whom the runtimes
    tell, and that nothing but breakpoints is left behind.
  - `objecting_recorder_tells_runs_apart`: a recorder that objects to breakpoints meets those
    as well.
-/

import StallGuard.Proofs.Twins

namespace StallGuard

open Engine Site

variable {π α β γ : Type} {e : Nat} {left : RuntimeId → OperationId → Prop} {s s' : Site π α} {id : EngineId}
  {t : ThreadId} {rt : RuntimeId}

/-! ## Operations -/

/-- What an engine is told or asked, other than to check a call. -/
inductive Command : Type → Type
  | registerHook (owner name : String) (allowed : Bool) : Command Nat
  | resolveType (owner : String) : Command Unit
  | setHook (op : OperationId) (hook : Hook) : Command Unit
  | isRestricted (thread : ThreadId) : Command Bool
  | forget (thread : ThreadId) : Command Bool
  | classify (thread : ThreadId) (start : ScanStart) : Command Verdict

def Command.act (h : Host World) : Command β → Act (Engine π) World β
  | registerHook owner name allowed => Engine.registerHook h owner name allowed
  | resolveType owner => Engine.resolveType h owner
  | setHook op hook => watch (Monitor.setHook op hook)
  | isRestricted thread => watch (Monitor.isRestricted h thread)
  | forget thread => watch (Monitor.forget thread)
  | classify thread start => watch (Monitor.classify h thread start)

/-- What can be done to a site, and the type of the answer. A runtime that nothing was done
    to is a new one. An engine can be asked for something as long as it is alive. -/
inductive Operation (π α : Type) : Type → Type 1
  | define (t : ThreadId) (rt : RuntimeId) (m : MemberRef) : Operation π α OperationId
  | defineAll (t : ThreadId) (rt : RuntimeId) (ms : List MemberRef) : Operation π α Unit
  | push (t : ThreadId) (rt : RuntimeId) (m : MemberRef) : Operation π α FrameGuard
  | enter (t : ThreadId) (rt : RuntimeId) (m : MemberRef) : Operation π α (Outcome FrameGuard)
  | drop (t : ThreadId) (g : FrameGuard) : Operation π α Unit
  | declare (t : ThreadId) (rt : RuntimeId) (capabilities : List String) : Operation π α Unit
  | hold (t : ThreadId) (capability : String) : Operation π α CapabilityGuard
  | letGo (t : ThreadId) (g : CapabilityGuard) : Operation π α Unit
  | newThread (name : Option String) : Operation π α ThreadId
  | setBreakpoint (t : ThreadId) (rt : RuntimeId) (op : OperationId) : Operation π α (Except Fault Unit)
  /-- The recorder, whatever it is, is subscribed to the runtime. -/
  | listen (rt : RuntimeId) (id : RecorderId) : Operation π α Unit
  /-- The recorder is switched off. -/
  | detach (id : RecorderId) : Operation π α Unit
  | listenerCount (rt : RuntimeId) : Operation π α Nat
  /-- All threads, and the members that each runtime knows. -/
  | survey : Operation π α (Table ThreadId Thread × (RuntimeId → List Member))
  /-- Reads what the caller keeps on the site. -/
  | kept : Operation π α α
  | keep (a : α) : Operation π α Unit
  | build (t : ThreadId) (rt : RuntimeId) (plan : Plan π) : Operation π α (Except SetupError EngineId × Plan π)
  | giveUp (id : EngineId) : Operation π α Unit
  /-- Its hooks, targets, verdicts and counters, and all else that it holds. -/
  | inspect (id : EngineId) : Operation π α (Option (Engine π))
  | command {β : Type} (t : ThreadId) (id : EngineId) (c : Command β) : Operation π α (Option β)
  | isBlockingContext (t : ThreadId) (id : EngineId) : Operation π α (Option Bool)
  | checkBlocking (t : ThreadId) (id : EngineId) (op : OperationId) : Operation π α (Option (Outcome Unit))
  | enterNative (t : ThreadId) (id : EngineId) (m : MemberRef) (entry : EntryPoint) :
      Operation π α (Option (Outcome EntryPoint))

/-- How engines are called by a script, and how they are numbered on the site. -/
structure Numbering where
  number : EngineId → EngineId
  name : EngineId → EngineId

/-- By their numbers. -/
def Numbering.plain : Numbering := ⟨fun id => id, fun id => id⟩

/-- By the numbers that they would have if engine `e` had not been built. -/
def Numbering.past (e : Nat) : Numbering := ⟨EngineId.past e, EngineId.before e⟩

/-- A play that needs the engine to be alive. -/
def Site.whenAlive (id : EngineId) (x : Play π α (Option β)) : Play π α (Option β) := do
  if (← get).alive id then x else pure none

open Site in
def Operation.play (invoke : Invoke π α) (n : Numbering) : Operation π α β → Play π α β
  | define t rt m => Site.define t rt m
  | defineAll t rt ms => Site.defineAll t rt ms
  | push t rt m => pushFrame t rt m
  | enter t rt m => Site.enter invoke t rt m
  | drop t g => dropFrame t g
  | declare t rt capabilities => Site.declare t rt capabilities
  | hold t capability => inProcess (·.holdCapability t capability)
  | letGo t g => changeProcess (·.dropCapability t g)
  | newThread name => inProcess (·.newThread name)
  | setBreakpoint t rt op => asking (.runtime rt) t (·.setBreakpoint op)
  | listen rt id => subscribe (.runtime rt) (.recorder id)
  | detach id => modify fun s => { s with recorders := s.recorders.modify id fun r => { r with detached := true } }
  | listenerCount rt => List.length <$> listeners rt
  | survey => fun s => ((s.process.threads, fun rt => (s.process.runtime rt).members), s)
  | kept => fun s => (s.extra, s)
  | keep a => changeExtra fun _ => a
  | build t rt plan => (fun r => (r.1.map n.name, r.2)) <$> Site.build t (.runtime rt) plan
  | giveUp id => disown (n.number id)
  | inspect id => whenAlive (n.number id) fun s => (s.engine? (n.number id), s)
  | command t id c => whenAlive (n.number id) (acting t (n.number id) none fun h => some <$> c.act h)
  | isBlockingContext t id => whenAlive (n.number id) (some <$> Site.isBlockingContext t (n.number id))
  | checkBlocking t id op => whenAlive (n.number id) (some <$> Site.checkBlocking invoke t (n.number id) op)
  | enterNative t id m entry => whenAlive (n.number id) (some <$> Site.enterNative invoke t (n.number id) m entry)

/-! ### On both sites -/

theorem Command.act_usual (c : Command β) : Usual fun h => some <$> (c.act h : Act (Engine π) World β) := by
  intro id h x
  cases c with
  | registerHook owner name allowed => exact ⟨.request owner name allowed, rfl⟩
  | resolveType owner => exact ⟨.resolve owner, rfl⟩
  | setHook op hook => exact ⟨.hook op hook, rfl⟩
  | isRestricted thread => exact ⟨.isRestricted thread, rfl⟩
  | forget thread => exact ⟨.forget thread, rfl⟩
  | classify thread start => exact ⟨.classify thread start, rfl⟩

theorem Command.act_impartial {R : World → World → Prop} {h : Host World} (hk : h.Mirrors R) (c : Command β) :
    Act.Impartial R (c.act h : Act (Engine π) World β) := by
  cases c with
  | registerHook owner name allowed => exact registerHook_impartial hk owner name allowed
  | resolveType owner => exact resolveType_impartial hk owner
  | setHook op hook => exact watch_impartial (Act.change_impartial _)
  | isRestricted thread => exact watch_impartial (Monitor.isRestricted_impartial hk thread)
  | forget thread => exact watch_impartial (Monitor.forget_impartial thread)
  | classify thread start => exact watch_impartial (Monitor.classify_impartial hk thread start)

theorem ConcurringOn.map {x x' : Play π α β} (hx : ConcurringOn e left id x x') (f : β → γ) :
    ConcurringOn e left id (f <$> x) (f <$> x') := fun s s' h ha =>
  ⟨congrArg f (hx s s' h ha).1, (hx s s' h ha).2⟩

/-- Switching a recorder off tells it nothing. -/
theorem detach_residue (id : RecorderId) (h : Residue e left s s') :
    Residue e left { s with recorders := s.recorders.modify id fun r => { r with detached := true } }
      { s' with recorders := s'.recorders.modify id fun r => { r with detached := true } } := by
  have hstance : ∀ (s : Site π α) j,
      { s with recorders := s.recorders.modify id fun r => { r with detached := true } }.stance? j =
        if j = id then (s.stance? id).map fun r => (r.1, true) else s.stance? j := fun s j => by
    show ((s.recorders.modify id _).get? j).map _ = _
    rw [Table.get?_modify]
    split
    · unfold stance?
      rw [Option.map_map, Option.map_map]
      rfl
    · rfl
  refine h.recorders (funext fun j => ?_) (fun j => ?_) fun j hj => ?_
  · rw [hstance, hstance, h.stances]
  · rw [hstance]
    split
    · have hmute := h.mute id
      cases hs : s.stance? id with
      | none => rfl
      | some r => rw [hs] at hmute; exact hmute
    · exact h.mute j
  · rw [hstance]
    split
    · cases s.stance? id <;> rfl
    · exact hj

variable {invoke invoke' : Invoke π α}

/-- Every operation gives the same answer on twins. -/
theorem Operation.concurs (hi : Invoke.Concurs e left invoke invoke') (o : Operation π α β) :
    Concurring e left (o.play invoke .plain) (o.play invoke' (.past e)) := by
  cases o with
  | define t rt m =>
    exact (define_residue t rt m).concurring (.move (.define t rt m) (fun _ => rfl) fun _ _ => trivial)
  | defineAll t rt ms =>
    exact (defineAll_residue t rt ms).concurring (.move (.defineAll t rt ms) (fun _ => rfl) fun _ _ => trivial)
  | push t rt m => exact pushFrame_twins t rt m
  | enter t rt m => exact enter_twins hi t rt m
  | drop t g => exact dropFrame_twins t g
  | declare t rt capabilities => exact (declare_residue t rt capabilities).concurring (declare_runs capabilities)
  | hold t capability =>
    have halike : Alike e left (inProcess (·.holdCapability t capability) : Play π α CapabilityGuard)
        (inProcess (·.holdCapability t capability)) :=
      inProcess_residue (fun _ _ h => ⟨congrArg (fun th : Thread => CapabilityGuard.mk th.capabilities.length)
        (h.thread t).symm, h.changeThread t (·.declare [capability])⟩) fun _ _ => rfl
    exact halike.concurring (holdCapability_runs capability)
  | letGo t g =>
    exact (changeThread_residue t (·.cutCapabilities g.length)).concurring
      (.move (.letGo t g) (fun _ => rfl) fun _ _ => trivial)
  | newThread name =>
    have halike : Alike e left (inProcess (·.newThread name) : Play π α ThreadId) (inProcess (·.newThread name)) :=
      inProcess_residue (fun _ _ h => h.newThread name) fun _ _ => rfl
    exact halike.concurring (.move (.newThread name) (fun _ => rfl) fun _ _ => trivial)
  | setBreakpoint t rt op =>
    exact (setBreakpoint_residue t rt op).concurring (.move (.setBreakpoint rt op) (fun _ => rfl) fun _ _ => trivial)
  | listen rt id =>
    have halike : Alike e left (subscribe (.runtime rt) (.recorder id) : Play π α Unit)
        (subscribe (.runtime rt) (.recorder id)) := fun s s' h => ⟨rfl, h.subscribe rt nofun⟩
    exact halike.concurring (.move (.listen rt id) (fun _ => rfl) fun _ _ => trivial)
  | detach id =>
    have halike : Alike e left (Operation.play invoke .plain (.detach id))
        (Operation.play invoke' (.past e) (.detach id)) := fun s s' h => ⟨rfl, detach_residue id h⟩
    exact halike.concurring (.move (.recorders fun r => r.modify id fun r => { r with detached := true })
      (fun _ => rfl) fun _ _ => trivial)
  | listenerCount rt =>
    have halike : Alike e left (List.length <$> listeners rt : Play π α Nat) (List.length <$> listeners rt) :=
      fun s s' h => ⟨((congrArg List.length (h.listeners rt)).trans (List.length_map _)).symm, h.pruned rt⟩
    exact halike.concurring (.move (.prune rt) (fun _ => rfl) fun _ _ => trivial)
  | survey =>
    intro s s' h
    have hp := h.residue.world.process
    exact ⟨Prod.ext hp.threads.symm (funext fun rt => (hp.members rt).symm), h⟩
  | kept => exact fun s s' h => ⟨h.residue.extra.symm, h⟩
  | keep a => exact (changeExtra_residue _).concurring (.move (.extra fun _ => a) (fun _ => rfl) fun _ _ => trivial)
  | build t rt plan =>
    intro s s' h
    obtain ⟨hsaid, hres⟩ := build_residue h.residue h.reached.orderly h.reached.rostered t rt plan
    have hname : ∀ r : Except SetupError EngineId,
        r.map (fun id => id) = (r.map (EngineId.past e)).map (EngineId.before e) := fun r => by
      cases r with
      | error f => rfl
      | ok id => exact congrArg Except.ok (EngineId.before_past e id).symm
    refine ⟨?_, h.reached.move (.move (.build t (.runtime rt) plan) trivial), hres⟩
    show ((Site.build t (.runtime rt) plan s).1.1.map fun id => id, (Site.build t (.runtime rt) plan s).1.2) =
      ((Site.build t (.runtime rt) plan s').1.1.map (EngineId.before e), (Site.build t (.runtime rt) plan s').1.2)
    rw [hsaid, hname]
  | giveUp id =>
    have halive : ∀ slot : Slot π, { slot with owned := false }.alive = true → slot.alive = true := fun slot ha => by
      have huses : decide (0 < slot.uses) = true := ha
      rw [Slot.alive, huses, Bool.or_true]
    have halike : Alike e left (disown id : Play π α Unit) (disown (id.past e)) := fun s s' h =>
      ⟨rfl, h.changeSlot fun slot _ => halive slot⟩
    exact halike.concurring (.move (.disown id) (fun _ => rfl) fun _ _ => trivial)
  | inspect id =>
    have hread : ConcurringOn e left id (fun s => (s.engine? id, s) : Play π α (Option (Engine π)))
        fun s => (s.engine? (id.past e), s) := fun s s' h _ =>
      ⟨(congrArg (Option.map Slot.engine) (h.residue.slots id)).symm, h⟩
    exact hread.whenAlive none
  | command t id c =>
    exact (act_twins c.act_usual fun h => (c.act_impartial (World.host_mirrors h t)).map some).whenAlive none
  | isBlockingContext t id => exact (isBlockingContext_twins.map some).whenAlive none
  | checkBlocking t id op => exact ((checkBlocking_twins hi op).map some).whenAlive none
  | enterNative t id m entry => exact ((enterNative_twins hi m entry).map some).whenAlive none

/-! ## Scripts -/

/-- Operations on a site, each chosen by the answers to those before it. -/
inductive Script (π α β : Type) : Type 1
  | done (b : β)
  | step {γ : Type} (o : Operation π α γ) (next : γ → Script π α β)

def Script.play (invoke : Invoke π α) (n : Numbering) : Script π α β → Play π α β
  | done b => pure b
  | step o next => do
    let answer ← o.play invoke n
    (next answer).play invoke n

/-- Handlers' programs are scripts. At most so many are run within each other; in the place
    of one more the violation is raised. -/
def scripted (programs : π → ThreadId → BlockingCall → Script π α (Outcome Unit)) (n : Numbering) : Nat → Invoke π α
  | 0 => fun _ _ c => pure (.raised c)
  | depth + 1 => fun t p c => (programs p t c).play (scripted programs n depth) n

theorem Script.concurs (hi : Invoke.Concurs e left invoke invoke') (script : Script π α β) :
    Concurring e left (script.play invoke .plain) (script.play invoke' (.past e)) := by
  induction script with
  | done b => exact Mirrors.pure rfl
  | step o next ih => exact Mirrors.andThen (o.concurs hi) ih

theorem scripted_concurs (programs : π → ThreadId → BlockingCall → Script π α (Outcome Unit)) (depth : Nat) :
    Invoke.Concurs e left (scripted programs .plain depth) (scripted programs (.past e) depth) := by
  induction depth with
  | zero => exact fun t p c => Mirrors.pure rfl
  | succ depth ih => exact fun t p c => (programs p t c).concurs ih

/-! ## Nobody notices -/

/-- Events on a runtime reach the engines that are alive on it, in the order of their builds,
    and no others; and a build that is rejected changes nothing. -/
structure Site.TellsLiving (s : Site π α) : Prop where
  ordered : ∀ rt, (told rt s).Pairwise fun j k => j.val < k.val
  living : ∀ rt id, id ∈ told rt s ↔ s.host? id = some (.runtime rt) ∧ s.alive id = true
  rejected : ∀ t h plan f, (build t h plan s).1.1 = .error f → (build t h plan s).2 = s

/-- What two runs have in common that end with `r` and `r'`, if engine `e` was built in the
    second alone, and given up. -/
structure Unnoticed (e : Nat) (r r' : β × Site π α) : Prop where
  /-- Everything that was answered came to the same. -/
  answer : r'.1 = r.1
  /-- The other engines have the same hooks, targets, verdicts and counters, and all else. -/
  engines : ∀ id : EngineId, r'.2.slots.get? (id.past e) = r.2.slots.get? id
  told : ∀ rt, r'.2.told rt = (r.2.told rt).map (EngineId.past e)
  listenerCount : ∀ rt, (listeners rt r'.2).1.length = (listeners rt r.2).1.length
  threads : r'.2.process.threads = r.2.process.threads
  members : ∀ rt, (r'.2.process.runtime rt).members = (r.2.process.runtime rt).members

theorem build_rejected {h : HostId} {plan : Plan π} {f : SetupError} (hf : (build t h plan s).1.1 = .error f) :
    (build t h plan s).2 = s := by
  cases hb : plan.build.1 with
  | error f' => rw [build_error hb]
  | ok engine => rw [build_ok hb] at hf; cases hf

theorem Site.Reached.tellsLiving (h : s.Reached) : s.TellsLiving := by
  obtain ⟨stage, extra, before, h⟩ := h
  exact ⟨fun rt => (h.told rt).1, fun rt => (h.told rt).2, fun _ _ _ _ => build_rejected⟩

theorem Site.Residue.told (h : Residue e left s s') (rt : RuntimeId) :
    s'.told rt = (s.told rt).map (EngineId.past e) := by
  have hpast : ∀ l : Listener, (l.past e).engine? = l.engine?.map (EngineId.past e) := fun l => by
    cases l <;> rfl
  unfold Site.told
  rw [h.listeners, List.filterMap_map, List.map_filterMap]
  exact congrArg (List.filterMap · _) (funext hpast)

/-- With a residue the runtimes tell those who are alive as well. -/
theorem Site.Residue.tellsLiving (h : Residue e left s s') (hs : s.TellsLiving) : s'.TellsLiving := by
  refine ⟨fun rt => ?_, fun rt id => ?_, fun _ _ _ _ => build_rejected⟩
  · rw [h.told, List.pairwise_map]
    exact (hs.ordered rt).imp EngineId.past_lt.2
  · rw [h.told, List.mem_map]
    by_cases hid : id = ⟨e⟩
    · rw [hid, h.gone]
      refine ⟨?_, fun hdead => absurd hdead.2 Bool.false_ne_true⟩
      rintro ⟨k, -, hk⟩
      exact absurd hk (EngineId.past_ne e k)
    · obtain ⟨k, rfl⟩ : ∃ k : EngineId, k.past e = id := ⟨_, EngineId.past_before hid⟩
      rw [h.alive, host?, h.slots]
      refine Iff.trans ?_ (hs.living rt k)
      refine ⟨?_, fun hk => ⟨k, hk, rfl⟩⟩
      rintro ⟨j, hj, hjk⟩
      exact EngineId.past_inj.1 hjk ▸ hj

/-- An engine is built on a runtime and given up again at once, on a site that a run has
    reached, with no recorder that objects to breakpoints. Whatever script follows, with
    whatever scripts for handlers, run to whatever depth: it comes to the same as if the
    engine had never been built, and on both sites events reach the engines that are alive,
    in the order of their builds. The breakpoints that the engine set stay set. -/
theorem dropped_engine_invisible {stage : Stage} {extra : α} {before : List Event} {s : Site π α}
    (hs : Run (bare stage extra) before s) (hmute : ∀ id r, s.recorders.get? id = some r → r.reject = none)
    {plan : Plan π} {engine : Engine π} (hb : plan.build.1 = .ok engine) (t : ThreadId) (rt : RuntimeId)
    (programs : π → ThreadId → BlockingCall → Script π α (Outcome Unit)) (depth : Nat) (script : Script π α β) :
    let e := s.slots.size
    let built := (build t (.runtime rt) plan s).2
    let gone := (disown ⟨e⟩ built).2
    let r := script.play (scripted programs .plain depth) .plain s
    let r' := script.play (scripted programs (.past e) depth) (.past e) gone
    Unnoticed e r r' ∧ r.2.TellsLiving ∧ r'.2.TellsLiving ∧
      ∀ op, (built.engine? ⟨e⟩).any (·.monitor.targets.isBreakpoint op) = true →
        (r'.2.process.runtime rt).breaksAt op = true := by
  intro e built gone r r'
  have hreached : s.Reached := ⟨stage, extra, before, hs⟩
  have hsilent : ∀ id, (s.stance? id).bind Prod.fst = none := fun id => by
    rw [← reject?_stance]
    cases hr : s.recorders.get? id with
    | none => rfl
    | some r => exact hmute id r hr
  let left : RuntimeId → OperationId → Prop := fun rt op => (gone.process.runtime rt).breaksAt op = true
  have htwins : Twins e left s gone :=
    ⟨hreached, build_gone hreached.orderly hreached.rostered hsilent hb t rt⟩
  obtain ⟨hanswer, hafter⟩ : r.1 = r'.1 ∧ Twins e left r.2 r'.2 :=
    script.concurs (scripted_concurs programs depth) s gone htwins
  have hres := hafter.residue
  refine ⟨⟨hanswer.symm, hres.slots, hres.told, fun rt => ?_, hres.world.process.threads, hres.world.process.members⟩,
    hafter.reached.tellsLiving, hres.tellsLiving hafter.reached.tellsLiving, fun op hop => ?_⟩
  · rw [hres.listeners, List.length_map]
  · have hbuilt : built.Reached := hreached.move (.move (.build t (.runtime rt) plan) trivial)
    obtain ⟨engine', hfound⟩ := built_found hb t (.runtime rt) s
    rw [engine?_found hfound] at hop
    have hset : (built.process.runtime rt).breaksAt op = true := hbuilt.breaksAt hfound rfl rfl hop
    exact hres.world.process.breaks rt op (.inl hset)

/-- The engine that is given up leaves a breakpoint on a member; the member is then entered,
    an engine built, and the listeners counted. -/
theorem dropped_engine_invisible_on_its_breakpoint :
    let t : ThreadId := ⟨1⟩
    let r : RuntimeId := ⟨"r"⟩
    let f : MemberRef := ⟨"a::B", "f", false, false⟩
    let plan : Plan Unit := { policy := Policy.empty.markBlocking f.key }
    let s : Site Unit Unit := (Move.playAll (bare {} ()) [.openRuntime t r [f],
      .build t (.runtime r) { policy := .empty }]).2
    let gone := (disown ⟨1⟩ (build t (.runtime r) plan s).2).2
    let programs : Unit → ThreadId → BlockingCall → Script Unit Unit (Outcome Unit) := fun _ _ c => .done (.raised c)
    let script : Script Unit Unit (Outcome FrameGuard × Nat) :=
      .step (.enter t r f) fun o => .step (.build t r plan) fun _ => .step (.listenerCount r) fun n => .done (o, n)
    let left := script.play (scripted programs (.past 1) 1) (.past 1) gone
    (s.process.runtime r).breaksAt ⟨firstNumber⟩ = false ∧ (left.2.process.runtime r).breaksAt ⟨firstNumber⟩ = true ∧
      left.1 = (script.play (scripted programs .plain 1) .plain s).1 ∧ left.2.told r = [⟨0⟩, ⟨2⟩] := by
  intro t r f plan s gone programs script left
  have hrun : Run (bare {} ()) _ s := .of_moves (by decide +kernel)
  have hsize : s.slots.size = 1 := by decide +kernel
  have hkeys : s.recorders.keys = [] := by decide +kernel
  have hmute : ∀ id r, s.recorders.get? id = some r → r.reject = none := fun id r hr => by
    rw [Table.get?_eq_none.2 (hkeys ▸ List.not_mem_nil)] at hr
    cases hr
  have hinvisible := dropped_engine_invisible hrun hmute (rfl : plan.build.1 = .ok _) t r programs 1 script
  dsimp only at hinvisible
  rw [hsize] at hinvisible
  obtain ⟨hunnoticed, -, -, hset⟩ := hinvisible
  refine ⟨by decide +kernel, hset _ (by decide +kernel), hunnoticed.answer, (hunnoticed.told r).trans ?_⟩
  decide +kernel

/-- A recorder that objects to breakpoints listens. An entry passes, unless an engine was
    built and given up before that had asked for a breakpoint. -/
theorem objecting_recorder_tells_runs_apart :
    let t : ThreadId := ⟨1⟩
    let r : RuntimeId := ⟨"r"⟩
    let f : MemberRef := ⟨"a::B", "f", false, false⟩
    let c : BlockingCall := ⟨⟨7⟩, "a.B", "f", false⟩
    let plan : Plan Unit := { policy := Policy.empty.markBlocking f.key }
    let s : Site Unit Unit := (Move.playAll (bare {} ()) [.openRuntime t r [f],
      .recorders (·.insert ⟨0⟩ { reject := some c }), .listen r ⟨0⟩]).2
    let gone := (disown ⟨0⟩ (build t (.runtime r) plan s).2).2
    let programs : Unit → ThreadId → BlockingCall → Script Unit Unit (Outcome Unit) := fun _ _ c => .done (.raised c)
    let script : Script Unit Unit (Outcome FrameGuard) := .step (.enter t r f) fun o => .done o
    (script.play (scripted programs .plain 1) .plain s).1 = .returned ⟨⟨firstNumber⟩, 0⟩ ∧
      (script.play (scripted programs (.past 0) 1) (.past 0) gone).1 = .raised c ∧
      (listeners r s).1 = [.recorder ⟨0⟩] := by
  refine ⟨?_, ?_, ?_⟩ <;> decide +kernel

end StallGuard
