/-
  StallGuard.Proofs.Tending — what an engine knows of the runtime it watches.

  An engine tends a runtime in so far as its hooks and targets are those that its requests
  and its policy ask for among the members catalogued there. `told` picks the members it
  was told of: hooks and call sites must be right for all members (nothing is there that
  should not be) and complete for those. Of members just catalogued an engine knows nothing
  until their type is resolved.
  - `adopt_hooks` / `adopt_targets`: looking at one member adds it to those told of.
  - `resolveType_hooks` / `resolveType_targets`: resolving a type adds the type's members.
  - `registerHook_hooks`: a request made later overrides, for the members it resolves to
    and for every member to come.
-/

import StallGuard.Proofs.Frame

namespace StallGuard

variable {π σ β : Type}

/-! ## A runtime as a host -/

section Host

variable (rt : RuntimeId) (t : ThreadId) (w : World)

@[simp] theorem World.host_threadInfo (a : ThreadId) : (World.host (.runtime rt) t).threadInfo a w =
    (if a = t then .ok ((w.process.thread t).info t) else .error (.threadNotAccessible a), w) := rfl

@[simp] theorem World.host_stackFrames (a : ThreadId) (start count : Nat) :
    (World.host (.runtime rt) t).stackFrames a start count w =
      (if a = t then .ok ((w.process.thread t).page start count) else .error (.threadNotAccessible a), w) := rfl

@[simp] theorem World.host_typeMembers (owner : String) :
    (World.host (.runtime rt) t).typeMembers owner w = ((w.process.runtime rt).typeMembers owner, w) := rfl

@[simp] theorem World.host_memberInfo (op : OperationId) :
    (World.host (.runtime rt) t).memberInfo op w = ((w.process.runtime rt).memberInfo op, w) := rfl

@[simp] theorem World.host_setBreakpoint (op : OperationId) :
    (World.host (.runtime rt) t).setBreakpoint op w = (((w.process.runtime rt).setBreakpoint op).1,
      { w with process := w.process.changeRuntime rt fun _ => ((w.process.runtime rt).setBreakpoint op).2 }) := rfl

end Host

theorem Runtime.setBreakpoint_known {r : Runtime} {op : OperationId} {m : Member} (h : r.byId? op = some m) :
    (r.setBreakpoint op).1 = .ok () ∧ (r.setBreakpoint op).2.breaksAt op = true := by
  unfold Runtime.setBreakpoint
  rw [h]
  refine ⟨rfl, ?_⟩
  dsimp only
  split
  · assumption
  · simp [Runtime.breaksAt]

namespace Engine

open Act

/-! ## What is asked for -/

/-- The hook that the last request for the member asks for. -/
def hookFor (e : Engine π) (m : Member) : Option Hook := (e.requests.get? m.key).map fun a => ⟨m.owner, m.name, a⟩

/-- The member blocks and is to be reached through a breakpoint. -/
def breaksOn (e : Engine π) (m : Member) : Bool := e.policy.isBlocking m.key && !m.native

/-- The hooks are those asked for among `members`, with none missing for those told of. -/
structure HooksTended (members : List Member) (told : Member → Prop) (e : Engine π) : Prop where
  sound : ∀ op k, e.monitor.hooks.get? op = some k → ∃ m ∈ members, m.id = op ∧ e.hookFor m = some k
  complete : ∀ m ∈ members, told m → ∀ k, e.hookFor m = some k → e.monitor.hooks.get? m.id = some k

/-- The entry point captured for an operation. -/
def entryOf (e : Engine π) (op : OperationId) : Option EntryPoint :=
  match e.monitor.targets.get? op with
  | some (.native _ _ c) => some c
  | _ => none

/-- Call sites are those asked for, with none missing for members told of; whatever was
    bound is a member that is no call site, guarded as the policy says, and holds the
    entry point of `captured`. -/
structure TargetsTended (r : Runtime) (captured : OperationId → Option EntryPoint) (told : Member → Prop)
    (e : Engine π) : Prop where
  callSite : ∀ op m, e.monitor.targets.get? op = some (.callSite m) →
    m ∈ r.members ∧ m.id = op ∧ e.breaksOn m = true ∧ r.breaksAt op = true
  native : ∀ op m g c, e.monitor.targets.get? op = some (.native m g c) →
    m ∈ r.members ∧ m.id = op ∧ e.breaksOn m = false ∧ g = e.policy.isBlocking m.key
  complete : ∀ m ∈ r.members, told m → e.breaksOn m = true → e.monitor.targets.get? m.id = some (.callSite m)
  natives : ∀ key op, e.natives.get? key = some op →
    ∃ m g c, m.key = key ∧ e.monitor.targets.get? op = some (.native m g c)
  entries : ∀ op, e.entryOf op = captured op

theorem HooksTended.mono {ms : List Member} {told told' : Member → Prop} {e : Engine π}
    (h : HooksTended ms told e) (ht : ∀ m ∈ ms, told' m → told m) : HooksTended ms told' e :=
  ⟨h.sound, fun m hm hto => h.complete m hm (ht m hm hto)⟩

variable {captured : OperationId → Option EntryPoint}

theorem TargetsTended.mono {r : Runtime} {told told' : Member → Prop} {e : Engine π}
    (h : TargetsTended r captured told e) (ht : ∀ m ∈ r.members, told' m → told m) :
    TargetsTended r captured told' e :=
  ⟨h.callSite, h.native, fun m hm hto => h.complete m hm (ht m hm hto), h.natives, h.entries⟩

/-- Hooks and requests are all that `HooksTended` looks at. -/
theorem HooksTended.congr {ms : List Member} {told : Member → Prop} {e e' : Engine π} (h : HooksTended ms told e)
    (hh : e'.monitor.hooks = e.monitor.hooks) (hr : e'.requests = e.requests) : HooksTended ms told e' := by
  obtain ⟨hs, hc⟩ := h
  constructor
  · rw [hh]; simpa only [hookFor, hr] using hs
  · rw [hh]; simpa only [hookFor, hr] using hc

/-- More breakpoints and other requests do not matter to the targets. -/
theorem TargetsTended.congr {r r' : Runtime} {told : Member → Prop} {e e' : Engine π}
    (h : TargetsTended r captured told e)
    (hm : r'.members = r.members) (hb : ∀ op, r.breaksAt op = true → r'.breaksAt op = true)
    (ht : e'.monitor.targets = e.monitor.targets) (hn : e'.natives = e.natives) (hp : e'.policy = e.policy) :
    TargetsTended r' captured told e' := by
  obtain ⟨hc, hna, hco, hns, hen⟩ := h
  constructor
  · rw [ht, hm]
    intro op m e
    obtain ⟨h1, h2, h3, h4⟩ := hc op m e
    exact ⟨h1, h2, by simpa only [breaksOn, hp] using h3, hb op h4⟩
  · rw [ht, hm]; simpa only [breaksOn, hp] using hna
  · rw [ht, hm]; simpa only [breaksOn, hp] using hco
  · rw [ht, hn]; exact hns
  · simpa only [entryOf, ht] using hen

/-! ## One member -/

/-- The engine once it has hooked a member, if anything was requested of it. -/
def hooked (e : Engine π) (owner : String) (m : Member) : Engine π :=
  match e.requests.get? (owner, m.name) with
  | some a => { e with monitor := { e.monitor with hooks := e.monitor.hooks.insert m.id ⟨owner, m.name, a⟩ } }
  | none => e

theorem hooked_aside (e : Engine π) (owner : String) (m : Member) :
    (hooked e owner m).monitor.targets = e.monitor.targets ∧ (hooked e owner m).natives = e.natives ∧
      (hooked e owner m).policy = e.policy ∧ (hooked e owner m).requests = e.requests := by
  unfold hooked
  split <;> exact ⟨rfl, rfl, rfl, rfl⟩

/-- Adopting a member is hooking it and then, if it blocks, setting its breakpoint. -/
theorem adopt_at (h : Host σ) (owner : String) (m : Member) (s : Scene (Engine π) σ) :
    adopt h owner m s = (if s.own.policy.isBlocking (owner, m.name) && !m.native then placeBreakpoint h m else pure ())
      { s with own := hooked s.own owner m } := by
  unfold adopt hooked
  simp only [bind_at, own]
  cases s.own.requests.get? (owner, m.name) <;> rfl

/-- The engine once it has a call site on a member. -/
def placing (e : Engine π) (m : Member) : Engine π :=
  { e with monitor := { e.monitor with
    targets := e.monitor.targets.insert m.id (.callSite m)
    counters := e.monitor.counters.mark .breakpointSet } }

/-- What setting a breakpoint can do: nothing to a member that has a target, else whatever
    the host says. -/
theorem placeBreakpoint_cases (h : Host σ) (m : Member) (s : Scene (Engine π) σ) :
    (∃ tg, s.own.monitor.targets.get? m.id = some tg ∧ (placeBreakpoint h m s).2 = s) ∨
      (s.own.monitor.targets.get? m.id = none ∧ (h.setBreakpoint m.id s.host).1 = .ok () ∧
        (placeBreakpoint h m s).2.host = (h.setBreakpoint m.id s.host).2 ∧
        (placeBreakpoint h m s).2.own = s.own.placing m) ∨
      (s.own.monitor.targets.get? m.id = none ∧ ∃ f, (h.setBreakpoint m.id s.host).1 = .error f ∧
        (placeBreakpoint h m s).2.host = (h.setBreakpoint m.id s.host).2 ∧
        (placeBreakpoint h m s).2.own = { s.own with monitor := { s.own.monitor with
          counters := s.own.monitor.counters.mark (.fault f) } }) := by
  cases ht : s.own.monitor.targets.get? m.id with
  | some tg =>
    left
    refine ⟨tg, rfl, ?_⟩
    simp only [placeBreakpoint, watch, Monitor.setBreakpoint, bind_at, own, ht]
    rfl
  | none =>
    right
    cases hb : (h.setBreakpoint m.id s.host).1 with
    | ok u =>
      left
      refine ⟨rfl, rfl, ?_, ?_⟩ <;>
        · simp only [placeBreakpoint, watch, Monitor.setBreakpoint, bind_at, own, ht, ask, hb]
          rfl
    | error f =>
      right
      refine ⟨rfl, f, rfl, ?_, ?_⟩ <;>
        · simp only [placeBreakpoint, watch, Monitor.setBreakpoint, bind_at, own, ht, ask, hb]
          rfl

theorem placeBreakpoint_aside (h : Host σ) (m : Member) (s : Scene (Engine π) σ) :
    (placeBreakpoint h m s).2.own.monitor.hooks = s.own.monitor.hooks ∧
      (placeBreakpoint h m s).2.own.requests = s.own.requests ∧
      (placeBreakpoint h m s).2.own.policy = s.own.policy ∧
      (placeBreakpoint h m s).2.own.natives = s.own.natives := by
  rcases placeBreakpoint_cases h m s with ⟨tg, -, e⟩ | ⟨-, -, -, e⟩ | ⟨-, f, -, -, e⟩ <;>
    rw [e] <;> exact ⟨rfl, rfl, rfl, rfl⟩

theorem adopt_aside (h : Host σ) (owner : String) (m : Member) (s : Scene (Engine π) σ) :
    (adopt h owner m s).2.own.monitor.hooks = (hooked s.own owner m).monitor.hooks ∧
      (adopt h owner m s).2.own.requests = s.own.requests ∧ (adopt h owner m s).2.own.policy = s.own.policy := by
  obtain ⟨-, -, hp, hr⟩ := hooked_aside s.own owner m
  rw [adopt_at]
  split
  · obtain ⟨h1, h2, h3, -⟩ := placeBreakpoint_aside h m { s with own := hooked s.own owner m }
    exact ⟨h1, h2.trans hr, h3.trans hp⟩
  · exact ⟨rfl, hr, hp⟩

/-! ### Hooks, on any host -/

variable {ms : List Member} {told : Member → Prop}

/-- No two of the members have one operation. -/
def Apart (ms : List Member) : Prop := ∀ m ∈ ms, ∀ n ∈ ms, m.id = n.id → m = n

theorem adopt_hooks (h : Host σ) {m : Member} (hms : Apart ms) (hm : m ∈ ms) {s : Scene (Engine π) σ}
    (hs : HooksTended ms told s.own) :
    HooksTended ms (fun n => told n ∨ n = m) (adopt h m.owner m s).2.own := by
  obtain ⟨hh, hr, -⟩ := adopt_aside h m.owner m s
  suffices HooksTended ms (fun n => told n ∨ n = m) (hooked s.own m.owner m) from
    this.congr hh (hr.trans (hooked_aside s.own m.owner m).2.2.2.symm)
  unfold hooked
  have hkey : (m.owner, m.name) = m.key := rfl
  rw [hkey]
  cases hreq : s.own.requests.get? m.key with
  | none =>
    refine ⟨hs.sound, ?_⟩
    rintro n hn (ht | rfl) k hk
    · exact hs.complete n hn ht k hk
    · simp [hookFor, hreq] at hk
  | some a =>
    constructor
    · intro op k hk
      simp only [Table.get?_insert] at hk
      split at hk
      · rename_i e
        exact ⟨m, hm, e.symm, by simpa [hookFor, hreq] using hk⟩
      · exact hs.sound op k hk
    · intro n hn ht k hk
      have hk' : s.own.hookFor n = some k := hk
      simp only [Table.get?_insert]
      split
      · rename_i e
        obtain rfl := hms n hn m hm e
        simpa [hookFor, hreq] using hk'
      · rename_i e
        rcases ht with ht | rfl
        · exact hs.complete n hn ht k hk'
        · exact absurd rfl e

theorem forM_adopt_hooks (h : Host σ) (owner : String) (hms : Apart ms) (l : List Member)
    (hl : ∀ m ∈ l, m ∈ ms ∧ m.owner = owner) {s : Scene (Engine π) σ} (hs : HooksTended ms told s.own) :
    HooksTended ms (fun n => told n ∨ n ∈ l) (l.forM (adopt h owner) s).2.own := by
  induction l generalizing s told with
  | nil => exact hs.mono fun m _ hm => by simpa using hm
  | cons m l ih =>
    obtain ⟨hm, rfl⟩ := hl m List.mem_cons_self
    have := ih (fun n hn => hl n (List.mem_cons_of_mem _ hn)) (adopt_hooks h hms hm hs)
    rw [forM_cons_at]
    refine this.mono fun n _ hn => ?_
    rcases hn with hn | hn
    · exact Or.inl (Or.inl hn)
    · rcases List.mem_cons.1 hn with rfl | hn
      · exact Or.inl (Or.inr rfl)
      · exact Or.inr hn

/-! ### Targets, on a runtime -/

section Runtime

variable {rt : RuntimeId} {t : ThreadId} {s : Scene (Engine π) World} {r r' : Runtime} {e : Engine π} {m : Member}

/-- The runtime that the acting engine watches. -/
abbrev watched (rt : RuntimeId) (s : Scene (Engine π) World) : Runtime := s.host.process.runtime rt

/-- The engine's act left the host as it was but for breakpoints. -/
theorem more_of_keeps {a : Act (Engine π) World β}
    (ha : ∀ w : World, Keeps (Scene.Within (fun _ => True) fun w' => w.process.MoreBreakpoints w'.process) a)
    (s : Scene (Engine π) World) : s.host.process.MoreBreakpoints (a s).2.host.process :=
  (ha s.host s ⟨trivial, .refl _⟩).host

theorem aside_true : Aside fun _ : Engine π => True := fun _ _ _ _ _ => trivial

theorem adopt_more (owner : String) (m : Member) (s : Scene (Engine π) World) (h : HostId) :
    s.host.process.MoreBreakpoints (adopt (World.host h t) owner m s).2.host.process :=
  more_of_keeps (fun w => adopt_keeps aside_true (World.host_keeps h t w) owner m) s

theorem resolveType_more (owner : String) (s : Scene (Engine π) World) (h : HostId) :
    s.host.process.MoreBreakpoints (resolveType (World.host h t) owner s).2.host.process :=
  more_of_keeps (fun w => resolveType_keeps aside_true (World.host_keeps h t w) owner) s

/-- What stands where a call site is asked for can only be the member's own. -/
theorem TargetsTended.standing (hd : r.Distinct) (h : TargetsTended r captured told e) (hm : m ∈ r.members)
    (hb : e.breaksOn m = true) {tg : Target} (htg : e.monitor.targets.get? m.id = some tg) :
    TargetsTended r captured (fun n => told n ∨ n = m) e := by
  refine ⟨h.callSite, h.native, ?_, h.natives, h.entries⟩
  rintro n hn (ht | rfl) hbn
  · exact h.complete n hn ht hbn
  · cases tg with
    | callSite k =>
      obtain ⟨hk, hid, -⟩ := h.callSite _ k htg
      rw [hd.eq_of_id hk hn hid] at htg
      exact htg
    | native k g c =>
      obtain ⟨hk, hid, hno, -⟩ := h.native _ k g c htg
      rw [hd.eq_of_id hk hn hid, hb] at hno
      cases hno

/-- A call site with its breakpoint, for a member that had no target. -/
theorem TargetsTended.placing (h : TargetsTended r captured told e) (hm : m ∈ r.members)
    (hb : e.breaksOn m = true) (hnone : e.monitor.targets.get? m.id = none) (hmem : r'.members = r.members)
    (hbr : ∀ op, r.breaksAt op = true → r'.breaksAt op = true) (hset : r'.breaksAt m.id = true) :
    TargetsTended r' captured (fun n => told n ∨ n = m) (e.placing m) := by
  have hget : ∀ op, (e.placing m).monitor.targets.get? op =
      if op = m.id then some (.callSite m) else e.monitor.targets.get? op := fun op => Table.get?_insert _ _ _ _
  constructor
  · intro op n hn
    rw [hmem]
    rw [hget] at hn
    split at hn
    · rename_i eo
      cases hn
      exact ⟨hm, eo.symm, hb, by rw [eo]; exact hset⟩
    · obtain ⟨h1, h2, h3, h4⟩ := h.callSite op n hn
      exact ⟨h1, h2, h3, hbr op h4⟩
  · intro op n g c hn
    rw [hmem]
    rw [hget] at hn
    split at hn
    · cases hn
    · exact h.native op n g c hn
  · intro n hn ht hbn
    rw [hmem] at hn
    rcases ht with ht | rfl
    · exact Table.get?_insert_of_absent hnone (h.complete n hn ht hbn)
    · exact (hget _).trans (if_pos rfl)
  · intro key op hk
    obtain ⟨n, g, c, hkey, hn⟩ := h.natives key op hk
    exact ⟨n, g, c, hkey, Table.get?_insert_of_absent hnone hn⟩
  · intro op
    rw [← h.entries op, entryOf, entryOf, hget]
    by_cases eo : op = m.id
    · rw [if_pos eo, eo, hnone]
    · rw [if_neg eo]

/-- A runtime accepts a breakpoint on any of its members. -/
theorem placeBreakpoint_targets (hd : (watched rt s).Distinct) (hm : m ∈ (watched rt s).members)
    (hb : s.own.breaksOn m = true) (hs : TargetsTended (watched rt s) captured told s.own) :
    TargetsTended (watched rt (placeBreakpoint (World.host (.runtime rt) t) m s).2) captured (fun n => told n ∨ n = m)
      (placeBreakpoint (World.host (.runtime rt) t) m s).2.own := by
  have hknown := (Runtime.byId?_eq_some hd).2 ⟨hm, rfl⟩
  obtain ⟨hok, hset⟩ := Runtime.setBreakpoint_known hknown
  rcases placeBreakpoint_cases (World.host (.runtime rt) t) m s with
    ⟨tg, htg, e⟩ | ⟨hnone, -, hhost, hown⟩ | ⟨-, f, hf, -⟩
  · rw [e]
    exact hs.standing hd hm hb htg
  · have hmore := Process.changeRuntime_breakpoints s.host.process rt m.id
    have hw : watched rt (placeBreakpoint (World.host (.runtime rt) t) m s).2 =
        ((watched rt s).setBreakpoint m.id).2 := by
      show Process.runtime (placeBreakpoint (World.host (.runtime rt) t) m s).2.host.process rt = _
      rw [hhost, World.host_setBreakpoint]
      exact Process.runtime_changeRuntime_self _ _ _
    have hmem := hmore.members rt
    have hbr := hmore.breaks rt
    rw [Process.runtime_changeRuntime_self] at hmem hbr
    rw [hw, hown]
    exact hs.placing hm hb hnone hmem hbr hset
  · rw [World.host_setBreakpoint, hok] at hf
    cases hf

theorem adopt_targets (hd : (watched rt s).Distinct) (hm : m ∈ (watched rt s).members)
    (hs : TargetsTended (watched rt s) captured told s.own) :
    TargetsTended (watched rt (adopt (World.host (.runtime rt) t) m.owner m s).2) captured (fun n => told n ∨ n = m)
      (adopt (World.host (.runtime rt) t) m.owner m s).2.own := by
  obtain ⟨ht, hn, hp, -⟩ := hooked_aside s.own m.owner m
  have hs' : TargetsTended (watched rt s) captured told (hooked s.own m.owner m) := hs.congr rfl (fun _ h => h) ht hn hp
  rw [adopt_at]
  split
  · rename_i hb
    exact placeBreakpoint_targets (s := { s with own := hooked s.own m.owner m }) hd hm
      (by rw [← hb]; simp only [breaksOn, hp]; rfl) hs'
  · rename_i hb
    refine ⟨hs'.callSite, hs'.native, ?_, hs'.natives, hs'.entries⟩
    rintro n hn (ht | rfl) hbn
    · exact hs'.complete n hn ht hbn
    · refine absurd ?_ hb
      show s.own.breaksOn n = true
      have hbn' : (hooked s.own n.owner n).breaksOn n = true := hbn
      simpa only [breaksOn, hp] using hbn'

theorem forM_adopt_targets (owner : String) (l : List Member) (hd : (watched rt s).Distinct)
    (hl : ∀ m ∈ l, m ∈ (watched rt s).members ∧ m.owner = owner)
    (hs : TargetsTended (watched rt s) captured told s.own) :
    TargetsTended (watched rt (l.forM (adopt (World.host (.runtime rt) t) owner) s).2)
      captured (fun n => told n ∨ n ∈ l)
      (l.forM (adopt (World.host (.runtime rt) t) owner) s).2.own := by
  induction l generalizing s told with
  | nil => exact hs.mono fun m _ hm => by simpa using hm
  | cons m l ih =>
    obtain ⟨hm, rfl⟩ := hl m List.mem_cons_self
    have hmore := adopt_more (t := t) m.owner m s (.runtime rt)
    have hd' : (watched rt (adopt (World.host (.runtime rt) t) m.owner m s).2).Distinct := by
      have hmem := hmore.members rt
      exact ⟨by rw [watched, hmem]; exact hd.keys, by rw [watched, hmem]; exact hd.ids⟩
    rw [forM_cons_at]
    refine (ih hd' ?_ (adopt_targets hd hm hs)).mono fun n _ hn => ?_
    · intro n hn
      rw [watched, hmore.members rt]
      exact hl n (List.mem_cons_of_mem _ hn)
    · rcases hn with hn | hn
      · exact Or.inl (Or.inl hn)
      · rcases List.mem_cons.1 hn with rfl | hn
        · exact Or.inl (Or.inr rfl)
        · exact Or.inr hn

/-! ## A type -/

/-- An engine that a type does not concern asks nothing of its members. -/
theorem not_concerned {e : Engine π} {owner : String} (h : e.concerns owner = false) {m : Member}
    (hm : m.owner = owner) :
    e.hookFor m = none ∧ e.breaksOn m = false := by
  simp only [concerns, Bool.or_eq_false_iff, List.any_eq_false, decide_eq_true_eq] at h
  have hr : e.requests.get? m.key = none := Table.get?_eq_none.2 fun hk => h.1 m.key hk hm
  have hb : e.policy.isBlocking m.key = false := by
    cases hc : e.policy.isBlocking m.key with
    | false => rfl
    | true => exact absurd hm (h.2 m.key (Table.contains_iff.1 hc))
  exact ⟨by rw [hookFor, hr]; rfl, by rw [breaksOn, hb]; rfl⟩

/-- Resolving a type is adopting each of its members, if there are any and the engine is
    concerned. -/
theorem resolveType_at (owner : String) (s : Scene (Engine π) World) :
    (resolveType (World.host (.runtime rt) t) owner s).2 =
      if s.own.concerns owner
      then (((watched rt s).membersOf owner).forM (adopt (World.host (.runtime rt) t) owner) s).2 else s := by
  unfold resolveType
  rw [bind_at, own_at]
  split
  · rw [bind_at, ask_at, World.host_typeMembers]
    rcases Runtime.typeMembers_cases (watched rt s) owner with ⟨hnil, he⟩ | ⟨-, he⟩
    · dsimp only
      rw [he, hnil]; rfl
    · dsimp only
      rw [he]
  · rfl

theorem resolveType_hooks (owner : String) (hd : (watched rt s).Distinct)
    (hs : HooksTended (watched rt s).members told s.own) :
    HooksTended (watched rt s).members (fun n => told n ∨ n.owner = owner)
      (resolveType (World.host (.runtime rt) t) owner s).2.own := by
  rw [resolveType_at]
  split
  · have := forM_adopt_hooks (World.host (.runtime rt) t) owner (fun m hm n hn e => hd.eq_of_id hm hn e)
      ((watched rt s).membersOf owner) (fun m hm => Runtime.mem_membersOf.1 hm) hs
    refine this.mono fun n hn ht => ?_
    exact ht.imp id fun ho => Runtime.mem_membersOf.2 ⟨hn, ho⟩
  · rename_i hc
    refine ⟨hs.sound, fun n hn ht k hk => ?_⟩
    rcases ht with ht | ho
    · exact hs.complete n hn ht k hk
    · rw [(not_concerned (by simpa using hc) ho).1] at hk
      cases hk

theorem resolveType_targets (owner : String) (hd : (watched rt s).Distinct)
    (hs : TargetsTended (watched rt s) captured told s.own) :
    TargetsTended (watched rt (resolveType (World.host (.runtime rt) t) owner s).2)
      captured (fun n => told n ∨ n.owner = owner)
      (resolveType (World.host (.runtime rt) t) owner s).2.own := by
  have hmem := (resolveType_more (t := t) owner s (.runtime rt)).members rt
  rw [resolveType_at] at hmem ⊢
  split at hmem
  · rename_i hc
    rw [if_pos hc]
    have := forM_adopt_targets (t := t) owner ((watched rt s).membersOf owner) hd
      (fun m hm => Runtime.mem_membersOf.1 hm) hs
    refine this.mono fun n hn ht => ?_
    rw [watched, hmem] at hn
    exact ht.imp id fun ho => Runtime.mem_membersOf.2 ⟨hn, ho⟩
  · rename_i hc
    rw [if_neg hc]
    refine ⟨hs.callSite, hs.native, fun n hn ht hb => ?_, hs.natives, hs.entries⟩
    rcases ht with ht | ho
    · exact hs.complete n hn ht hb
    · rw [(not_concerned (by simpa using hc) ho).2] at hb
      cases hb

/-! ## A request -/

theorem forM_setHook (k : Hook) (l : List OperationId) (s : Scene (Engine π) σ) :
    ∃ hooks : Hooks, (l.forM (fun op => watch (Monitor.setHook op k)) s).2 =
        { s with own := { s.own with monitor := { s.own.monitor with hooks } } } ∧
      ∀ op, hooks.get? op = if op ∈ l then some k else s.own.monitor.hooks.get? op := by
  induction l generalizing s with
  | nil => exact ⟨s.own.monitor.hooks, rfl, fun op => by simp⟩
  | cons o l ih =>
    obtain ⟨hooks, he, hg⟩ := ih (watch (Monitor.setHook o k) s).2
    refine ⟨hooks, he, fun op => ?_⟩
    rw [hg]
    show (if op ∈ l then some k else (s.own.monitor.hooks.insert o k).get? op) = _
    rw [Table.get?_insert]
    by_cases h1 : op ∈ l <;> by_cases h2 : op = o <;> simp [h1, h2]

/-- A request is written down, and hooks every member of that key that is catalogued now. -/
theorem registerHook_at (rt : RuntimeId) (t : ThreadId) (owner name : String) (a : Bool) (s : Scene (Engine π) World) :
    ∃ hooks : Hooks, (registerHook (World.host (.runtime rt) t) owner name a s).2 =
        { s with own := { s.own with
          monitor := { s.own.monitor with hooks }
          requests := s.own.requests.insert (owner, name) a } } ∧
      ∀ op, hooks.get? op = if ∃ m ∈ (watched rt s).members, m.id = op ∧ m.key = (owner, name)
        then some ⟨owner, name, a⟩ else s.own.monitor.hooks.get? op := by
  let s' : Scene (Engine π) World := { s with own := { s.own with requests := s.own.requests.insert (owner, name) a } }
  let ops := (((watched rt s).membersOf owner).filter fun m => m.name = name).map Member.id
  have hops : ∀ op, op ∈ ops ↔ ∃ m ∈ (watched rt s).members, m.id = op ∧ m.key = (owner, name) := by
    intro op
    simp only [ops, List.mem_map, List.mem_filter, Runtime.mem_membersOf, decide_eq_true_eq, Member.key, Prod.mk.injEq]
    constructor
    · rintro ⟨m, ⟨⟨hm, ho⟩, hn⟩, he⟩; exact ⟨m, hm, he, ho, hn⟩
    · rintro ⟨m, hm, he, ho, hn⟩; exact ⟨m, ⟨⟨hm, ho⟩, hn⟩, he⟩
  obtain ⟨hooks, he, hg⟩ := forM_setHook ⟨owner, name, a⟩ ops s'
  refine ⟨hooks, ?_, fun op => by rw [hg]; simp only [hops]; rfl⟩
  refine Eq.trans ?_ he
  unfold registerHook Host.resolve
  rw [bind_at, change_at, bind_at, ask_at, bind_at, World.host_typeMembers]
  rcases Runtime.typeMembers_cases (watched rt s) owner with ⟨hnil, h⟩ | ⟨-, h⟩
  · have hempty : ops = [] := by simp only [ops, hnil]; rfl
    dsimp only
    rw [h, hempty]
    rfl
  · dsimp only
    rw [h]
    rfl

theorem registerHook_hooks (owner name : String) (a : Bool) {ms : List Member} {s : Scene (Engine π) World}
    (hms : ms = (watched rt s).members) (hd : (watched rt s).Distinct) (hs : HooksTended ms told s.own) :
    HooksTended ms told (registerHook (World.host (.runtime rt) t) owner name a s).2.own := by
  subst hms
  obtain ⟨hooks, he, hg⟩ := registerHook_at rt t owner name a s
  rw [he]
  have hfor : ∀ m : Member, hookFor { s.own with
      monitor := { s.own.monitor with hooks }, requests := s.own.requests.insert (owner, name) a } m =
        if m.key = (owner, name) then some ⟨m.owner, m.name, a⟩ else s.own.hookFor m := by
    intro m
    simp only [hookFor, Table.get?_insert]
    split <;> rfl
  -- A member's operation is hooked anew exactly when the member bears the key.
  have hid : ∀ m ∈ (watched rt s).members,
      (∃ n ∈ (watched rt s).members, n.id = m.id ∧ n.key = (owner, name)) ↔ m.key = (owner, name) := by
    intro m hm
    constructor
    · rintro ⟨n, hn, e, hk⟩
      rw [← hd.eq_of_id hn hm e]
      exact hk
    · exact fun hk => ⟨m, hm, rfl, hk⟩
  constructor
  · intro op k hk
    rw [hg] at hk
    split at hk
    · rename_i hex
      obtain ⟨m, hm, rfl, hkey⟩ := hex
      refine ⟨m, hm, rfl, ?_⟩
      obtain ⟨rfl, rfl⟩ := Prod.mk.inj hkey
      rw [hfor, if_pos hkey]
      exact hk
    · rename_i hno
      obtain ⟨m, hm, rfl, hh⟩ := hs.sound op k hk
      refine ⟨m, hm, rfl, ?_⟩
      rw [hfor, if_neg fun hkey => hno ⟨m, hm, rfl, hkey⟩]
      exact hh
  · intro m hm ht k hk
    rw [hfor] at hk
    rw [hg]
    simp only [hid m hm]
    split at hk
    · rename_i hkey
      rw [if_pos hkey]
      obtain ⟨rfl, rfl⟩ := Prod.mk.inj hkey
      exact hk
    · rename_i hkey
      rw [if_neg hkey]
      exact hs.complete m hm ht k hk

end Runtime

end Engine

end StallGuard
