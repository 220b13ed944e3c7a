/-
  StallGuard.Proofs.Standing — an engine in good standing with the runtime it watches.

  A site is in order (`Site.Orderly`) if its catalogues are and its engines are numbered by
  the order of their builds. An engine stands well there (`Stands`) if it still is what its
  plan made of it, remembers what the record says it was asked, hooks and targets what that
  comes to, and is told of new members as long as it is alive. `P` picks the members that
  it was told of: all of them between moves, fewer while a definition is being announced.

  - `Attends.quiet`: what concerns no engine leaves every engine where it stood.
  - `Attends.other`, `Attends.self`: an act of another engine does so too; an act of its own
    leaves an engine in good standing if what it then minds accords.
-/

import StallGuard.Proofs.Acting
import StallGuard.Proofs.Move

namespace StallGuard

variable {π α β : Type}

/-! ## Standing -/

namespace Engine

/-- The engine is, apart from what it has learned, what its plan made of it. -/
structure Follows (plan : Plan π) (e : Engine π) : Prop where
  policy : e.policy = plan.policy
  settings : e.settings = plan.settings
  handler : e.handler = plan.handler
  window : plan.settings.window = .ok e.monitor.window
  restricts : e.monitor.register.restricts = plan.restricts
  volatile : e.monitor.register.volatile = plan.volatile

/-- Hooks, targets, counters, verdicts, requests and bindings do not come into it. -/
theorem Follows.aside {plan : Plan π} {e e' : Engine π} (h : Follows plan e) (hp : e'.policy = e.policy)
    (hs : e'.settings = e.settings) (hh : e'.handler = e.handler) (hw : e'.monitor.window = e.monitor.window)
    (hr : e'.monitor.register = e.monitor.register) : Follows plan e' :=
  ⟨hp.trans h.policy, hs.trans h.settings, hh.trans h.handler, hw ▸ h.window, hr ▸ h.restricts, hr ▸ h.volatile⟩

theorem follows_aside (plan : Plan π) : Aside (Follows plan) := fun _ _ _ _ h =>
  ⟨h.policy, h.settings, h.handler, h.window, h.restricts, h.volatile⟩

theorem follows_indifferent (plan : Plan π) : Indifferent (Follows plan) where
  monitor _ := {
    counters := fun _ _ h => ⟨h.policy, h.settings, h.handler, h.window, h.restricts, h.volatile⟩
    verdicts := fun _ _ h => ⟨h.policy, h.settings, h.handler, h.window, h.restricts, h.volatile⟩ }

/-- What the engine knows accords with its plan, the record and the runtime. -/
structure Minds (plan : Plan π) (id : EngineId) (past : List Event) (r : Runtime) (told : Member → Prop)
    (e : Engine π) : Prop where
  follows : Follows plan e
  requests : ∀ key, e.requests.get? key = lastRequest plan id past key
  hooks : (∀ ev ∈ past, ev ≠ .hooked id) → HooksTended r.members told e
  targets : TargetsTended r (firstBound id past) told e

variable {plan : Plan π} {id : EngineId} {past : List Event} {r r' : Runtime} {told told' : Member → Prop}
  {e e' : Engine π}

theorem Minds.mono (h : Minds plan id past r told e) (ht : ∀ m ∈ r.members, told' m → told m) :
    Minds plan id past r told' e :=
  ⟨h.follows, h.requests, fun hc => (h.hooks hc).mono ht, h.targets.mono ht⟩

/-- The runtime may gain breakpoints. -/
theorem Minds.more (h : Minds plan id past r told e) (hm : r'.members = r.members)
    (hb : ∀ op, r.breaksAt op = true → r'.breaksAt op = true) : Minds plan id past r' told e :=
  ⟨h.follows, h.requests, by rw [hm]; exact h.hooks, h.targets.congr hm hb rfl rfl rfl⟩

/-- The runtime may gain members that the engine was not told of. -/
theorem Minds.gain (h : Minds plan id past r told e) (hm : ∀ m ∈ r.members, m ∈ r'.members)
    (ht : ∀ m ∈ r'.members, told' m → m ∈ r.members ∧ told m)
    (hb : ∀ op, r.breaksAt op = true → r'.breaksAt op = true) :
    Minds plan id past r' told' e := by
  refine ⟨h.follows, h.requests, fun hc => ⟨?_, ?_⟩, ?_, ?_, ?_, h.targets.natives, h.targets.entries⟩
  · intro op k hk
    obtain ⟨m, hin, hm'⟩ := (h.hooks hc).sound op k hk
    exact ⟨m, hm m hin, hm'⟩
  · intro m hin hto k hk
    exact (h.hooks hc).complete m (ht m hin hto).1 (ht m hin hto).2 k hk
  · intro op m ho
    obtain ⟨h1, h2, h3, h4⟩ := h.targets.callSite op m ho
    exact ⟨hm m h1, h2, h3, hb op h4⟩
  · intro op m g c ho
    obtain ⟨h1, h2⟩ := h.targets.native op m g c ho
    exact ⟨hm m h1, h2⟩
  · intro m hin hto
    exact h.targets.complete m (ht m hin hto).1 (ht m hin hto).2

/-- Other hooks that accord, and other verdicts and counters, do not matter. -/
theorem Minds.congr (h : Minds plan id past r told e) (hf : Follows plan e') (hh : e'.monitor.hooks = e.monitor.hooks)
    (ht : e'.monitor.targets = e.monitor.targets) (hr : e'.requests = e.requests) (hn : e'.natives = e.natives) :
    Minds plan id past r told e' :=
  ⟨hf, by rw [hr]; exact h.requests, fun hc => (h.hooks hc).congr hh hr,
    h.targets.congr rfl (fun _ h => h) ht hn (hf.policy.trans h.follows.policy.symm)⟩

/-- What is recorded of other engines does not matter. -/
theorem Minds.record (h : Minds plan id past r told e) {evs : List Event} (he : ∀ ev ∈ evs, ev.subject? ≠ some id) :
    Minds plan id (past ++ evs) r told e := by
  refine ⟨h.follows, fun key => ?_, fun hc => h.hooks fun ev hev => hc ev (List.mem_append_left _ hev), ?_⟩
  · rw [lastRequest_append_of_other past he key]; exact h.requests key
  · rw [firstBound_append_of_other past he]; exact h.targets

section Runtime

variable {rt : RuntimeId} {t : ThreadId} {s : Scene (Engine π) World}

/-- An act that only counts and keeps verdicts. -/
theorem Minds.kept (h : Minds plan id past (watched rt s) told s.own) {a : Act (Engine π) World β}
    (ha : ∀ (J : Engine π → Prop) (w : World), Indifferent J →
      Keeps (Scene.Within J fun w' => w.process.MoreBreakpoints w'.process) a) :
    Minds plan id past (watched rt (a s).2) told (a s).2.own := by
  have hJ : Indifferent fun e : Engine π => Follows plan e ∧ e.monitor.hooks = s.own.monitor.hooks ∧
      e.monitor.targets = s.own.monitor.targets ∧ e.requests = s.own.requests ∧ e.natives = s.own.natives :=
    ⟨fun e => ⟨fun m c h => ⟨((follows_indifferent plan).monitor e).counters m c h.1, h.2⟩,
      fun m v h => ⟨((follows_indifferent plan).monitor e).verdicts m v h.1, h.2⟩⟩⟩
  obtain ⟨⟨hf, hh, ht, hr, hn⟩, hmore⟩ := ha _ s.host hJ s ⟨⟨h.follows, rfl, rfl, rfl, rfl⟩, .refl _⟩
  exact (h.congr hf hh ht hr hn).more (hmore.members rt) (hmore.breaks rt)

/-- Looking at a type again, the engine gets to know its members. -/
theorem Minds.resolve (h : Minds plan id past (watched rt s) told s.own) (hd : (watched rt s).Distinct)
    (owner : String) :
    Minds plan id past (watched rt (resolveType (World.host (.runtime rt) t) owner s).2)
      (fun m => told m ∨ m.owner = owner) (resolveType (World.host (.runtime rt) t) owner s).2.own := by
  have hJ : Aside fun e : Engine π => Follows plan e ∧ e.requests = s.own.requests := fun e hk tg c he =>
    ⟨follows_aside plan e hk tg c he.1, he.2⟩
  obtain ⟨⟨hf, hr⟩, hmore⟩ := resolveType_keeps hJ (World.host_keeps (.runtime rt) t s.host) owner s
    ⟨⟨h.follows, rfl⟩, .refl _⟩
  refine ⟨hf, fun key => by rw [hr]; exact h.requests key, fun hc => ?_, resolveType_targets owner hd h.targets⟩
  rw [watched, hmore.members rt]
  exact resolveType_hooks owner hd (h.hooks hc)

end Runtime

end Engine

open Engine Site

/-- Engine `id` of the site, built from `plan` to watch `rt`, and the slot it has. -/
structure Stands (rt : RuntimeId) (plan : Plan π) (id : EngineId) (past : List Event) (P : Member → Prop)
    (s : Site π α) (slot : Slot π) : Prop where
  found : s.slots.get? id = some slot
  host : slot.host = .runtime rt
  opened : s.process.runtimes.contains rt = true
  listens : slot.alive = true → .engine id ∈ (s.process.runtime rt).listeners
  minds : Minds plan id past (s.process.runtime rt) (fun m => slot.alive = true ∧ P m) slot.engine

/-- The site is in order and the engine stands well in it. -/
def Attends (rt : RuntimeId) (plan : Plan π) (id : EngineId) (past : List Event) (P : Member → Prop)
    (s : Site π α) : Prop := s.Orderly ∧ ∃ slot, Stands rt plan id past P s slot

section

variable {rt : RuntimeId} {plan : Plan π} {id : EngineId} {past : List Event} {P Q : Member → Prop} {s s' : Site π α}
  {slot : Slot π}

theorem Attends.mono (h : Attends rt plan id past P s) (hPQ : ∀ m, Q m → P m) : Attends rt plan id past Q s := by
  obtain ⟨ho, slot, h⟩ := h
  exact ⟨ho, slot, h.found, h.host, h.opened, h.listens, h.minds.mono fun m _ hm => ⟨hm.1, hPQ m hm.2⟩⟩

theorem Attends.quiet (hs : Attends rt plan id past P s) (h : s.Quiet s') : Attends rt plan id past P s' := by
  obtain ⟨ho, slot, hs⟩ := hs
  refine ⟨h.steady.orderly ho, slot, by rw [h.slots]; exact hs.found, hs.host, h.opened rt hs.opened, ?_,
    hs.minds.more (h.alike.members rt) (h.breaks rt)⟩
  exact fun ha => h.listeners rt id (by rw [alive_iff hs.found]; exact ha) (hs.listens ha)

/-! ### Acts -/

/-- Whatever another engine does, this one stands as it stood. -/
theorem Attends.other {t : ThreadId} {j : EngineId} {fallback : β} {act : Host World → Act (Engine π) World β}
    (hs : Attends rt plan id past P s) (hj : j ≠ id) (ht : Tame act) :
    Attends rt plan id past P (acting t j fallback act s).2 := by
  cases h : s.slots.get? j with
  | none => rw [acting_none h]; exact hs
  | some old =>
    rw [acting_at h]
    obtain ⟨ho, slot, hs⟩ := hs
    have hw := ht old.host t old.engine s.world
    refine ⟨(Steady.of_insert h _ hw.alike _).orderly ho, slot, ?_, hs.host, hw.opened rt hs.opened, ?_,
      hs.minds.more (hw.members rt) (hw.breaks rt)⟩
    · rw [acted_other (Ne.symm hj)]
      exact hs.found
    · intro ha
      have hl := hw.listeners rt
      show .engine id ∈
        (Process.runtime (act (World.host old.host t) ⟨old.engine, s.world, []⟩).2.host.process rt).listeners
      rw [hl]; exact hs.listens ha

/-- What the engine itself does leaves it in good standing if what it minds then accords. -/
theorem Attends.self {t : ThreadId} {fallback : β} {act : Host World → Act (Engine π) World β} {past' : List Event}
    (ho : s.Orderly) (hs : Stands rt plan id past P s slot) (ht : Tame act)
    (hm : Minds plan id past'
      ((act (World.host (.runtime rt) t) ⟨slot.engine, s.world, []⟩).2.host.process.runtime rt)
      (fun m => slot.alive = true ∧ Q m) (act (World.host (.runtime rt) t) ⟨slot.engine, s.world, []⟩).2.own) :
    Attends rt plan id past' Q (acting t id fallback act s).2 := by
  have hhost : World.host slot.host t = World.host (.runtime rt) t := by rw [hs.host]
  rw [acting_at hs.found, hhost]
  have hw := ht (.runtime rt) t slot.engine s.world
  refine ⟨(Steady.of_insert hs.found _ hw.alike _).orderly ho,
    { slot with engine := (act (World.host (.runtime rt) t) ⟨slot.engine, s.world, []⟩).2.own }, ?_, hs.host,
    hw.opened rt hs.opened, ?_, hm⟩
  · exact acted_found ..
  · intro ha
    have hl := hw.listeners rt
    show .engine id ∈
      (Process.runtime (act (World.host (.runtime rt) t) ⟨slot.engine, s.world, []⟩).2.host.process rt).listeners
    rw [hl]; exact hs.listens ha

end

end StallGuard
