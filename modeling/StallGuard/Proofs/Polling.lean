/-
  StallGuard.Proofs.Polling — threads that poll tasks.

  A thread that runs tasks declares so once, and for as long as it polls one it holds the
  task mark. What it declared and what it holds is one list, and a guard that is dropped
  cuts that list back, whatever was added since the guard was acquired. A `Polling` keeps
  beside the site the guards acquired on the thread and the polls that have begun and not
  ended; a poll is intact until a guard older than it is dropped. A `History` is any
  sequence of declarations, of capabilities held and guards dropped in whatever order, of
  polls inside polls, and of anything else that leaves the capabilities of the thread
  alone, in which the thread joins those that run tasks by declarations on one runtime
  only, and no one but polls holds the task mark.
  - `Books`: the mark of an intact poll stands where its guard says, above the declaration
    of the thread, and every mark is that of a poll.
  - `History.sound`: a history keeps the books, and no engine on the runtime keeps a verdict
    of the thread while it is among those that run tasks.
  - `inTask_leaves`: a play that is run as a poll is part of a history, if the play is.
  - `tasks_restricted_while_polled`: what the engines find, in a poll and after it.
-/

import StallGuard.Proofs.Holding
import StallGuard.Proofs.Unkept
import StallGuard.Proofs.Verdict

namespace StallGuard

open Site Primitives

variable {π α β : Type} {s : Site π α} {t : ThreadId} {rt : RuntimeId} {id : EngineId} {slot : Slot π} {k : Nat}
  {g : CapabilityGuard} {past : List Event}

/-! ## Polls and the capabilities of a thread -/

/-- A poll of a task that has not ended. -/
structure Poll where
  /-- The guard of its task mark. -/
  mark : CapabilityGuard
  /-- How many guards had been acquired when it began. -/
  older : Nat
  /-- None of those was dropped since. -/
  intact : Bool := true
deriving DecidableEq

/-- Guard `k` is dropped. -/
def Poll.spoiled (k : Nat) (p : Poll) : Poll := { p with intact := p.intact && decide (p.older ≤ k) }

theorem Poll.spoiled_intact {p : Poll} : (p.spoiled k).intact = true ↔ p.intact = true ∧ p.older ≤ k := by
  rw [spoiled, Bool.and_eq_true, decide_eq_true_eq]

/-- The capabilities of a thread, the guards acquired on it in order, and its polls,
    innermost first, are in accord. -/
structure Books (caps : List String) (guards : List CapabilityGuard) (polls : List Poll) : Prop where
  /-- Every task mark is that of a poll. -/
  marks : ∀ k, caps[k]? = some taskMark → ∃ p ∈ polls, p.mark.length = k
  held : ∀ p ∈ polls, p.intact = true →
    caps[p.mark.length]? = some taskMark ∧ taskThread ∈ caps.take p.mark.length
  /-- A guard that is newer than an intact poll spares its mark. -/
  newer : ∀ p ∈ polls, p.intact = true → ∀ k g, guards[k]? = some g → p.older ≤ k → p.mark.length < g.length
  nested : polls.Pairwise fun inner outer => outer.intact = true → outer.mark.length < inner.mark.length

namespace Books

variable {caps : List String} {guards : List CapabilityGuard} {polls : List Poll} {p : Poll}

theorem empty : Books [] [] [] := ⟨nofun, nofun, nofun, List.Pairwise.nil⟩

theorem mark_lt (h : Books caps guards polls) (hp : p ∈ polls) (hi : p.intact = true) : p.mark.length < caps.length :=
  (List.getElem?_eq_some_iff.1 (h.held p hp hi).1).1

theorem held_append (h : Books caps guards polls) (hp : p ∈ polls) (hi : p.intact = true) (cs : List String) :
    (caps ++ cs)[p.mark.length]? = some taskMark ∧ taskThread ∈ (caps ++ cs).take p.mark.length := by
  obtain ⟨hmark, hthread⟩ := h.held p hp hi
  rw [List.getElem?_append_left (h.mark_lt hp hi), List.take_append]
  exact ⟨hmark, List.mem_append_left _ hthread⟩

theorem append (h : Books caps guards polls) {cs : List String} (hc : taskMark ∉ cs) :
    Books (caps ++ cs) guards polls where
  marks k hk := by
    rw [List.getElem?_append] at hk
    split at hk
    · exact h.marks k hk
    · exact absurd (List.mem_of_getElem? hk) hc
  held _ hp hi := h.held_append hp hi cs
  newer := h.newer
  nested := h.nested

theorem acquire (h : Books caps guards polls) : Books caps (guards ++ [⟨caps.length⟩]) polls where
  marks := h.marks
  held := h.held
  newer p hp hi k g hk hn := by
    obtain hk | ⟨-, rfl⟩ := Holding.getElem?_concat hk
    · exact h.newer p hp hi k g hk hn
    · exact h.mark_lt hp hi
  nested := h.nested

theorem spoil (h : Books caps guards polls) (k : Nat) : Books caps guards (polls.map (·.spoiled k)) where
  marks j hj := by
    obtain ⟨p, hp, hlen⟩ := h.marks j hj
    exact ⟨p.spoiled k, List.mem_map_of_mem hp, hlen⟩
  held p hp hi := by
    obtain ⟨q, hq, rfl⟩ := List.mem_map.1 hp
    exact h.held q hq (Poll.spoiled_intact.1 hi).1
  newer p hp hi := by
    obtain ⟨q, hq, rfl⟩ := List.mem_map.1 hp
    exact h.newer q hq (Poll.spoiled_intact.1 hi).1
  nested := List.pairwise_map.2 (h.nested.imp fun hn hi => hn (Poll.spoiled_intact.1 hi).1)

/-- A cut above the marks of the intact polls, when only those polls go whose marks do. -/
theorem cut (h : Books caps guards polls) {n : Nat} {rest : List Poll} (hs : rest.Sublist polls)
    (hn : ∀ p ∈ rest, p.intact = true → p.mark.length < n) (hr : ∀ p ∈ polls, p.mark.length < n → p ∈ rest) :
    Books (caps.take n) guards rest where
  marks k hk := by
    rw [List.getElem?_take] at hk
    split at hk
    · rename_i hlt
      obtain ⟨p, hp, rfl⟩ := h.marks k hk
      exact ⟨p, hr p hp hlt, rfl⟩
    · cases hk
  held p hp hi := by
    obtain ⟨hmark, hthread⟩ := h.held p (hs.subset hp) hi
    have hlt := hn p hp hi
    rw [List.getElem?_take, if_pos hlt, List.take_take, Nat.min_eq_left (Nat.le_of_lt hlt)]
    exact ⟨hmark, hthread⟩
  newer p hp := h.newer p (hs.subset hp)
  nested := h.nested.sublist hs

/-- Polls that are older than the guard stay intact, and the cut is above their marks. -/
theorem drop (h : Books caps guards polls) (hg : guards[k]? = some g) :
    Books (caps.take g.length) guards (polls.map (·.spoiled k)) := by
  refine (h.spoil k).cut (.refl _) (fun p hp hi => ?_) fun p hp _ => hp
  obtain ⟨q, hq, rfl⟩ := List.mem_map.1 hp
  obtain ⟨hintact, hnewer⟩ := Poll.spoiled_intact.1 hi
  exact h.newer q hq hintact k g hg hnewer

theorem enter (h : Books caps guards polls) (ht : taskThread ∈ caps) :
    Books (caps ++ [taskMark]) guards (⟨⟨caps.length⟩, guards.length, true⟩ :: polls) where
  marks k hk := by
    obtain hk | ⟨rfl, -⟩ := Holding.getElem?_concat hk
    · obtain ⟨p, hp, hlen⟩ := h.marks k hk
      exact ⟨p, .tail _ hp, hlen⟩
    · exact ⟨_, .head _, rfl⟩
  held p hp hi := by
    obtain rfl | hp := List.mem_cons.1 hp
    · rw [List.take_left]
      exact ⟨List.getElem?_concat_length, ht⟩
    · exact h.held_append hp hi _
  newer p hp hi k g hk hn := by
    obtain rfl | hp := List.mem_cons.1 hp
    · exact absurd (List.getElem?_eq_some_iff.1 hk).1 (Nat.not_lt.2 hn)
    · exact h.newer p hp hi k g hk hn
  nested := List.pairwise_cons.2 ⟨fun _ hp hi => h.mark_lt hp hi, h.nested⟩

theorem leave (h : Books caps guards (p :: polls)) : Books (caps.take p.mark.length) guards polls := by
  refine h.cut (List.sublist_cons_self p polls) (fun q hq hi => List.rel_of_pairwise_cons h.nested hq hi) ?_
  intro q hq hlt
  exact (List.mem_cons.1 hq).resolve_left fun hsame => Nat.lt_irrefl _ (hsame ▸ hlt)

end Books

/-! ## Histories -/

/-- A site, the guards of capabilities acquired on it in order, and the polls of the thread
    that have not ended, innermost first. -/
structure Polling (π α : Type) where
  site : Site π α
  guards : List CapabilityGuard := []
  polls : List Poll := []

namespace Polling

def begin (s : Site π α) : Polling π α := { site := s }

def held (t : ThreadId) (x : Polling π α) : List String := (x.site.process.thread t).capabilities

def after (m : Move π α) (x : Polling π α) : Polling π α := { x with site := (m.play x.site).2 }

/-- The guard of `c`, if it were held now. -/
def next (t : ThreadId) (c : String) (x : Polling π α) : CapabilityGuard :=
  (inProcess (·.holdCapability t c) x.site).1

def hold (t : ThreadId) (c : String) (x : Polling π α) : Polling π α :=
  { x.after (.hold t c) with guards := x.guards ++ [x.next t c] }

/-- Guard `k`, which is `g`, is dropped. -/
def drop (t : ThreadId) (k : Nat) (g : CapabilityGuard) (x : Polling π α) : Polling π α :=
  { x.after (.letGo t g) with polls := x.polls.map (·.spoiled k) }

/-- A poll begins: the task mark is held. -/
def enter (t : ThreadId) (x : Polling π α) : Polling π α :=
  { x.after (.hold t taskMark) with polls := ⟨x.next t taskMark, x.guards.length, true⟩ :: x.polls }

/-- The innermost poll, which is `p`, ends: the guard of its mark is dropped. -/
def leave (t : ThreadId) (p : Poll) (x : Polling π α) : Polling π α :=
  { x.after (.letGo t p.mark) with polls := x.polls.tail }

end Polling

/-- What can happen from `x` on to a thread that runs tasks on the runtime `rt`. -/
inductive History (t : ThreadId) (rt : RuntimeId) (x : Polling π α) : Polling π α → Prop
  | start : History t rt x x
  /-- Anything, by any thread, that leaves the capabilities of this one alone. -/
  | other {y : Polling π α} (m : Move π α) : History t rt x y → m.Allowed y.site →
      (y.after m).held t = y.held t → History t rt x (y.after m)
  | declare {y : Polling π α} (rt' : RuntimeId) (cs : List String) : History t rt x y → taskMark ∉ cs →
      (taskThread ∈ cs → rt' = rt) → History t rt x (y.after (.declare t rt' cs))
  | hold {y : Polling π α} (c : String) : History t rt x y → c ≠ taskMark → c ≠ taskThread →
      History t rt x (y.hold t c)
  | drop {y : Polling π α} {k : Nat} {g : CapabilityGuard} : History t rt x y → y.guards[k]? = some g →
      History t rt x (y.drop t k g)
  | enter {y : Polling π α} : History t rt x y → taskThread ∈ y.held t → History t rt x (y.enter t)
  | leave {y : Polling π α} {p : Poll} : History t rt x y → y.polls.head? = some p → History t rt x (y.leave t p)

theorem World.tells_info (w : World) (t : ThreadId) : World.Tells ((w.process.thread t).info t) w := rfl

namespace Polling

variable {x : Polling π α} {c : String}

theorem held_declare (x : Polling π α) (rt : RuntimeId) (cs : List String) :
    (x.after (.declare t rt cs)).held t = x.held t ++ cs :=
  congrArg Thread.capabilities (Move.play_thread_self (m := .declare t rt cs) rfl)

theorem held_hold (x : Polling π α) (c : String) : (x.after (.hold t c)).held t = x.held t ++ [c] :=
  congrArg Thread.capabilities (Move.play_thread_self (m := .hold t c) rfl)

theorem held_letGo (x : Polling π α) (g : CapabilityGuard) :
    (x.after (.letGo t g)).held t = (x.held t).take g.length := Holding.held_cut x.site g

theorem held_push (x : Polling π α) (rt : RuntimeId) (m : MemberRef) : (x.after (.push t rt m)).held t = x.held t :=
  (congrArg Thread.capabilities (Move.play_thread_self (m := .push t rt m) rfl)).trans rfl

theorem held_cut (x : Polling π α) (f : FrameGuard) : (x.after (.cut t f)).held t = x.held t :=
  (congrArg Thread.capabilities (Move.play_thread_self (m := .cut t f) rfl)).trans rfl

theorem declares_iff : ((x.site.process.thread t).info t).declares c = true ↔ c ∈ x.held t := List.contains_iff_mem

/-- A history keeps this: no verdict of a thread that runs tasks, and the books. -/
structure Sound (t : ThreadId) (rt : RuntimeId) (x : Polling π α) : Prop where
  unkept : x.site.Unkept rt taskThread ((x.site.process.thread t).info t)
  books : Books (x.held t) x.guards x.polls

theorem begin_sound (t : ThreadId) (rt : RuntimeId) (stage : Stage) (extra : α) :
    (begin (bare stage extra : Site π α)).Sound t rt where
  unkept _ _ hf := by cases hf
  books := Books.empty

/-- A move by which the thread does not come to declare `c`. -/
theorem after_unkept {m : Move π α} (ha : m.Allowed x.site)
    (h : x.site.Unkept rt c ((x.site.process.thread t).info t))
    (hc : c ∈ (x.after m).held t → c ∈ x.held t) :
    (x.after m).site.Unkept rt c (((x.after m).site.process.thread t).info t) :=
  (m.unkept (World.tells_info x.site.world t) ha h).mono rfl fun hd => declares_iff.2 (hc (declares_iff.1 hd))

theorem letGo_unkept (h : x.site.Unkept rt c ((x.site.process.thread t).info t)) (g : CapabilityGuard) :
    (x.after (.letGo t g)).site.Unkept rt c (((x.after (.letGo t g)).site.process.thread t).info t) := by
  refine after_unkept (m := .letGo t g) trivial h fun hin => ?_
  rw [held_letGo] at hin
  exact List.mem_of_mem_take hin

theorem hold_unkept {c' : String} (h : x.site.Unkept rt c ((x.site.process.thread t).info t)) (hc : c' ≠ c) :
    (x.after (.hold t c')).site.Unkept rt c (((x.after (.hold t c')).site.process.thread t).info t) := by
  refine after_unkept (m := .hold t c') trivial h fun hin => ?_
  rw [held_hold] at hin
  exact (List.mem_append.1 hin).resolve_right fun hnew => hc (List.mem_singleton.1 hnew).symm

end Polling

namespace History

variable {x y z : Polling π α}

theorem trans (h : History t rt x y) (h' : History t rt y z) : History t rt x z := by
  induction h' with
  | start => exact h
  | other m _ ha hs ih => exact ih.other m ha hs
  | declare rt' cs _ hm ht ih => exact ih.declare rt' cs hm ht
  | hold c _ hm ht ih => exact ih.hold c hm ht
  | drop _ hg ih => exact ih.drop hg
  | enter _ ht ih => exact ih.enter ht
  | leave _ hp ih => exact ih.leave hp

theorem run (h : History t rt x y) : ∃ past, Run x.site past y.site := by
  induction h with
  | start => exact ⟨_, .start⟩
  | other m _ ha _ ih => exact ih.imp' _ fun _ hr => hr.step m ha
  | declare rt' cs _ _ _ ih => exact ih.imp' _ fun _ hr => hr.step (.declare t rt' cs) trivial
  | hold c _ _ _ ih => exact ih.imp' _ fun _ hr => hr.step (.hold t c) trivial
  | @drop y k g _ _ ih => exact ih.imp' _ fun _ hr => hr.step (.letGo t g) trivial
  | enter _ _ ih => exact ih.imp' _ fun _ hr => hr.step (.hold t taskMark) trivial
  | @leave y p _ _ ih => exact ih.imp' _ fun _ hr => hr.step (.letGo t p.mark) trivial

theorem sound {stage : Stage} {extra : α} (hr : Run (bare stage extra) past x.site) (hx : x.Sound t rt)
    (h : History t rt x y) : y.Sound t rt := by
  induction h with
  | start => exact hx
  | other m _ ha hs ih =>
    refine ⟨Polling.after_unkept ha ih.unkept fun hin => hs ▸ hin, ?_⟩
    rw [hs]
    exact ih.books
  | @declare y rt' cs h hm ht ih =>
    refine ⟨?_, ?_⟩
    · by_cases hin : taskThread ∈ cs
      · -- The declaration that lets the thread join is announced to the engines of `rt`.
        obtain rfl := ht hin
        obtain ⟨since, hrun⟩ := h.run
        exact (declare_forgets (hr.trans hrun) t rt' cs).unkept
      · refine Polling.after_unkept (m := .declare t rt' cs) trivial ih.unkept fun hnew => ?_
        rw [Polling.held_declare] at hnew
        exact (List.mem_append.1 hnew).resolve_right hin
    · rw [Polling.held_declare]
      exact ih.books.append hm
  | @hold y c _ hm ht ih =>
    refine ⟨Polling.hold_unkept ih.unkept ht, ?_⟩
    show Books ((y.after (.hold t c)).held t) _ _
    rw [Polling.held_hold]
    exact ih.books.acquire.append fun hin => hm (List.mem_singleton.1 hin).symm
  | @drop y k g _ hg ih =>
    refine ⟨Polling.letGo_unkept ih.unkept g, ?_⟩
    show Books ((y.after (.letGo t g)).held t) _ _
    rw [Polling.held_letGo]
    exact ih.books.drop hg
  | @enter y _ ht ih =>
    refine ⟨Polling.hold_unkept ih.unkept (by decide), ?_⟩
    show Books ((y.after (.hold t taskMark)).held t) _ _
    rw [Polling.held_hold]
    exact ih.books.enter ht
  | @leave y p _ hp ih =>
    refine ⟨Polling.letGo_unkept ih.unkept p.mark, ?_⟩
    obtain ⟨ps, hps⟩ := List.head?_eq_some_iff.1 hp
    have hbooks := ih.books
    rw [hps] at hbooks
    show Books ((y.after (.letGo t p.mark)).held t) _ y.polls.tail
    rw [Polling.held_letGo, hps]
    exact hbooks.leave

end History

/-! ## Plays that are run as polls -/

namespace Polling

variable {x z : Polling π α}

/-- The thread is among those that run tasks: it joins them now, if it has to. -/
def joined (t : ThreadId) (rt : RuntimeId) (x : Polling π α) : Polling π α :=
  if taskThread ∈ x.held t then x else x.after (.declare t rt [taskThread])

/-- A poll has begun, and its frame is pushed. -/
def polled (t : ThreadId) (rt : RuntimeId) (x : Polling π α) : Polling π α :=
  ((x.joined t rt).enter t).after (.push t rt taskPoll)

theorem joined_history (t : ThreadId) (rt : RuntimeId) (x : Polling π α) :
    History t rt x (x.joined t rt) ∧ taskThread ∈ (x.joined t rt).held t ∧ (x.joined t rt).polls = x.polls := by
  unfold joined
  split
  · rename_i hin
    exact ⟨.start, hin, rfl⟩
  · refine ⟨.declare rt [taskThread] .start (by decide) fun _ => rfl, ?_, rfl⟩
    rw [held_declare]
    exact List.mem_append_right _ (.head _)

theorem polled_history (t : ThreadId) (rt : RuntimeId) (x : Polling π α) :
    History t rt x (x.polled t rt) ∧ ∃ p, (x.polled t rt).polls = p :: x.polls ∧ p.intact = true := by
  obtain ⟨hjoined, hin, hpolls⟩ := joined_history t rt x
  exact ⟨(hjoined.enter hin).other (.push t rt taskPoll) trivial (held_push _ rt taskPoll), _,
    congrArg (List.cons _) hpolls, rfl⟩

/-- The guards of a poll that begins now: of its task mark, and of its frame. -/
def pollGuards (t : ThreadId) (rt : RuntimeId) (x : Polling π α) : CapabilityGuard × FrameGuard :=
  ((x.joined t rt).next t taskMark, (pushFrame t rt taskPoll ((x.joined t rt).enter t).site).1)

theorem inTask_at (t : ThreadId) (rt : RuntimeId) (x : Polling π α) (body : Play π α β) :
    (inTask t rt body x.site).2 = (changeProcess (·.dropCapability t (x.pollGuards t rt).1)
      (dropFrame t (x.pollGuards t rt).2 (body (x.polled t rt).site).2).2).2 := by
  have hholds : (x.site.process.thread t).holds taskThread = true ↔ taskThread ∈ x.held t := List.contains_iff_mem
  unfold inTask pollGuards polled joined
  rw [bind_at, get_at]
  by_cases hin : taskThread ∈ x.held t
  · rw [if_pos hin, if_pos (hholds.2 hin)]
    rfl
  · rw [if_neg hin, if_neg fun h => hin (hholds.1 h)]
    rfl

/-- When the play is over that is run as a poll, the frame is cut and the poll ends. -/
theorem inTask_leaves (body : Play π α β) (hz : z.site = (body (x.polled t rt).site).2)
    (hp : z.polls.map Poll.mark = (x.polled t rt).polls.map Poll.mark) :
    ∃ y p, History t rt z y ∧ y.polls = z.polls ∧ y.polls.head? = some p ∧
      (y.leave t p).site = (inTask t rt body x.site).2 := by
  obtain ⟨p, ps, hps, hmark, -⟩ := List.map_eq_cons_iff.1 hp
  let f : FrameGuard := (x.pollGuards t rt).2
  refine ⟨z.after (.cut t f), p, .other (.cut t f) .start trivial (held_cut z f), rfl, congrArg List.head? hps, ?_⟩
  rw [inTask_at, ← hz]
  show (changeProcess (·.dropCapability t p.mark) (dropFrame t f z.site).2).2 = _
  rw [hmark]
  rfl

end Polling

/-! ## What engines find -/

/-- The thread asks the engine whether it must not block. -/
def Site.askRestricted (t : ThreadId) (id : EngineId) : Play π α Bool :=
  acting t id false fun h => Engine.watch (Monitor.isRestricted h t)

theorem Site.askRestricted_at (hf : s.slots.get? id = some slot) (hh : slot.host = .runtime rt) :
    (askRestricted t id s).1 = slot.engine.monitor.register.finds ((s.process.thread t).info t) := by
  obtain ⟨v, c, ns, hr, -⟩ := Monitor.isRestricted_at rt t slot.engine.monitor s.world []
  unfold askRestricted
  rw [acting_at hf, hh]
  exact congrArg Prod.fst hr

namespace Polling.Sound

variable {x : Polling π α} {p : Poll}

theorem none_kept (hx : x.Sound t rt) (hf : x.site.slots.get? id = some slot) (hh : slot.host = .runtime rt)
    (ha : slot.alive = true) (hb : slot.engine.monitor.register.Bypasses taskThread) (hin : taskThread ∈ x.held t) :
    slot.engine.monitor.register.verdicts.get? t = none :=
  hx.unkept id slot hf hh ha hb (declares_iff.2 hin)

/-- Of a thread that runs tasks an engine finds what its predicate says. -/
theorem asked (hx : x.Sound t rt) (hf : x.site.slots.get? id = some slot) (hh : slot.host = .runtime rt)
    (ha : slot.alive = true) (hb : slot.engine.monitor.register.Bypasses taskThread) (hin : taskThread ∈ x.held t) :
    (askRestricted t id x.site).1 = slot.engine.monitor.register.restricts ((x.site.process.thread t).info t) := by
  rw [askRestricted_at hf hh]
  unfold ThreadRegister.finds
  rw [show slot.engine.monitor.register.verdicts.get? ((x.site.process.thread t).info t).thread = none from
    hx.none_kept hf hh ha hb hin]
  rfl

theorem held_polled (hx : x.Sound t rt) (hp : p ∈ x.polls) (hi : p.intact = true) :
    taskMark ∈ x.held t ∧ taskThread ∈ x.held t := by
  obtain ⟨hmark, hthread⟩ := hx.books.held p hp hi
  exact ⟨List.mem_of_getElem? hmark, List.mem_of_mem_take hthread⟩

/-- When the only poll ends, no task mark is left, and the thread is still among those that
    run tasks. -/
theorem held_leave (hx : x.Sound t rt) (hp : x.polls = [p]) (hi : p.intact = true) :
    taskMark ∉ (x.leave t p).held t ∧ taskThread ∈ (x.leave t p).held t := by
  have hheld : (x.leave t p).held t = (x.held t).take p.mark.length := held_letGo x p.mark
  have hbooks := hx.books
  rw [hp] at hbooks
  rw [hheld]
  refine ⟨fun hin => ?_, (hbooks.held p (.head _) hi).2⟩
  obtain ⟨k, hk⟩ := List.mem_iff_getElem?.1 hin
  obtain ⟨q, hq, -⟩ := hbooks.leave.marks k hk
  cases hq

end Polling.Sound

/-- After any history that begins on a bare site, for every engine that is alive on the
    runtime, restricts the threads that hold the task mark and keeps no verdicts of those
    that run tasks: none is kept of the thread while it runs tasks, and during any intact
    poll the engine finds it restricted, whatever was found before. If the engine restricts,
    besides, just the threads that declare a marker, then as soon as the only poll has ended
    it finds the thread restricted exactly if that declares the marker. And a play that is
    run as a poll is part of such a history, however it ends, if what it does is. -/
theorem tasks_restricted_while_polled {stage : Stage} {extra : α} {x : Polling π α}
    (h : History t rt (.begin (bare stage extra)) x) (hf : x.site.slots.get? id = some slot)
    (hh : slot.host = .runtime rt) (ha : slot.alive = true)
    (hmark : ∀ i : ThreadInfo, i.declares taskMark = true → slot.engine.monitor.register.restricts i = true)
    (hthread : slot.engine.monitor.register.Bypasses taskThread) :
    (taskThread ∈ x.held t → slot.engine.monitor.register.verdicts.get? t = none) ∧
      ((∃ p ∈ x.polls, p.intact = true) → (askRestricted t id x.site).1 = true) ∧
      (∀ (marker : String) (p : Poll), (∀ i : ThreadInfo,
          slot.engine.monitor.register.restricts i = (i.declares marker || i.declares taskMark)) →
        x.polls = [p] → p.intact = true →
        ((askRestricted t id (x.leave t p).site).1 = true ↔ marker ∈ (x.leave t p).held t)) ∧
      (∃ p, (x.polled t rt).polls = p :: x.polls ∧ p.intact = true) ∧
      ∀ (β : Type) (body : Play π α β) (z : Polling π α), History t rt (x.polled t rt) z →
        z.site = (body (x.polled t rt).site).2 → z.polls.map Poll.mark = (x.polled t rt).polls.map Poll.mark →
        ∃ y p, History t rt (.begin (bare stage extra)) y ∧ y.polls = z.polls ∧ y.polls.head? = some p ∧
          (y.leave t p).site = (inTask t rt body x.site).2 := by
  have hsound : ∀ {y : Polling π α}, History t rt (.begin (bare stage extra)) y → y.Sound t rt :=
    History.sound .start (Polling.begin_sound t rt stage extra)
  have hx := hsound h
  obtain ⟨hpolled, hnew⟩ := x.polled_history t rt
  refine ⟨hx.none_kept hf hh ha hthread, ?_, fun marker p hr hp hi => ?_, hnew, fun β body z hz hsite hpolls => ?_⟩
  · rintro ⟨p, hp, hi⟩
    obtain ⟨hin, hjoined⟩ := hx.held_polled hp hi
    rw [hx.asked hf hh ha hthread hjoined]
    exact hmark _ (Polling.declares_iff.2 hin)
  · obtain ⟨hno, hjoined⟩ := hx.held_leave hp hi
    have hleft := hsound (h.leave (congrArg List.head? hp))
    rw [hleft.asked hf hh ha hthread hjoined, hr, Bool.or_eq_true, Polling.declares_iff, Polling.declares_iff,
      or_iff_left hno]
  · obtain ⟨y, p, hy, hsame, hp, hsite'⟩ := Polling.inTask_leaves body hsite hpolls
    exact ⟨y, p, (h.trans (hpolled.trans hz)).trans hy, hsame, hp, hsite'⟩

/-- A thread that was found free before its first poll is restricted in the poll, where a
    capability is held and let go again, and free after it. -/
theorem classified_before_its_first_poll :
    let t : ThreadId := ⟨1⟩
    let r : RuntimeId := ⟨"r"⟩
    let plan : Plan Unit := ({ settings := {}, policy := .empty } : Plan Unit).adopt (Preset.tasks false)
    let opened : Polling Unit Unit := (Polling.begin (bare {} ())).after (.openRuntime t r [])
    let free := (opened.after (.build t (.runtime r) plan)).after (.use t ⟨0⟩ (.isRestricted t))
    let x := ((free.polled t r).hold t "c").drop t 0 ⟨2⟩
    (askRestricted t ⟨0⟩ free.site).1 = false ∧ (askRestricted t ⟨0⟩ x.site).1 = true ∧
      (askRestricted t ⟨0⟩ (x.leave t ⟨⟨1⟩, 0, true⟩).site).1 = false := by
  intro t r plan opened free x
  have hopened : History t r (.begin (bare {} ())) opened :=
    .other (.openRuntime t r []) .start (by decide +kernel) (by decide +kernel)
  have hbuilt : History t r opened (opened.after (.build t (.runtime r) plan)) :=
    .other (.build t (.runtime r) plan) .start trivial (by decide +kernel)
  have hfree : History t r (opened.after (.build t (.runtime r) plan)) free :=
    .other (.use t ⟨0⟩ (.isRestricted t)) .start (by decide +kernel) (by decide +kernel)
  have hx : History t r (opened.after (.build t (.runtime r) plan)) x :=
    ((hfree.trans (free.polled_history t r).1).hold "c" (by decide) (by decide)).drop (by decide +kernel)
  have hpolls : x.polls = [⟨⟨1⟩, 0, true⟩] := by decide +kernel
  -- The engine that was built follows the plan.
  obtain ⟨past, hpast⟩ := hopened.run
  obtain ⟨since, hsince⟩ := hx.run
  have hengine : Built r plan ⟨0⟩ past since x.site := .intro t hpast (by decide +kernel) hsince
  obtain ⟨slot, hf, hh, -, hminds⟩ := hengine.minds (by decide +kernel)
  have ha : slot.alive = true := (alive_iff hf).symm.trans (by decide +kernel)
  have hexact : ∀ i : ThreadInfo, slot.engine.monitor.register.restricts i =
      (i.declares defaultMarker || i.declares taskMark) := fun i => congrFun hminds.follows.restricts i
  have hthread : slot.engine.monitor.register.Bypasses taskThread := by
    intro i hi
    rw [ThreadRegister.isVolatile, hminds.follows.volatile]
    show (i.declares taskThread || i.declares taskMark) = true
    rw [hi, Bool.true_or]
  obtain ⟨-, hin, hafter, -⟩ := tasks_restricted_while_polled (hopened.trans (hbuilt.trans hx)) hf hh ha
    (fun i hi => by rw [hexact, hi, Bool.or_true]) hthread
  refine ⟨by decide +kernel, hin ⟨_, hpolls ▸ List.Mem.head _, rfl⟩, Bool.eq_false_iff.2 fun hyes => ?_⟩
  exact absurd ((hafter defaultMarker _ hexact hpolls rfl).1 hyes) (by decide +kernel)

end StallGuard
