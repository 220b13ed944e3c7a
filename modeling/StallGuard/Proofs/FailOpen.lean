/-
  StallGuard.Proofs.FailOpen — classification by a host that may refuse anything.

  Nothing is assumed of the host here: it may answer every request as it likes, hand out
  pages of any length, and refuse at any time. One classification is followed request by
  request, and each part of it is said by a relation with a constructor per way it can go:
  - `Asked`: whether the thread must not block. A kept verdict needs no request, a refused
    request counts as no and leaves nothing behind.
  - `Reading`: the pages of a scan. It goes on exactly if a page was handed out in full,
    with no allowed frame in it, and the depth was not reached.
  - `Classed`: the two put together.

  Proved:
  - `scanFrom_reading`, `isRestricted_asked`, `classify_classed`: the requests that are
    really made (`Host.logged`) are those that the relations tell of.
  - `classify_fails_open`: a refusal is never the reason for a violation. It is counted,
    once for the classification, and is seen nowhere else.
-/

import StallGuard.Proofs.Exchange
import StallGuard.Proofs.Scan

namespace StallGuard

open Act

variable {σ : Type} {h : Host σ} {hooks : Hooks} {w : Window} {t : ThreadId}

/-! ## The pages of a scan -/

/-- How many frames a scan asks for once it has come to this depth. -/
def Window.want (w : Window) (depth : Nat) : Nat := min w.page (w.depth - depth)

/-- A scan of `t` that has come to a depth, disallowed by then or not, goes on by these
    exchanges and comes to this. -/
inductive Reading (hooks : Hooks) (w : Window) (t : ThreadId) :
    Nat → Bool → List Exchange → Except Fault Verdict → Prop
  | deep {depth : Nat} {b : Bool} : w.depth ≤ depth → Reading hooks w t depth b [] (.ok (.ofDisallowed b))
  | refused {depth : Nat} {b : Bool} (f : Fault) : depth < w.depth →
      Reading hooks w t depth b [.stackFrames t depth (w.want depth) (.error f)] (.error f)
  | excused {depth : Nat} {b : Bool} {page : List OperationId} : depth < w.depth → readFrames hooks b page = none →
      Reading hooks w t depth b [.stackFrames t depth (w.want depth) (.ok page)] (.ok .permitted)
  | short {depth : Nat} {b b' : Bool} {page : List OperationId} : depth < w.depth →
      readFrames hooks b page = some b' → page.length < w.want depth →
      Reading hooks w t depth b [.stackFrames t depth (w.want depth) (.ok page)] (.ok (.ofDisallowed b'))
  | full {depth : Nat} {b b' : Bool} {page : List OperationId} {log : List Exchange} {r : Except Fault Verdict} :
      depth < w.depth → readFrames hooks b page = some b' → w.want depth ≤ page.length →
      Reading hooks w t (depth + page.length) b' log r →
      Reading hooks w t depth b (.stackFrames t depth (w.want depth) (.ok page) :: log) r

theorem readFrames_eq_none_iff {b : Bool} {l : List OperationId} :
    readFrames hooks b l = none ↔ ∃ op ∈ l, hooks.allows? op = some true := by
  induction l generalizing b with
  | nil => exact ⟨nofun, nofun⟩
  | cons op l ih =>
    rw [readFrames]
    cases hop : hooks.allows? op with
    | none => simp [ih, hop]
    | some a => cases a <;> simp [ih, hop]

theorem singleton_eq_append_cons {e e' : Exchange} {before after : List Exchange} (h : [e] = before ++ e' :: after) :
    e = e' ∧ after = [] := by
  obtain ⟨-, h⟩ | ⟨-, h⟩ := List.append_eq_singleton_iff.1 h.symm
  · exact ⟨(List.cons.inj h).1.symm, (List.cons.inj h).2⟩
  · cases h

theorem scanFrom_reading (h : Host σ) (hooks : Hooks) (w : Window) (t : ThreadId) {rounds depth : Nat} (b : Bool)
    (s : σ) (hr : w.depth - depth ≤ rounds) :
    Logs Prod.mk (scanFrom h hooks w t rounds depth b) (scanFrom h.logged hooks w t rounds depth b) s
      fun log r => Reading hooks w t depth b log r.1 := by
  -- A round reads a page that is not empty, or it is the last; so the rounds suffice.
  induction rounds generalizing depth b s with
  | zero => exact .pure (.deep (by omega))
  | succ rounds ih =>
    have hwant : min w.page (w.depth - depth) = w.want depth := rfl
    unfold scanFrom
    by_cases hd : depth < w.depth
    · simp only [if_pos hd, hwant]
      refine .bind (.recording ?_)
      cases (h.stackFrames t depth (w.want depth) s).1 with
      | error f => exact .pure (.refused f hd)
      | ok page =>
        cases hread : readFrames hooks b page with
        | none =>
          simp only [hread]
          exact .pure (.excused hd hread)
        | some b' =>
          by_cases hshort : page.length < w.want depth
          · simp only [hread, if_pos hshort]
            exact .pure (.short hd hread hshort)
          · have hsome : 0 < w.want depth := Nat.lt_min.2 ⟨w.page_pos, by omega⟩
            simp only [hread, if_neg hshort]
            exact (ih b' _ (by omega)).imp fun log hlog => .full hd hread (by omega) hlog
    · simp only [if_neg hd]
      exact .pure (.deep (by omega))

/-! ### What the pages come to -/

namespace Reading

variable {depth : Nat} {b : Bool} {log : List Exchange} {r : Except Fault Verdict}

/-- Only pages of the thread's stack are asked for. -/
theorem pages (hr : Reading hooks w t depth b log r) : ∀ e ∈ log, ∃ i n page, e = .stackFrames t i n page := by
  induction hr with
  | deep => nofun
  | refused => exact List.forall_mem_singleton.2 ⟨_, _, _, rfl⟩
  | excused => exact List.forall_mem_singleton.2 ⟨_, _, _, rfl⟩
  | short => exact List.forall_mem_singleton.2 ⟨_, _, _, rfl⟩
  | full _ _ _ _ ih => exact List.forall_mem_cons.2 ⟨⟨_, _, _, rfl⟩, ih⟩

/-- At most one page is refused, and then the scan comes to that. -/
theorem faults_eq (hr : Reading hooks w t depth b log r) : faults log = (refusal r).toList := by
  induction hr with
  | full _ _ _ _ ih => exact ih
  | _ => rfl

/-- A scan that was refused nothing has judged the frames it fetched. -/
theorem verdict (hr : Reading hooks w t depth b log r) {v : Verdict} (hv : r = .ok v) :
    v = .ofRead (readFrames hooks b (fetched log)) := by
  induction hr with
  | deep => cases hv; rfl
  | refused => cases hv
  | excused _ hread =>
    cases hv
    rw [fetched_page, fetched_nil, List.append_nil, hread]
    rfl
  | short _ hread =>
    cases hv
    rw [fetched_page, fetched_nil, List.append_nil, hread]
    rfl
  | full _ hread _ _ ih => rw [ih hv, fetched_page, readFrames_append, hread, Option.bind_some]

/-- The page with an allowed frame is the last, and lets the call through. -/
theorem excused_last (hr : Reading hooks w t depth b log r) {before after : List Exchange} {e : Exchange}
    (hlog : log = before ++ e :: after) {op : OperationId} (hop : op ∈ e.frames)
    (hallows : hooks.allows? op = some true) : after = [] ∧ r = .ok .permitted := by
  -- Any page but the one that excuses is read to its end, so no frame of it is allowed.
  have hnone : ∀ {b b' : Bool} {page : List OperationId}, readFrames hooks b page = some b' → op ∈ page → False := by
    intro b b' page hread hin
    rw [readFrames_eq_none_iff.2 ⟨op, hin, hallows⟩] at hread
    cases hread
  induction hr generalizing before with
  | deep => exact absurd hlog.symm (by simp)
  | refused f =>
    obtain ⟨rfl, -⟩ := singleton_eq_append_cons hlog
    cases hop
  | excused =>
    obtain ⟨-, rfl⟩ := singleton_eq_append_cons hlog
    exact ⟨rfl, rfl⟩
  | short _ hread =>
    obtain ⟨rfl, -⟩ := singleton_eq_append_cons hlog
    exact (hnone hread hop).elim
  | full _ hread _ _ ih =>
    cases before with
    | nil =>
      obtain ⟨rfl, -⟩ := List.cons.inj hlog
      exact (hnone hread hop).elim
    | cons e' before => exact ih (List.cons.inj hlog).2

end Reading

/-! ## Whether the thread must not block -/

namespace Monitor

variable {m m' : Monitor}

/-- The monitor after a mark. -/
def counting (m : Monitor) (c : Tally) : Monitor := { m with counters := m.counters.mark c }

theorem mark_logs {x : Scene Monitor σ} {c : Tally} {P : List Exchange → Unit × Scene Monitor σ → Prop}
    (hp : P [] ((), { x with own := x.own.counting c, notices := x.notices ++ [.marked c] })) :
    Logs Scene.logging (mark c) (mark c) x P := .bind (.change (.give hp))

/-- The monitor after a verdict on `t` was counted and kept. -/
def judged (m : Monitor) (t : ThreadId) (b : Bool) : Monitor :=
  { m with
    register := { m.register with verdicts := m.register.verdicts.insert t b }
    counters := m.counters.mark (.classified b) }

/-- Asked whether `t` must not block, the monitor answers so, after these exchanges, and
    is this monitor then; `info` is what the host answers if it is asked. -/
inductive Asked (m : Monitor) (t : ThreadId) (info : Except Fault ThreadInfo) : Bool → List Exchange → Monitor → Prop
  | kept {b : Bool} : m.register.verdicts.get? t = some b → Asked m t info b [] m
  | refused {f : Fault} : m.register.verdicts.get? t = none → info = .error f →
      Asked m t info false [.threadInfo t (.error f)] (m.counting (.fault f))
  | volatile {i : ThreadInfo} : m.register.verdicts.get? t = none → info = .ok i → m.register.isVolatile i = true →
      Asked m t info (m.register.restricts i) [.threadInfo t (.ok i)] m
  | lasting {i : ThreadInfo} : m.register.verdicts.get? t = none → info = .ok i → m.register.isVolatile i = false →
      Asked m t info (m.register.restricts i) [.threadInfo t (.ok i)] (m.judged t (m.register.restricts i))

theorem isRestricted_asked (h : Host σ) (t : ThreadId) (x : Scene Monitor σ) :
    Logs Scene.logging (isRestricted h t) (isRestricted h.logged t) x
      fun log r => Asked x.own t (h.threadInfo t x.host).1 r.1 log r.2.own := by
  unfold isRestricted
  refine .bind (.own ?_)
  cases hkept : x.own.register.verdicts.get? t with
  | some b => exact .pure (.kept hkept)
  | none =>
    refine .bind (.ask (.recording ?_))
    cases hinfo : (h.threadInfo t x.host).1 with
    | error f => exact .bind (mark_logs (.pure (.refused hkept rfl)))
    | ok i =>
      cases hvol : x.own.register.isVolatile i with
      | true =>
        simp only [hvol, if_pos]
        exact .pure (.volatile hkept rfl hvol)
      | false =>
        simp only [hvol, Bool.false_eq_true, if_false]
        exact .bind (.change (.bind (mark_logs (.bind (.give (.pure (.lasting hkept rfl hvol)))))))

/-- The thread's verdict is kept as restricted, or its info was fetched and is of a thread
    that must not block. -/
def FindsRestricted (m : Monitor) (t : ThreadId) (log : List Exchange) : Prop :=
  m.register.verdicts.get? t = some true ∨
    m.register.verdicts.get? t = none ∧ ∃ i, .threadInfo t (.ok i) ∈ log ∧ m.register.restricts i = true

theorem FindsRestricted.append {log : List Exchange} (hf : m.FindsRestricted t log) (more : List Exchange) :
    m.FindsRestricted t (log ++ more) :=
  hf.imp_right fun ⟨hkept, i, hi, hr⟩ => ⟨hkept, i, List.mem_append_left _ hi, hr⟩

namespace Asked

variable {info : Except Fault ThreadInfo} {b : Bool} {log : List Exchange}

/-- Only the thread's info is asked for. -/
theorem infos (ha : Asked m t info b log m') : ∀ e ∈ log, ∃ answer, e = .threadInfo t answer := by
  cases ha with
  | kept => nofun
  | _ => exact List.forall_mem_singleton.2 ⟨_, rfl⟩

theorem fetched_eq (ha : Asked m t info b log m') : fetched log = [] := by
  cases ha <;> rfl

theorem hooks_eq (ha : Asked m t info b log m') : m'.hooks = m.hooks := by
  cases ha <;> rfl

theorem window_eq (ha : Asked m t info b log m') : m'.window = m.window := by
  cases ha <;> rfl

theorem checks_eq (ha : Asked m t info b log m') : m'.counters.checks = m.counters.checks := by
  cases ha <;> rfl

theorem counts_faults (ha : Asked m t info b log m') :
    m'.counters.faults = m.counters.faults + if faults log = [] then 0 else 1 := by
  cases ha <;> rfl

/-- The answer is that the thread must not block exactly if it was found to be so. -/
theorem answer_iff (ha : Asked m t info b log m') : b = true ↔ m.FindsRestricted t log := by
  cases ha with
  | kept hkept => simp [FindsRestricted, hkept]
  | refused hkept => simp [FindsRestricted, hkept]
  | volatile hkept => simp [FindsRestricted, hkept]
  | lasting hkept => simp [FindsRestricted, hkept]

/-- A refusal is all that happens, and it counts as no. -/
theorem of_refused (ha : Asked m t info b log m') {f : Fault} (hf : f ∈ faults log) :
    b = false ∧ log = [.threadInfo t (.error f)] ∧ m.register.verdicts.get? t = none ∧ m' = m.counting (.fault f) := by
  cases ha with
  | refused hkept =>
    obtain rfl := List.mem_singleton.1 hf
    exact ⟨rfl, rfl, hkept, rfl⟩
  | _ => cases hf

theorem faults_of_restricted (ha : Asked m t info true log m') : faults log = [] :=
  List.eq_nil_iff_forall_not_mem.2 fun _ hf => Bool.noConfusion (ha.of_refused hf).1

end Asked

/-! ## Classification -/

/-- One classification of `t` gives this verdict after these exchanges, and the monitor is
    this one then. -/
inductive Classed (m : Monitor) (t : ThreadId) (start : ScanStart) : Verdict → List Exchange → Monitor → Prop
  | spared {info : Except Fault ThreadInfo} {log : List Exchange} {m' : Monitor} :
      Asked (m.counting .check) t info false log m' → Classed m t start .permitted log m'
  | scanned {info : Except Fault ThreadInfo} {log pages : List Exchange} {m' : Monitor} {v : Verdict} :
      Asked (m.counting .check) t info true log m' →
      Reading m.hooks m.window t start.skip start.disallowed pages (.ok v) → Classed m t start v (log ++ pages) m'
  | unread {info : Except Fault ThreadInfo} {log pages : List Exchange} {m' : Monitor} {f : Fault} :
      Asked (m.counting .check) t info true log m' →
      Reading m.hooks m.window t start.skip start.disallowed pages (.error f) →
      Classed m t start .permitted (log ++ pages) (m'.counting (.fault f))

theorem classify_classed (h : Host σ) (t : ThreadId) (start : ScanStart) (x : Scene Monitor σ) :
    Logs Scene.logging (classify h t start) (classify h.logged t start) x
      fun log r => Classed x.own t start r.1 log r.2.own := by
  unfold classify
  refine .bind (mark_logs (.bind ((isRestricted_asked h t _).imp fun log ha => ?_)))
  generalize isRestricted h t _ = r at ha ⊢
  obtain ⟨b, x'⟩ := r
  cases b with
  | false => exact .pure (by simpa using Classed.spared ha)
  | true =>
    have hhooks : x'.own.hooks = x.own.hooks := ha.hooks_eq
    have hwindow : x'.own.window = x.own.window := ha.window_eq
    refine .bind (.own (.bind (.ask ((scanFrom_reading h _ _ t _ _ (Nat.le_refl _)).imp fun pages hr => ?_))))
    dsimp only at hr ⊢
    generalize scanFrom h _ _ t _ _ _ _ = r at hr ⊢
    obtain ⟨r, s⟩ := r
    rw [hhooks, hwindow] at hr
    cases r with
    | ok v => exact .pure (by simpa using Classed.scanned ha hr)
    | error f => exact .bind (mark_logs (.pure (by simpa using Classed.unread ha hr)))

/-- What is to be said of one classification of `t` that gave `v` after these exchanges,
    and of the monitor then. -/
structure Lenient (m : Monitor) (t : ThreadId) (start : ScanStart) (log : List Exchange) (v : Verdict)
    (m' : Monitor) : Prop where
  /-- A violation is found only on a restricted thread, with no request refused, and in the
      frames that were fetched. -/
  violating : v = .violating ↔
    m.FindsRestricted t log ∧ faults log = [] ∧ m.hooks.Convicts start.disallowed (fetched log)
  /-- If the thread's info is refused, nothing more is asked and no verdict is kept. -/
  info_refused : ∀ f, .threadInfo t (.error f) ∈ log → v = .permitted ∧ log = [.threadInfo t (.error f)] ∧
    m.register.verdicts.get? t = none ∧ m'.register = m.register
  /-- A refused page lets the call through, whatever the pages before it held. -/
  page_refused : ∀ i n f, .stackFrames t i n (.error f) ∈ log → v = .permitted
  /-- The stack of a thread that may block is not asked for. -/
  unscanned : ¬m.FindsRestricted t log → ∀ i n page, .stackFrames t i n page ∉ log
  /-- After a page with an allowed frame nothing more is asked, so nothing is refused. -/
  excused : ∀ before e after, log = before ++ e :: after → (∃ op ∈ e.frames, m.hooks.allows? op = some true) →
    after = [] ∧ v = .permitted ∧ faults log = []
  /-- Nothing else is asked, of any thread. -/
  asked : ∀ e ∈ log, (∃ answer, e = .threadInfo t answer) ∨ ∃ i n page, e = .stackFrames t i n page
  checks_counted : m'.counters.checks = m.counters.checks + 1
  faults_counted : m'.counters.faults = m.counters.faults + if faults log = [] then 0 else 1

namespace Classed

variable {info : Except Fault ThreadInfo} {start : ScanStart} {v : Verdict} {log : List Exchange}

theorem faults_scanned {pages : List Exchange} {depth : Nat} {b : Bool} {r : Except Fault Verdict}
    (ha : Asked m t info true log m') (hr : Reading hooks w t depth b pages r) :
    faults (log ++ pages) = (refusal r).toList := by
  rw [faults_append, ha.faults_of_restricted, hr.faults_eq, List.nil_append]

/-- An exchange that hands out frames is one of the scan. -/
theorem split_of_frames {pages before after : List Exchange} {e : Exchange} {b : Bool} (ha : Asked m t info b log m')
    (hlog : log ++ pages = before ++ e :: after) (he : e.frames ≠ []) :
    ∃ before', pages = before' ++ e :: after := by
  obtain ⟨before', -, hpages⟩ | ⟨rest, hasked, hrest⟩ := List.append_eq_append_iff.1 hlog
  · exact ⟨before', hpages⟩
  · cases rest with
    | nil => exact ⟨[], hrest.symm⟩
    | cons e' rest =>
      obtain ⟨rfl, -⟩ := List.cons.inj hrest
      obtain ⟨answer, rfl⟩ := ha.infos e (by simp [hasked])
      exact absurd rfl he

theorem violating_iff (hc : Classed m t start v log m') :
    v = .violating ↔ m.FindsRestricted t log ∧ faults log = [] ∧ m.hooks.Convicts start.disallowed (fetched log) := by
  cases hc with
  | spared ha => exact ⟨nofun, fun hv => Bool.noConfusion (ha.answer_iff.2 hv.1)⟩
  | @scanned _ log pages _ _ ha hr =>
    have hfound : m.FindsRestricted t (log ++ pages) := (ha.answer_iff.1 rfl).append pages
    have hserved : faults (log ++ pages) = [] := faults_scanned ha hr
    rw [hr.verdict rfl, ofRead_readFrames, fetched_append, ha.fetched_eq, List.nil_append]
    by_cases hcon : m.hooks.Convicts start.disallowed (fetched pages) <;> simp [hcon, hfound, hserved]
  | unread ha hr =>
    refine ⟨nofun, fun hv => ?_⟩
    rw [faults_scanned ha hr] at hv
    cases hv.2.1

theorem lenient (hc : Classed m t start v log m') : Lenient m t start log v m' where
  violating := hc.violating_iff
  info_refused f hf := by
    have hrefused : f ∈ faults log := List.mem_filterMap.2 ⟨_, hf, rfl⟩
    cases hc with
    | spared ha =>
      obtain ⟨-, rfl, hkept, rfl⟩ := ha.of_refused hrefused
      exact ⟨rfl, rfl, hkept, rfl⟩
    | scanned ha hr =>
      rw [faults_scanned ha hr] at hrefused
      cases hrefused
    | unread ha hr =>
      obtain hin | hin := List.mem_append.1 hf
      · cases (ha.of_refused (List.mem_filterMap.2 ⟨_, hin, rfl⟩)).1
      · obtain ⟨_, _, _, he⟩ := hr.pages _ hin
        cases he
  page_refused i n f hf := by
    cases hc with
    | scanned ha hr =>
      have hrefused : f ∈ faults _ := List.mem_filterMap.2 ⟨_, hf, rfl⟩
      rw [faults_scanned ha hr] at hrefused
      cases hrefused
    | _ => rfl
  unscanned hfree i n page hin := by
    cases hc with
    | spared ha =>
      obtain ⟨_, he⟩ := ha.infos _ hin
      cases he
    | scanned ha hr => exact hfree ((ha.answer_iff.1 rfl).append _)
    | unread ha hr => exact hfree ((ha.answer_iff.1 rfl).append _)
  excused before e after hlog := by
    rintro ⟨op, hop, hallows⟩
    cases hc with
    | spared ha =>
      obtain ⟨_, rfl⟩ := ha.infos e (by simp [hlog])
      cases hop
    | scanned ha hr =>
      obtain ⟨before', hpages⟩ := split_of_frames ha hlog (List.ne_nil_of_mem hop)
      obtain ⟨hlast, hv⟩ := hr.excused_last hpages hop hallows
      exact ⟨hlast, Except.ok.inj hv, faults_scanned ha hr⟩
    | unread ha hr =>
      obtain ⟨before', hpages⟩ := split_of_frames ha hlog (List.ne_nil_of_mem hop)
      cases (hr.excused_last hpages hop hallows).2
  asked := by
    cases hc with
    | spared ha => exact fun e he => .inl (ha.infos e he)
    | scanned ha hr => exact fun e he => (List.mem_append.1 he).imp (ha.infos e) (hr.pages e)
    | unread ha hr => exact fun e he => (List.mem_append.1 he).imp (ha.infos e) (hr.pages e)
  checks_counted := by
    cases hc with
    | spared ha => exact ha.checks_eq
    | scanned ha hr => exact ha.checks_eq
    | unread ha hr => exact ha.checks_eq
  faults_counted := by
    cases hc with
    | spared ha => exact ha.counts_faults
    | scanned ha hr =>
      rw [faults_scanned ha hr, ha.counts_faults, ha.faults_of_restricted]
      rfl
    | unread ha hr =>
      have hcount := ha.counts_faults
      rw [ha.faults_of_restricted] at hcount
      rw [faults_scanned ha hr]
      exact congrArg (· + 1) hcount

end Classed

/-- Whatever the host answers and refuses, and whatever was kept and requested before, a
    classification ends in a verdict and these things hold of it: only what was really
    fetched convicts, every refusal lets the call through, and all that shows of a refusal
    is one more fault counted. -/
theorem classify_fails_open (h : Host σ) (m : Monitor) (t : ThreadId) (start : ScanStart) (s : σ)
    (ns : List Notice) :
    ∃ v m' s' ns' log, classify h t start ⟨m, s, ns⟩ = (v, ⟨m', s', ns'⟩) ∧
      (∀ past, classify h.logged t start ⟨m, (s, past), ns⟩ = (v, ⟨m', (s', past ++ log), ns'⟩)) ∧
      Lenient m t start log v m' := by
  obtain ⟨log, hlogged, hc⟩ := classify_classed h t start ⟨m, s, ns⟩
  exact ⟨_, _, _, _, log, rfl, hlogged, hc.lenient⟩

end Monitor

end StallGuard
