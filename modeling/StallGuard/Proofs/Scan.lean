/-
  StallGuard.Proofs.Scan — the paged scan against its one-shot definition.

  A scan sees a stack through pages. Said at once, it looks at one window: the innermost
  `depth` frames less the first `skip` of them. The window convicts (`Hooks.Convicts`)
  if no frame in it is allowed and either the start or one of its frames is disallowed;
  neither the pages nor the order of the frames come into that.

  Proved, for a host that serves the stack faithfully (`Host.Serves`):
  - `scanFrom_window`: what is left to read from a depth on decides the rest of the scan,
    whatever pages it comes in; this is the invariant of the scan's loop.
  - `scan_verdict`: the scan says violating exactly when its window convicts, for every
    depth, page size and start; so page size and order within the window are immaterial.
-/

import StallGuard.Monitor.Scan
import StallGuard.Process.Basic
import StallGuard.Proofs.Stepping

namespace StallGuard

/-! ## What a window says -/

/-- No frame of the window is allowed, and the start or one of its frames is disallowed. -/
def Hooks.Convicts (hooks : Hooks) (disallowed : Bool) (window : List OperationId) : Prop :=
  (∀ op ∈ window, hooks.allows? op ≠ some true) ∧
    (disallowed = true ∨ ∃ op ∈ window, hooks.allows? op = some false)

instance (hooks : Hooks) (disallowed : Bool) (window : List OperationId) :
    Decidable (hooks.Convicts disallowed window) := by
  unfold Hooks.Convicts; infer_instance

theorem Hooks.convicts_perm {hooks : Hooks} {b : Bool} {l r : List OperationId} (h : l.Perm r) :
    hooks.Convicts b l ↔ hooks.Convicts b r := by
  simp only [Hooks.Convicts, h.mem_iff]

/-- The verdict of a scan that has read all it will read. -/
def Verdict.ofRead : Option Bool → Verdict
  | some disallowed => .ofDisallowed disallowed
  | none => .permitted

theorem readFrames_append (hooks : Hooks) (b : Bool) (l r : List OperationId) :
    readFrames hooks b (l ++ r) = (readFrames hooks b l).bind fun b' => readFrames hooks b' r := by
  induction l generalizing b with
  | nil => rfl
  | cons op l ih =>
    simp only [List.cons_append, readFrames]
    split
    · rfl
    · exact ih true
    · exact ih b

/-- Reading frames in order and judging them at once come to the same. -/
theorem ofRead_readFrames (hooks : Hooks) (b : Bool) (l : List OperationId) :
    Verdict.ofRead (readFrames hooks b l) = if hooks.Convicts b l then .violating else .permitted := by
  induction l generalizing b with
  | nil => cases b <;> simp [readFrames, Verdict.ofRead, Verdict.ofDisallowed, Hooks.Convicts]
  | cons op l ih =>
    simp only [readFrames]
    split
    · rename_i h
      have hno : ¬hooks.Convicts b (op :: l) := fun hc => hc.1 op (by simp) h
      rw [if_neg hno]
      rfl
    · rename_i h
      rw [ih true]
      simp [Hooks.Convicts, h]
    · rename_i h
      rw [ih b]
      simp [Hooks.Convicts, h]

/-! ## A faithful host -/

variable {σ : Type}

/-- From every state that `ok` picks, the host hands out pages of this very stack, and
    goes to another such state. -/
def Host.Serves (h : Host σ) (t : ThreadId) (stack : List OperationId) (ok : σ → Prop) : Prop :=
  ∀ w, ok w → ∀ start count,
    (h.stackFrames t start count w).1 = .ok ((stack.drop start).take count) ∧ ok (h.stackFrames t start count w).2

/-- A runtime of the process serves the asking thread's own stack. -/
theorem Process.host_serves (rt : RuntimeId) (t : ThreadId) (p : Process) :
    (Process.host rt t).Serves t (p.thread t).frames (· = p) := by
  rintro w rfl start count
  exact ⟨by simp [Process.host, Thread.page], rfl⟩

/-! ## The loop -/

variable {h : Host σ} {hooks : Hooks} {w : Window} {t : ThreadId} {stack : List OperationId} {ok : σ → Prop}

theorem window_nil (stack : List OperationId) {depth bound : Nat} (h : bound ≤ depth) :
    (stack.take bound).drop depth = [] :=
  List.drop_eq_nil_of_le (by rw [List.length_take]; omega)

theorem window_past (stack : List OperationId) {depth bound : Nat} (h : stack.length ≤ depth) :
    (stack.take bound).drop depth = [] :=
  List.drop_eq_nil_of_le (by rw [List.length_take]; omega)

/-- From `depth` on, a page of `want` frames and what lies beyond it make up the window. -/
theorem window_split (stack : List OperationId) {depth want bound : Nat} (hw : want ≤ bound - depth) :
    (stack.take bound).drop depth = (stack.drop depth).take want ++ (stack.take bound).drop (depth + want) := by
  have hsplit := List.take_append_drop want ((stack.take bound).drop depth)
  rw [List.drop_drop] at hsplit
  rw [← hsplit, List.drop_take, List.take_take, Nat.min_eq_left hw]

/-- A round that gets its page: an allowed frame in it ends the scan, and so does a page
    that is shorter than was asked for. -/
theorem scanFrom_page {rounds depth : Nat} {b : Bool} {s : σ} {page : List OperationId} (hd : depth < w.depth)
    (hp : (h.stackFrames t depth (min w.page (w.depth - depth)) s).1 = .ok page) :
    scanFrom h hooks w t (rounds + 1) depth b s =
      match readFrames hooks b page with
      | none => (.ok .permitted, (h.stackFrames t depth (min w.page (w.depth - depth)) s).2)
      | some b' =>
        if page.length < min w.page (w.depth - depth)
        then (.ok (.ofDisallowed b'), (h.stackFrames t depth (min w.page (w.depth - depth)) s).2)
        else scanFrom h hooks w t rounds (depth + page.length) b'
          (h.stackFrames t depth (min w.page (w.depth - depth)) s).2 := by
  rw [scanFrom, if_pos hd]
  simp only [bind_at, hp]
  cases readFrames hooks b page with
  | none => rfl
  | some b' =>
    dsimp only
    split <;> rfl

theorem scanFrom_window (hs : h.Serves t stack ok) (rounds depth : Nat) (b : Bool) (s : σ) (hok : ok s)
    (hr : w.depth - depth ≤ rounds) :
    (scanFrom h hooks w t rounds depth b s).1 =
      .ok (.ofRead (readFrames hooks b ((stack.take w.depth).drop depth))) := by
  -- Each round takes one page off what is left of the window.
  induction rounds generalizing depth b s with
  | zero => rw [window_nil stack (by omega)]; rfl
  | succ rounds ih =>
    by_cases hd : depth < w.depth
    · obtain ⟨hpage, hok'⟩ := hs s hok depth (min w.page (w.depth - depth))
      have hpos := w.page_pos
      rw [scanFrom_page hd hpage, window_split stack (Nat.min_le_right w.page (w.depth - depth)), readFrames_append]
      cases readFrames hooks b ((stack.drop depth).take (min w.page (w.depth - depth))) with
      | none => rfl
      | some b' =>
        simp only [Option.bind_some]
        split
        · rename_i hshort
          have hend : stack.length ≤ depth + min w.page (w.depth - depth) := by
            rw [List.length_take, List.length_drop] at hshort; omega
          rw [window_past stack hend]
          rfl
        · rename_i hfull
          have hlen : ((stack.drop depth).take (min w.page (w.depth - depth))).length =
              min w.page (w.depth - depth) := by
            rw [List.length_take] at hfull ⊢; omega
          rw [hlen]
          exact ih _ b' _ hok' (by omega)
    · rw [window_nil stack (by omega), scanFrom, if_neg hd]
      rfl

/-! ## The verdict -/

theorem scan_window (hs : h.Serves t stack ok) (start : ScanStart) (s : σ) (hok : ok s) :
    (scan h hooks w t start s).1 = .ok (if hooks.Convicts start.disallowed ((stack.take w.depth).drop start.skip)
      then .violating else .permitted) := by
  rw [← ofRead_readFrames]
  exact scanFrom_window hs _ _ _ s hok (Nat.le_refl _)

theorem Window.ofBounds?_depth {depth page : Nat} {w : Window} (h : Window.ofBounds? depth page = some w) :
    w.depth = depth := by
  unfold Window.ofBounds? at h
  split at h
  · cases h; rfl
  · cases h

/-- The paged scan is the one-shot definition: with any positive depth and page size, on
    any stack served faithfully and from any start, it ends without a fault and says
    violating exactly when the window convicts. So another page size, another faithful
    host and any other order of the frames in the window give the same verdict. -/
theorem scan_verdict (hooks : Hooks) (t : ThreadId) (start : ScanStart) (depth page : Nat) (hd : 0 < depth)
    (hp : 0 < page) (hs : h.Serves t stack ok) (s : σ) (hok : ok s) :
    ∃ w, Window.ofBounds? depth page = some w ∧
      (scan h hooks w t start s).1 =
        .ok (if hooks.Convicts start.disallowed ((stack.take depth).drop start.skip) then .violating else .permitted) ∧
      ∀ (page' : Nat) (w' : Window) (σ' : Type) (h' : Host σ') (stack' : List OperationId) (ok' : σ' → Prop) (s' : σ'),
        Window.ofBounds? depth page' = some w' → h'.Serves t stack' ok' → ok' s' →
        ((stack'.take depth).drop start.skip).Perm ((stack.take depth).drop start.skip) →
        (scan h' hooks w' t start s').1 = (scan h hooks w t start s).1 := by
  have hw : Window.ofBounds? depth page = some ⟨depth, min page depth, by omega, by omega⟩ := dif_pos ⟨hd, hp⟩
  refine ⟨_, hw, scan_window hs start s hok, ?_⟩
  intro page' w' σ' h' stack' ok' s' hw' hs' hok' hperm
  rw [scan_window hs' start s' hok', scan_window hs start s hok, Window.ofBounds?_depth hw']
  simp only [Hooks.convicts_perm hperm]

/-- A thread whose stack holds a disallowed frame beyond the first page, read in pages of
    two within a depth of three. -/
theorem scan_verdict_beyond_a_page :
    let p := Process.fresh.changeThread ⟨7⟩ fun t => { t with frames := [⟨1⟩, ⟨2⟩, ⟨3⟩, ⟨4⟩] }
    let hooks : Hooks := (Table.empty.insert ⟨3⟩ ⟨"a::B", "c", false⟩).insert ⟨4⟩ ⟨"a::B", "d", true⟩
    ∃ w, Window.ofBounds? 3 2 = some w ∧
      (scan (Process.host ⟨"r"⟩ ⟨7⟩) hooks w ⟨7⟩ .context p).1 = .ok .violating := by
  intro p hooks
  obtain ⟨w, hw, hv, -⟩ := scan_verdict hooks ⟨7⟩ .context 3 2 (by decide) (by decide)
    (Process.host_serves ⟨"r"⟩ ⟨7⟩ p) p rfl
  refine ⟨w, hw, ?_⟩
  rw [hv, if_pos (by decide)]

end StallGuard
