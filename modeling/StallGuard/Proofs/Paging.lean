/-
  StallGuard.Proofs.Paging — what a scan asks its host for, and how often.

  A scan reads a stack in pages, from the frames it passes over down to its depth. What it
  asks for is followed here on a host that serves the stack faithfully, where a page ends
  the scan if the stack ends with it or an allowed frame stands on it (`PageRequest.Ends`).
  `Paged` tells of the requests from a depth on, one at a time.

  A scan counts in numbers that have no bound. A machine has words of 64 bits, and its sums
  and differences can wrap. `Word.scan` is the same loop on words; it comes to nothing if a
  word would wrap, or if the loop goes on for more rounds than it is given.

  Proved, for every depth, page size and start that is a word, and every stack:
  - `scan_paged`: the requests that are really made are those `Paged` tells of.
  - `Paged.number`: how many they are, on each side of the depth.
  - `Word.scanFrom_eq`: on words the loop ends, and wraps nowhere.
  - `scan_requests`: both together.
-/

import StallGuard.Proofs.FailOpen
import StallGuard.Proofs.Frame

namespace StallGuard

variable {σ : Type} {h : Host σ} {hooks : Hooks} {w : Window} {t : ThreadId} {stack : List OperationId} {ok : σ → Prop}

/-! ## Requests for pages -/

/-- A request for some frames of a stack. -/
structure PageRequest where
  start : Nat
  count : Nat
deriving DecidableEq, Repr

namespace PageRequest

/-- The page that a faithful host hands out. -/
def page (r : PageRequest) (stack : List OperationId) : List OperationId := (stack.drop r.start).take r.count

/-- The request with that answer. -/
def served (t : ThreadId) (stack : List OperationId) (r : PageRequest) : Exchange :=
  .stackFrames t r.start r.count (.ok (r.page stack))

/-- The page is shorter than was asked for, or an allowed frame stands on it. -/
def Ends (hooks : Hooks) (stack : List OperationId) (r : PageRequest) : Prop :=
  (r.page stack).length < r.count ∨ ∃ op ∈ r.page stack, hooks.allows? op = some true

/-- The first request starts at this frame, and each other where the one before it ended. -/
def InRow : Nat → List PageRequest → Prop
  | _, [] => True
  | start, r :: rest => r.start = start ∧ InRow (r.start + r.count) rest

/-- What a scan asks for when it has come to this depth. -/
def next (w : Window) (depth : Nat) : PageRequest := ⟨depth, w.want depth⟩

theorem length_page (r : PageRequest) (stack : List OperationId) :
    (r.page stack).length = min r.count (stack.length - r.start) := by
  rw [page, List.length_take, List.length_drop]

end PageRequest

open PageRequest

theorem Window.want_pos {depth : Nat} (hd : depth < w.depth) : 0 < w.want depth :=
  Nat.lt_min.2 ⟨w.page_pos, by omega⟩

theorem Window.want_le (w : Window) (depth : Nat) : w.want depth ≤ w.page ∧ w.want depth ≤ w.depth - depth :=
  ⟨Nat.min_le_left _ _, Nat.min_le_right _ _⟩

theorem Window.next_within {depth : Nat} (hd : depth < w.depth) :
    1 ≤ (next w depth).count ∧ (next w depth).count ≤ w.page ∧ (next w depth).start + (next w depth).count ≤ w.depth := by
  obtain ⟨hpage, hdepth⟩ := w.want_le depth
  have hend : depth + w.want depth ≤ w.depth := by omega
  exact ⟨Window.want_pos hd, hpage, hend⟩

theorem Window.ofBounds?_page {depth page : Nat} (h : Window.ofBounds? depth page = some w) :
    w.page = min page depth := by
  unfold Window.ofBounds? at h
  split at h
  · cases h; rfl
  · cases h

/-- From a depth on, a scan of this stack makes these requests. -/
inductive Paged (hooks : Hooks) (w : Window) (stack : List OperationId) : Nat → List PageRequest → Prop
  | deep {depth : Nat} : w.depth ≤ depth → Paged hooks w stack depth []
  | last {depth : Nat} : depth < w.depth → (next w depth).Ends hooks stack → Paged hooks w stack depth [next w depth]
  | more {depth : Nat} {rest : List PageRequest} : depth < w.depth → ¬(next w depth).Ends hooks stack →
      Paged hooks w stack (depth + w.want depth) rest → Paged hooks w stack depth (next w depth :: rest)

/-! ## The requests that are made -/

/-- The exchange is about no page of this thread's stack, or it hands out what is there. -/
def Exchange.Faithful (t : ThreadId) (stack : List OperationId) (e : Exchange) : Prop :=
  ∀ i n answer, e = .stackFrames t i n answer → answer = .ok ((stack.drop i).take n)

/-- A host that keeps a log serves as it did, and what it adds to the log shows it. -/
theorem Host.Serves.logged (hs : h.Serves t stack ok) (past : List Exchange) :
    h.logged.Serves t stack fun x => ok x.1 ∧ ∃ new, x.2 = past ++ new ∧ ∀ e ∈ new, e.Faithful t stack := by
  rintro ⟨s, log⟩ ⟨hok, new, rfl, hnew⟩ start count
  obtain ⟨hpage, hok'⟩ := hs s hok start count
  refine ⟨hpage, hok', _, List.append_assoc .., List.forall_mem_append.2 ⟨hnew, List.forall_mem_singleton.2 ?_⟩⟩
  rintro i n answer ⟨⟩
  exact hpage

theorem Host.Serves.scanFrom_keeps (hs : h.Serves t stack ok) (hooks : Hooks) (w : Window) (rounds depth : Nat)
    (b : Bool) : StallGuard.Keeps ok (scanFrom h hooks w t rounds depth b) :=
  StallGuard.scanFrom_keeps (fun start count s hok => (hs s hok start count).2) hooks w rounds depth b

/-- Pages handed out faithfully are of the length asked for, except where the stack ends. -/
theorem Reading.paged {depth : Nat} {b : Bool} {log : List Exchange} {r : Except Fault Verdict}
    (hr : Reading hooks w t depth b log r) (hlog : ∀ e ∈ log, e.Faithful t stack) :
    ∃ requests, log = requests.map (served t stack) ∧ Paged hooks w stack depth requests := by
  induction hr with
  | deep hd => exact ⟨[], rfl, .deep hd⟩
  | refused f hd => cases hlog _ List.mem_cons_self _ _ _ rfl
  | @excused depth b page hd hread =>
    obtain rfl := Except.ok.inj (hlog _ List.mem_cons_self _ _ _ rfl)
    exact ⟨[next w depth], rfl, .last hd (.inr (readFrames_eq_none_iff.1 hread))⟩
  | @short depth b b' page hd hread hshort =>
    obtain rfl := Except.ok.inj (hlog _ List.mem_cons_self _ _ _ rfl)
    exact ⟨[next w depth], rfl, .last hd (.inl hshort)⟩
  | @full depth b b' page log r hd hread hfull hrest ih =>
    obtain ⟨hpage, hafter⟩ := List.forall_mem_cons.1 hlog
    obtain rfl := Except.ok.inj (hpage _ _ _ rfl)
    obtain ⟨rest, rfl, hpaged⟩ := ih hafter
    have hlen : ((stack.drop depth).take (w.want depth)).length = w.want depth :=
      Nat.le_antisymm (List.length_take_le _ _) hfull
    have hgoes : ¬(next w depth).Ends hooks stack := by
      rintro (hshort | hallowed)
      · exact Nat.not_lt.2 hfull hshort
      · have hstop : readFrames hooks b ((stack.drop depth).take (w.want depth)) = none :=
          readFrames_eq_none_iff.2 hallowed
        rw [hstop] at hread
        cases hread
    rw [hlen] at hpaged
    exact ⟨next w depth :: rest, rfl, .more hd hgoes hpaged⟩

/-- A scan ends without a fault, and these are the requests it makes. -/
theorem scan_paged (hs : h.Serves t stack ok) (hooks : Hooks) (w : Window) (start : ScanStart) {s : σ} (hok : ok s) :
    ∃ v s' requests, scan h hooks w t start s = (.ok v, s') ∧
      (∀ past, scan h.logged hooks w t start (s, past) = (.ok v, (s', past ++ requests.map (served t stack)))) ∧
      Paged hooks w stack start.skip requests := by
  obtain ⟨log, hlogged, hreading⟩ :=
    scanFrom_reading h hooks w t start.disallowed s (Nat.le_refl (w.depth - start.skip))
  -- What is logged on an empty log is all that was asked, and it was answered faithfully.
  obtain ⟨-, new, hnew, hfaithful⟩ :=
    (hs.logged []).scanFrom_keeps hooks w _ start.skip start.disallowed (s, []) ⟨hok, [], rfl, nofun⟩
  rw [hlogged []] at hnew
  obtain rfl : log = new := hnew
  obtain ⟨requests, rfl, hpaged⟩ := hreading.paged hfaithful
  have hverdict : (scan h hooks w t start s).1 = _ := scan_window hs start s hok
  change ∀ past, scan h.logged hooks w t start (s, past) =
    ((scan h hooks w t start s).1, ((scan h hooks w t start s).2, past ++ requests.map (served t stack))) at hlogged
  generalize scan h hooks w t start s = result at hverdict hlogged
  obtain ⟨r, s'⟩ := result
  cases hverdict
  exact ⟨_, s', requests, rfl, hlogged, hpaged⟩

/-! ## What the requests are like -/

/-- How many requests a scan makes from a depth on of a stack of `n` frames, if nothing on
    it is allowed. The stack ends within the depth, and then so does a page that is not
    full, and be it empty; or it does not, and what is left down to the depth is cut up. -/
def Window.pagesLeft (w : Window) (n depth : Nat) : Nat :=
  if n - depth < w.depth - depth then (n - depth) / w.page + 1 else (w.depth - depth + w.page - 1) / w.page

theorem Window.pagesLeft_deep {n depth : Nat} (hd : w.depth ≤ depth) : w.pagesLeft n depth = 0 := by
  have hpos := w.page_pos
  rw [pagesLeft, if_neg (by omega)]
  exact Nat.div_eq_of_lt (by omega)

theorem Window.pagesLeft_last {n depth : Nat} (hshort : n - depth < w.want depth) : w.pagesLeft n depth = 1 := by
  have hwant := w.want_le depth
  rw [pagesLeft, if_pos (by omega), Nat.div_eq_of_lt (by omega)]

/-- A full page is one request, whether the page size bounds it or the depth. -/
theorem Window.pagesLeft_more {n depth : Nat} (hd : depth < w.depth) (hfull : w.want depth ≤ n - depth) :
    w.pagesLeft n depth = w.pagesLeft n (depth + w.want depth) + 1 := by
  have hpos := w.page_pos
  obtain ⟨left, hleft⟩ : ∃ left, w.depth - depth = left + 1 := ⟨w.depth - depth - 1, by omega⟩
  have hceil : (w.depth - depth + w.page - 1) / w.page = left / w.page + 1 := by
    rw [← Nat.add_div_right left hpos]
    congr 1
    omega
  -- Either a whole page is asked for, or what is left to the depth, and then it is the last.
  obtain ⟨hwant, hle⟩ | ⟨hwant, hlt⟩ : w.want depth = w.page ∧ w.page ≤ w.depth - depth ∨
      w.want depth = w.depth - depth ∧ w.depth - depth < w.page := by
    unfold want
    omega
  · unfold pagesLeft
    rw [hwant] at hfull ⊢
    by_cases hn : n - depth < w.depth - depth
    · rw [if_pos hn, if_pos (by omega), Nat.div_eq_sub_div hpos hfull, Nat.sub_add_eq]
    · have hrest : w.depth - (depth + w.page) + w.page - 1 = left := by omega
      rw [if_neg hn, if_neg (by omega), hceil, hrest]
  · have hlast : left / w.page = 0 := Nat.div_eq_of_lt (by omega)
    rw [pagesLeft_deep (show w.depth ≤ depth + w.want depth by omega), pagesLeft, if_neg (by omega), hceil, hlast]

namespace Paged

variable {depth : Nat} {requests : List PageRequest}

theorem in_row (hp : Paged hooks w stack depth requests) : InRow depth requests := by
  induction hp with
  | deep => trivial
  | last => exact ⟨rfl, trivial⟩
  | more _ _ _ ih => exact ⟨rfl, ih⟩

theorem within (hp : Paged hooks w stack depth requests) :
    ∀ r ∈ requests, 1 ≤ r.count ∧ r.count ≤ w.page ∧ r.start + r.count ≤ w.depth := by
  induction hp with
  | deep => nofun
  | last hd => exact List.forall_mem_singleton.2 (Window.next_within hd)
  | more hd _ _ ih => exact List.forall_mem_cons.2 ⟨Window.next_within hd, ih⟩

/-- No request follows a page that ends the scan. -/
theorem ends_last (hp : Paged hooks w stack depth requests) {before after : List PageRequest} {r : PageRequest}
    (hsplit : requests = before ++ r :: after) (hr : r.Ends hooks stack) : after = [] := by
  induction hp generalizing before with
  | deep => exact absurd hsplit.symm (by simp)
  | last =>
    cases before with
    | nil => exact (List.cons.inj hsplit).2.symm
    | cons _ before => exact absurd (List.cons.inj hsplit).2.symm (by simp)
  | more _ hgoes _ ih =>
    cases before with
    | nil =>
      obtain ⟨rfl, -⟩ := List.cons.inj hsplit
      exact absurd hr hgoes
    | cons _ before => exact ih (List.cons.inj hsplit).2

theorem number (hp : Paged hooks w stack depth requests)
    (hnone : ∀ op ∈ (stack.take w.depth).drop depth, hooks.allows? op ≠ some true) :
    requests.length = w.pagesLeft stack.length depth := by
  have hlen : ∀ depth, ((next w depth).page stack).length = min (w.want depth) (stack.length - depth) :=
    fun depth => length_page _ _
  induction hp with
  | deep hd => rw [Window.pagesLeft_deep hd, List.length_nil]
  -- What follows a page on the stack is in the window too, so the same is said of the rest.
  | @last depth hd hends =>
    have hlen := hlen depth
    rw [window_split stack (w.want_le depth).2] at hnone
    obtain hshort | ⟨op, hin, hallowed⟩ := hends
    · have hcount : (next w depth).count = w.want depth := rfl
      rw [Window.pagesLeft_last (by omega), List.length_singleton]
    · exact absurd hallowed (hnone op (List.mem_append_left _ hin))
  | @more depth rest hd hgoes _ ih =>
    have hlen := hlen depth
    have hcount : (next w depth).count = w.want depth := rfl
    have hfull : ¬((next w depth).page stack).length < (next w depth).count := fun hshort => hgoes (.inl hshort)
    rw [window_split stack (w.want_le depth).2] at hnone
    rw [Window.pagesLeft_more hd (by omega), List.length_cons, ih fun op hin => hnone op (List.mem_append_right _ hin)]

end Paged

/-! ## The loop on words -/

namespace Word

/-- The difference of two words, unless it would wrap. -/
def minus? (a b : UInt64) : Option UInt64 := if b ≤ a then some (a - b) else none

/-- A word and a length, unless their sum would wrap. -/
def plus? (a : UInt64) (n : Nat) : Option UInt64 := if a.toNat + n < UInt64.size then some (a + .ofNat n) else none

theorem minus?_eq {a b : UInt64} (h : b.toNat ≤ a.toNat) : ∃ c, minus? a b = some c ∧ c.toNat = a.toNat - b.toNat :=
  ⟨a - b, if_pos (UInt64.le_iff_toNat_le.2 h), UInt64.toNat_sub_of_le a b (UInt64.le_iff_toNat_le.2 h)⟩

theorem plus?_eq {a : UInt64} {n : Nat} (h : a.toNat + n < UInt64.size) :
    ∃ c, plus? a n = some c ∧ c.toNat = a.toNat + n := by
  refine ⟨a + .ofNat n, by rw [plus?, if_pos h], ?_⟩
  rw [UInt64.toNat_add, UInt64.toNat_ofNat', Nat.mod_eq_of_lt (show n < UInt64.size by omega), Nat.mod_eq_of_lt h]

theorem toNat_min (a b : UInt64) : (min a b).toNat = min a.toNat b.toNat := by
  show (if a ≤ b then a else b).toNat = min a.toNat b.toNat
  split
  · rename_i h
    exact (Nat.min_eq_left (UInt64.le_iff_toNat_le.1 h)).symm
  · rename_i h
    exact (Nat.min_eq_right (Nat.le_of_not_le (mt UInt64.le_iff_toNat_le.2 h))).symm

/-- The scan's loop on words, for at most so many rounds. -/
def scanFrom (h : Host σ) (hooks : Hooks) (depth page : UInt64) (t : ThreadId) :
    (rounds : Nat) → (start : UInt64) → Bool → StateM σ (Option (Except Fault Verdict))
  | 0, _, _ => pure none
  | rounds + 1, start, disallowed =>
    if start < depth then
      match minus? depth start with
      | none => pure none
      | some left => do
        match ← h.stackFrames t start.toNat (min page left).toNat with
        | .error f => pure (some (.error f))
        | .ok frames =>
          match readFrames hooks disallowed frames with
          | none => pure (some (.ok .permitted))
          | some disallowed' =>
            if frames.length < (min page left).toNat then pure (some (.ok (.ofDisallowed disallowed')))
            else match plus? start frames.length with
              | none => pure none
              | some start' => scanFrom h hooks depth page t rounds start' disallowed'
    else pure (some (.ok (.ofDisallowed disallowed)))

variable {depth page : UInt64}

/-- A round that gets its page comes to what it comes to without words, where it need not
    wrap: to the next round, or to an end. -/
theorem scanFrom_page (hooks : Hooks) (rounds : Nat) {start : UInt64} (b : Bool) {s : σ} {frames : List OperationId}
    (hdepth : depth.toNat = w.depth) (hpage : page.toNat = w.page) (hd : start.toNat < w.depth)
    (hp : (h.stackFrames t start.toNat (w.want start.toNat) s).1 = .ok frames)
    (hlen : frames.length ≤ w.want start.toNat) :
    ∃ start' : UInt64, start'.toNat = start.toNat + frames.length ∧
      scanFrom h hooks depth page t (rounds + 1) start b s =
        match readFrames hooks b frames with
        | none => (some (.ok .permitted), (h.stackFrames t start.toNat (w.want start.toNat) s).2)
        | some b' =>
          if frames.length < w.want start.toNat
          then (some (.ok (.ofDisallowed b')), (h.stackFrames t start.toNat (w.want start.toNat) s).2)
          else scanFrom h hooks depth page t rounds start' b' (h.stackFrames t start.toNat (w.want start.toNat) s).2 := by
  have hbound := depth.toNat_lt_size
  have hwant := w.want_le start.toNat
  obtain ⟨left, hminus, hleft⟩ := minus?_eq (show start.toNat ≤ depth.toNat by omega)
  obtain ⟨start', hplus, hstart'⟩ := plus?_eq (show start.toNat + frames.length < UInt64.size by omega)
  have hcount : (min page left).toNat = w.want start.toNat := by
    rw [toNat_min, hpage, hleft, hdepth]
    rfl
  refine ⟨start', hstart', ?_⟩
  rw [scanFrom, if_pos (UInt64.lt_iff_toNat_lt.2 (hdepth ▸ hd)), hminus]
  simp only [bind_at, hcount, hp]
  cases readFrames hooks b frames with
  | none => rfl
  | some b' =>
    dsimp only
    split
    · rfl
    · rw [hplus]

theorem scanFrom_deep {rounds rounds' : Nat} {start : UInt64} (hdepth : depth.toNat = w.depth)
    (hd : w.depth ≤ start.toNat) (b : Bool) (s : σ) :
    scanFrom h hooks depth page t (rounds + 1) start b s =
      (some (StallGuard.scanFrom h hooks w t rounds' start.toNat b s).1,
        (StallGuard.scanFrom h hooks w t rounds' start.toNat b s).2) := by
  have hword : ¬start < depth := fun hlt => by
    have hlt := UInt64.lt_iff_toNat_lt.1 hlt
    omega
  rw [scanFrom, if_neg hword]
  cases rounds' with
  | zero => rfl
  | succ rounds' =>
    rw [StallGuard.scanFrom, if_neg (Nat.not_lt.2 hd)]
    rfl

/-- On a stack served faithfully the loop on words ends in time and never wraps. -/
theorem scanFrom_eq (hs : h.Serves t stack ok) (hdepth : depth.toNat = w.depth) (hpage : page.toNat = w.page)
    {rounds rounds' : Nat} {start : UInt64} (hr : w.depth - start.toNat ≤ rounds)
    (hr' : w.depth - start.toNat ≤ rounds') (b : Bool) (s : σ) (hok : ok s) :
    scanFrom h hooks depth page t (rounds + 1) start b s =
      (some (StallGuard.scanFrom h hooks w t rounds' start.toNat b s).1,
        (StallGuard.scanFrom h hooks w t rounds' start.toNat b s).2) := by
  -- Both loops read the same page in a round, so they come to the same depth together.
  induction rounds generalizing rounds' start b s with
  | zero => exact scanFrom_deep hdepth (by omega) b s
  | succ rounds ih =>
    by_cases hd : start.toNat < w.depth
    · obtain ⟨n, rfl⟩ : ∃ n, rounds' = n + 1 := ⟨rounds' - 1, by omega⟩
      obtain ⟨hframes, hok'⟩ := hs s hok start.toNat (w.want start.toNat)
      have hnat : StallGuard.scanFrom h hooks w t (n + 1) start.toNat b s = _ :=
        StallGuard.scanFrom_page hd hframes
      have hwant : min w.page (w.depth - start.toNat) = w.want start.toNat := rfl
      obtain ⟨start', hstart', hword⟩ :=
        scanFrom_page hooks (rounds + 1) b hdepth hpage hd hframes (List.length_take_le _ _)
      rw [hword, hnat, hwant]
      cases readFrames hooks b ((stack.drop start.toNat).take (w.want start.toNat)) with
      | none => rfl
      | some b' =>
        dsimp only
        split
        · rfl
        · rename_i hfull
          have hpos := Window.want_pos hd
          rw [← hstart']
          exact ih (by omega) (by omega) b' _ hok'
    · exact scanFrom_deep hdepth (by omega) b s

/-- The scan on words; a page is never larger than the depth. -/
def scan (h : Host σ) (hooks : Hooks) (depth page : UInt64) (t : ThreadId) (rounds : Nat) (skip : UInt64)
    (disallowed : Bool) : StateM σ (Option (Except Fault Verdict)) :=
  scanFrom h hooks depth (min page depth) t rounds skip disallowed

theorem scan_eq (hs : h.Serves t stack ok) (hw : Window.ofBounds? depth.toNat page.toNat = some w) {rounds : Nat}
    {skip : UInt64} (hr : depth.toNat - skip.toNat < rounds) (b : Bool) (s : σ) (hok : ok s) :
    scan h hooks depth page t rounds skip b s =
      (some (StallGuard.scan h hooks w t ⟨skip.toNat, b⟩ s).1, (StallGuard.scan h hooks w t ⟨skip.toNat, b⟩ s).2) := by
  have hdepth := Window.ofBounds?_depth hw
  obtain ⟨n, rfl⟩ : ∃ n, rounds = n + 1 := ⟨rounds - 1, by omega⟩
  refine scanFrom_eq hs hdepth.symm ?_ (by omega) (Nat.le_refl _) b s hok
  rw [toNat_min, Window.ofBounds?_page hw]

end Word

/-! ## All requests of a scan -/

/-- What is to be said of the requests of a scan that passes over `skip` frames of a stack. -/
structure Thrifty (hooks : Hooks) (depth page skip : Nat) (stack : List OperationId) (requests : List PageRequest) :
    Prop where
  in_row : InRow skip requests
  /-- Each asks for something, for no more than a page, and for nothing past the depth. -/
  within : ∀ r ∈ requests, 1 ≤ r.count ∧ r.count ≤ min page depth ∧ r.start + r.count ≤ depth
  /-- None follows a page that is short or on which an allowed frame stands. -/
  ends_last : ∀ before r after, requests = before ++ r :: after → r.Ends hooks stack → after = []
  /-- Where nothing in the window is allowed, the stack or the depth says how many there are. -/
  number : skip < depth → (∀ op ∈ (stack.take depth).drop skip, hooks.allows? op ≠ some true) →
    requests.length = if stack.length - skip < depth - skip then (stack.length - skip) / min page depth + 1
      else (depth - skip + min page depth - 1) / min page depth
  none_past : depth ≤ skip → requests = []

theorem Paged.thrifty {depth page skip : Nat} {requests : List PageRequest}
    (hw : Window.ofBounds? depth page = some w) (hp : Paged hooks w stack skip requests) :
    Thrifty hooks depth page skip stack requests := by
  obtain rfl := Window.ofBounds?_depth hw
  have hpage := Window.ofBounds?_page hw
  exact {
    in_row := hp.in_row
    within := fun r hr => hpage ▸ hp.within r hr
    ends_last := fun _ _ _ => hp.ends_last
    number := fun _ hnone => hpage ▸ hp.number hnone
    none_past := fun hd => by
      cases hp with
      | deep => rfl
      | last hlt => omega
      | more hlt => omega }

/-- For every depth, page size and start that is a word, and on every stack that is served
    faithfully, a scan ends without a fault after requests of which all this holds; and on
    words it comes to the same by the same requests, wraps nowhere, and needs no more
    rounds than there are frames to look at and one. -/
theorem scan_requests (hooks : Hooks) (t : ThreadId) (depth page skip : UInt64) (b : Bool) (hd : 0 < depth)
    (hp : 0 < page) (hs : h.Serves t stack ok) (s : σ) (hok : ok s) :
    ∃ w v s' requests, Window.ofBounds? depth.toNat page.toNat = some w ∧
      scan h hooks w t ⟨skip.toNat, b⟩ s = (.ok v, s') ∧
      (∀ past, scan h.logged hooks w t ⟨skip.toNat, b⟩ (s, past) =
        (.ok v, (s', past ++ requests.map (served t stack)))) ∧
      (∀ past rounds, depth.toNat - skip.toNat < rounds → Word.scan h.logged hooks depth page t rounds skip b (s, past) =
        (some (.ok v), (s', past ++ requests.map (served t stack)))) ∧
      Thrifty hooks depth.toNat page.toNat skip.toNat stack requests := by
  have hbounds : 0 < depth.toNat ∧ 0 < page.toNat := ⟨UInt64.lt_iff_toNat_lt.1 hd, UInt64.lt_iff_toNat_lt.1 hp⟩
  obtain ⟨w, hw⟩ : ∃ w, Window.ofBounds? depth.toNat page.toNat = some w := ⟨_, dif_pos hbounds⟩
  obtain ⟨v, s', requests, hscan, hlogged, hpaged⟩ := scan_paged hs hooks w ⟨skip.toNat, b⟩ hok
  refine ⟨w, v, s', requests, hw, hscan, hlogged, fun past rounds hr => ?_, hpaged.thrifty hw⟩
  rw [Word.scan_eq (hs.logged past) hw hr b (s, past) ⟨hok, [], (List.append_nil past).symm, nofun⟩, hlogged past]

/-- With the largest depth there is, a stack of five frames of which one is passed over. It
    takes three pages of two to come to its end, as the second ends just there. -/
theorem scan_requests_to_the_largest_depth :
    let p := Process.fresh.changeThread ⟨7⟩ fun t => { t with frames := [⟨1⟩, ⟨2⟩, ⟨3⟩, ⟨4⟩, ⟨5⟩] }
    let hooks : Hooks := Table.empty.insert ⟨4⟩ ⟨"a::B", "c", false⟩
    ∃ v s' requests, requests.length = 3 ∧ InRow 1 requests ∧
      Word.scan (Process.host ⟨"r"⟩ ⟨7⟩).logged hooks 0xffffffffffffffff 2 ⟨7⟩ UInt64.size 1 true (p, []) =
        (some (.ok v), (s', requests.map (served ⟨7⟩ [⟨1⟩, ⟨2⟩, ⟨3⟩, ⟨4⟩, ⟨5⟩]))) := by
  intro p hooks
  obtain ⟨_, v, s', requests, -, -, -, hword, hthrifty⟩ := scan_requests hooks ⟨7⟩ 0xffffffffffffffff 2 1 true
    (by decide) (by decide) (Process.host_serves ⟨"r"⟩ ⟨7⟩ p) p rfl
  have hnumber := hthrifty.number (by decide) (by decide)
  have hthree : requests.length = 3 := hnumber.trans (by decide)
  exact ⟨v, s', requests, hthree, hthrifty.in_row, hword [] UInt64.size (by decide)⟩

end StallGuard
