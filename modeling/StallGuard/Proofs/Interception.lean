/-
  StallGuard.Proofs.Interception — the two ways a blocking call is intercepted, compared.

  A primitive asks before it runs, so its own frame is not on the stack yet; a breakpoint is
  told when the member's frame stands, so its scan passes over that one. Passing over it
  moves where the scan starts and not where it ends: of the caller's stack, a breakpoint sees
  one frame less than a primitive (`breakpoint_verdict`, `native_verdict`).

  Proved, for any two hosts that serve the caller's stack, with and without the frame of the
  member on top of it:
  - `interceptions_agree`: both scans end without a fault, and they differ exactly if the
    one frame only the primitive sees excuses the call (`Hooks.ExcusedLast`). Then the
    primitive is let through and the breakpoint is not.
-/

import StallGuard.Proofs.Scan

namespace StallGuard

variable {σ σ' : Type} {h : Host σ} {h' : Host σ'} {hooks : Hooks} {w : Window} {t t' : ThreadId} {op : OperationId}
  {stack : List OperationId} {ok : σ → Prop} {ok' : σ' → Prop}

/-- The call is excused by the last frame within `depth` and by none before it. -/
def Hooks.ExcusedLast (hooks : Hooks) (depth : Nat) (stack : List OperationId) : Prop :=
  (∃ frame, stack[depth - 1]? = some frame ∧ hooks.allows? frame = some true) ∧
    ∀ frame ∈ stack.take (depth - 1), hooks.allows? frame ≠ some true

/-- From a disallowed start only an allowed frame can help. -/
theorem Hooks.convicts_disallowed (window : List OperationId) :
    hooks.Convicts true window ↔ ∀ frame ∈ window, hooks.allows? frame ≠ some true := by
  simp [Hooks.Convicts]

/-- A window one frame longer convicts exactly if the shorter one does and that frame, if
    there is one, is not allowed. -/
theorem Hooks.convicts_longer (n : Nat) :
    hooks.Convicts true (stack.take (n + 1)) ↔
      hooks.Convicts true (stack.take n) ∧ ∀ frame, stack[n]? = some frame → hooks.allows? frame ≠ some true := by
  simp only [Hooks.convicts_disallowed, List.take_add_one, List.mem_append, Option.mem_toList]
  constructor
  · exact fun hall => ⟨fun frame hin => hall frame (.inl hin), fun frame hlast => hall frame (.inr hlast)⟩
  · rintro ⟨hbefore, hlast⟩ frame (hin | hin)
    · exact hbefore frame hin
    · exact hlast frame hin

/-- The longer window acquits where the shorter convicts exactly if its last frame excuses
    the call. -/
theorem Hooks.excusedLast_iff {depth : Nat} (hd : 0 < depth) :
    hooks.ExcusedLast depth stack ↔
      hooks.Convicts true (stack.take (depth - 1)) ∧ ¬hooks.Convicts true (stack.take depth) := by
  obtain ⟨n, rfl⟩ : ∃ n, depth = n + 1 := ⟨depth - 1, by omega⟩
  simp only [Hooks.ExcusedLast, Nat.add_sub_cancel, Hooks.convicts_longer]
  constructor
  · rintro ⟨⟨frame, hlast, hallowed⟩, hbefore⟩
    exact ⟨(Hooks.convicts_disallowed _).2 hbefore, fun hall => hall.2 frame hlast hallowed⟩
  · rintro ⟨hbefore, hnot⟩
    refine ⟨Classical.byContradiction fun hno => ?_, (Hooks.convicts_disallowed _).1 hbefore⟩
    exact hnot ⟨hbefore, fun frame hlast hallowed => hno ⟨frame, hlast, hallowed⟩⟩

/-! ## The two scans -/

/-- A breakpoint passes over the member's frame, and its window ends where it would have. -/
theorem breakpoint_verdict (hs : h.Serves t (op :: stack) ok) (s : σ) (hok : ok s) :
    (scan h hooks w t .breakpoint s).1 =
      .ok (if hooks.Convicts true (stack.take (w.depth - 1)) then .violating else .permitted) := by
  have hw : ((op :: stack).take w.depth).drop 1 = stack.take (w.depth - 1) := by
    rw [List.drop_take, List.drop_one, List.tail_cons]
  exact hw ▸ scan_window hs .breakpoint s hok

theorem native_verdict (hs : h'.Serves t' stack ok') (s : σ') (hok : ok' s) :
    (scan h' hooks w t' .blockingCall s).1 =
      .ok (if hooks.Convicts true (stack.take w.depth) then .violating else .permitted) :=
  scan_window hs .blockingCall s hok

/-- A breakpoint in a member and a primitive called in its place come to the same verdict,
    whatever was requested of the member itself, unless the call is excused by the last
    frame within the depth alone: that one the breakpoint does not see. -/
theorem interceptions_agree (hooks : Hooks) (depth page : Nat) (hd : 0 < depth) (hp : 0 < page)
    (hs : h.Serves t (op :: stack) ok) (s : σ) (hok : ok s) (hs' : h'.Serves t' stack ok') (s' : σ') (hok' : ok' s') :
    ∃ w breakpoint native, Window.ofBounds? depth page = some w ∧
      (scan h hooks w t .breakpoint s).1 = .ok breakpoint ∧
      (scan h' hooks w t' .blockingCall s').1 = .ok native ∧
      (breakpoint ≠ native ↔ hooks.ExcusedLast depth stack) ∧
      (hooks.ExcusedLast depth stack → native = .permitted ∧ breakpoint = .violating) := by
  obtain ⟨w, hw, -⟩ := scan_verdict hooks t .breakpoint depth page hd hp hs s hok
  obtain rfl := Window.ofBounds?_depth hw
  refine ⟨w, _, _, hw, breakpoint_verdict hs s hok, native_verdict hs' s' hok', ?_⟩
  rw [Hooks.excusedLast_iff hd]
  -- What the longer window convicts, the shorter one does too.
  have hshorter : hooks.Convicts true (stack.take w.depth) → hooks.Convicts true (stack.take (w.depth - 1)) := by
    obtain ⟨n, hn⟩ : ∃ n, w.depth = n + 1 := ⟨w.depth - 1, by omega⟩
    rw [hn, Nat.add_sub_cancel, Hooks.convicts_longer]
    exact And.left
  by_cases hb : hooks.Convicts true (stack.take (w.depth - 1))
  · by_cases hn : hooks.Convicts true (stack.take w.depth) <;> simp [hb, hn]
  · have hn : ¬hooks.Convicts true (stack.take w.depth) := fun hn => hb (hshorter hn)
    simp [hb, hn]

/-- Read to a depth of two in pages of one, by two threads of one process: the allowed frame
    two below the member is out of the breakpoint's sight. -/
theorem interceptions_differ_on_the_last_frame :
    let hooks : Hooks := Table.empty.insert ⟨3⟩ ⟨"a::B", "c", true⟩
    let p := (Process.fresh.changeThread ⟨7⟩ fun t => { t with frames := [⟨1⟩, ⟨2⟩, ⟨3⟩] }).changeThread ⟨8⟩
      fun t => { t with frames := [⟨2⟩, ⟨3⟩] }
    ∃ w, Window.ofBounds? 2 1 = some w ∧
      (scan (Process.host ⟨"r"⟩ ⟨7⟩) hooks w ⟨7⟩ .breakpoint p).1 = .ok .violating ∧
      (scan (Process.host ⟨"r"⟩ ⟨8⟩) hooks w ⟨8⟩ .blockingCall p).1 = .ok .permitted := by
  intro hooks p
  have hlast : hooks.ExcusedLast 2 [⟨2⟩, ⟨3⟩] := ⟨⟨⟨3⟩, by decide, by decide⟩, by decide⟩
  obtain ⟨w, _, _, hw, hb, hn, -, hdiffer⟩ := interceptions_agree hooks 2 1 (by decide) (by decide)
    (Process.host_serves ⟨"r"⟩ ⟨7⟩ p) p rfl (Process.host_serves ⟨"r"⟩ ⟨8⟩ p) p rfl
  obtain ⟨rfl, rfl⟩ := hdiffer hlast
  exact ⟨w, hw, hb, hn⟩

end StallGuard
