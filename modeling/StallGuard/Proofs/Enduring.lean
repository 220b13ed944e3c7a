/-
  StallGuard.Proofs.Enduring — what outlasts a check.

  A check counts itself, the violation it may find, the thread it may classify and the
  requests that are refused; and it may keep one verdict, the one that the predicate gives
  on what the host says of the thread at that moment, unless the thread is volatile then.
  A set of monitors endures checks if it endures these (`Monitor.Endures`).
  - `isRestricted_endures`, `classify_endures`, `check_endures`.
-/

import StallGuard.Proofs.Frame

namespace StallGuard

open Act

variable {σ β : Type}

/-- What a check counts. -/
def Tally.OfCheck : Tally → Prop
  | check | violation | fault _ | classified _ => True
  | nativeBound | breakpointSet | breakpointHit => False

namespace Monitor

/-- Counting a check, and keeping the verdict that the host's answer calls for, do not lead
    out of `J` while the host is in `I`. -/
structure Endures (h : Host σ) (I : σ → Prop) (J : Monitor → Prop) : Prop where
  reads : h.Reads I
  marks : ∀ m c, c.OfCheck → J m → J { m with counters := m.counters.mark c }
  verdicts : ∀ (m : Monitor) (w w' : σ) (t : ThreadId) (i : ThreadInfo), I w → h.threadInfo t w = (.ok i, w') →
    m.register.isVolatile i = false → J m →
    J { m with register := { m.register with verdicts := m.register.verdicts.insert t (m.register.restricts i) } }

variable {h : Host σ} {I : σ → Prop} {J : Monitor → Prop}

theorem Endures.mark (hJ : Endures h I J) {c : Tally} (hc : c.OfCheck) :
    Keeps (Scene.Within J I) (mark c : Act Monitor σ Unit) :=
  Keeps.bind (change_keeps fun m hm => hJ.marks m c hc hm) fun _ => give_keeps _

theorem isRestricted_endures (hJ : Endures h I J) (t : ThreadId) : Keeps (Scene.Within J I) (isRestricted h t) := by
  intro x hx
  unfold isRestricted
  rw [bind_at, own_at]
  dsimp only
  cases x.own.register.verdicts.get? t with
  | some b => exact hx
  | none =>
    dsimp only
    rw [bind_at, ask_at]
    have hread : I (h.threadInfo t x.host).2 := hJ.reads.threadInfo t x.host hx.host
    generalize hasked : h.threadInfo t x.host = r at hread ⊢
    obtain ⟨r, w⟩ := r
    cases r with
    | error f => exact Keeps.bind (hJ.mark (c := .fault f) trivial) (fun _ => Keeps.pure _) _ ⟨hx.own, hread⟩
    | ok i =>
      dsimp only
      split
      · exact ⟨hx.own, hread⟩
      · rename_i hvolatile
        have hkept := hJ.verdicts x.own x.host w t i hx.host hasked (Bool.not_eq_true _ ▸ hvolatile) hx.own
        exact Keeps.bind (hJ.mark (c := .classified _) trivial)
          (fun _ => Keeps.bind (give_keeps _) fun _ => Keeps.pure _) _ ⟨hkept, hread⟩

theorem classify_endures (hJ : Endures h I J) (t : ThreadId) (start : ScanStart) :
    Keeps (Scene.Within J I) (classify h t start) := by
  refine Keeps.bind (hJ.mark (c := .check) trivial) fun _ => Keeps.bind (isRestricted_endures hJ t) fun b => ?_
  refine Keeps.ite (fun _ => ?_) fun _ => Keeps.pure _
  refine Keeps.bind own_keeps fun m => Keeps.bind (ask_keeps (hJ.reads.scanFrom _ _ _ _ _ _)) fun r => ?_
  cases r with
  | ok v => exact Keeps.pure _
  | error f => exact Keeps.bind (hJ.mark (c := .fault f) trivial) fun _ => Keeps.pure _

theorem check_endures (hJ : Endures h I J) (t : ThreadId) (op : OperationId) (start : ScanStart) :
    Keeps (Scene.Within J I) (check h t op start) := by
  have hreport : ∀ c, Keeps (Scene.Within J I) (some <$> report c : Act Monitor σ (Option BlockingCall)) :=
    fun c => Keeps.map _ (Keeps.bind (hJ.mark (c := .violation) trivial) fun _ => Keeps.pure _)
  refine Keeps.bind (classify_endures hJ t start) fun v => ?_
  cases v with
  | permitted => exact Keeps.pure _
  | violating =>
    refine Keeps.bind own_keeps fun m => ?_
    cases m.targets.member? op with
    | some i => exact hreport _
    | none =>
      refine Keeps.bind (Keeps.bind (ask_keeps (hJ.reads.memberInfo op)) fun r => ?_) fun c => hreport c
      cases r with
      | ok i => exact Keeps.pure _
      | error f => exact Keeps.bind (hJ.mark (c := .fault f) trivial) fun _ => Keeps.pure _

end Monitor

end StallGuard
