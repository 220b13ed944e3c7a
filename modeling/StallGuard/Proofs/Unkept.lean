/-
  StallGuard.Proofs.Unkept — threads of which no verdict is kept.

  Take a capability that a register bypasses: threads that declare it are volatile
  (`ThreadRegister.Bypasses`). While a thread declares it no verdict is kept of it, so if
  none is kept when it is declared, none is until the declaration is withdrawn
  (`Site.Unkept`). And when it is declared on the runtime that an engine watches, the
  engine drops what it had kept (`Site.Forgotten`).
  - `Move.unkept`: one move, whatever it is.
  - `declare_forgets`: a declaration, for every engine alive on the runtime.
-/

import StallGuard.Proofs.Remembering

namespace StallGuard

open Engine Site

variable {π α : Type} {s : Site π α} {t : ThreadId} {rt : RuntimeId} {c : String} {i : ThreadInfo} {past : List Event}

namespace ThreadRegister

/-- Threads that declare `c` are volatile. -/
def Bypasses (r : ThreadRegister) (c : String) : Prop := ∀ i : ThreadInfo, i.declares c = true → r.isVolatile i = true

/-- If it bypasses `c`, and the thread declares it, no verdict is kept of the thread. -/
def Unkept (r : ThreadRegister) (c : String) (i : ThreadInfo) : Prop :=
  r.Bypasses c → i.declares c = true → r.verdicts.get? i.thread = none

theorem Unkept.of_none {r : ThreadRegister} (h : r.verdicts.get? i.thread = none) : r.Unkept c i := fun _ _ => h

/-- A thread that declares no more than it did. -/
theorem Unkept.mono {r : ThreadRegister} {i' : ThreadInfo} (h : r.Unkept c i) (ht : i'.thread = i.thread)
    (hd : i'.declares c = true → i.declares c = true) : r.Unkept c i' := fun hb hi => ht ▸ h hb (hd hi)

/-- No verdict comes to be kept of a volatile thread, as long as the host says this of it. -/
theorem unkept_upheld (c : String) (i : ThreadInfo) :
    Upheld (fun r => r.Unkept c i) fun i' => i'.thread = i.thread → i' = i where
  none_kept r hr := .of_none (by rw [hr, Table.get?_empty])
  forgets r t h := by
    intro hb hi
    show (r.verdicts.erase t).get? i.thread = none
    rw [Table.get?_erase]
    split
    · rfl
    · exact h hb hi
  keeps r i' htold hsteady h := by
    intro hb hi
    show (r.verdicts.insert i'.thread _).get? i.thread = none
    rw [Table.get?_insert]
    split
    · rename_i hself
      have hvolatile : r.isVolatile i = true := hb i hi
      rw [htold hself.symm, hvolatile] at hsteady
      cases hsteady
    · exact h hb hi

end ThreadRegister

/-- No engine that is alive on the runtime and bypasses `c` keeps a verdict of the thread,
    if what is said of it is right. -/
def Site.Unkept (rt : RuntimeId) (c : String) (i : ThreadInfo) (s : Site π α) : Prop :=
  s.Upholds rt fun r => r.Unkept c i

theorem Site.Unkept.mono {i' : ThreadInfo} (h : s.Unkept rt c i) (ht : i'.thread = i.thread)
    (hd : i'.declares c = true → i.declares c = true) : s.Unkept rt c i' :=
  Upholds.imp h fun _ hr => hr.mono ht hd

/-- Whatever move is made, if the host told this of the thread before it, no verdict that
    was not kept is kept. -/
theorem Move.unkept (m : Move π α) (ht : World.Tells i s.world) (ha : m.Allowed s) (h : s.Unkept rt c i) :
    (m.play s).2.Unkept rt c i :=
  m.upholds (ThreadRegister.unkept_upheld c i) (fun t _ _ _ => ht.tellsOf t) ha h

/-! ## Declarations -/

/-- No engine that is alive on the runtime keeps a verdict of the thread. -/
def Site.Forgotten (rt : RuntimeId) (t : ThreadId) (s : Site π α) : Prop :=
  s.Upholds rt fun r => r.verdicts.get? t = none

theorem Site.Forgotten.unkept (h : s.Forgotten rt i.thread) : s.Unkept rt c i :=
  Upholds.imp h fun _ hr => .of_none hr

/-- A declaration on a runtime, for every engine alive there: what it had kept of the thread
    is dropped. -/
theorem declare_forgets {stage : Stage} {extra : α} (h : Run (bare stage extra) past s) (t : ThreadId)
    (rt : RuntimeId) (cs : List String) : (declare t rt cs s).2.Forgotten rt t := by
  intro id slot' hf' hh ha
  rw [declare_slots h] at hf'
  obtain ⟨slot, -, rfl⟩ := Option.map_eq_some_iff.1 hf'
  split at hh
  · rename_i hon
    simp [hon, Slot.forgetting, Table.get?_erase]
  · rename_i hoff
    rw [if_neg hoff] at ha
    exact absurd ⟨hh, ha⟩ hoff

end StallGuard
