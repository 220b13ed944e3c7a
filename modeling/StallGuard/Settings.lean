/-
  StallGuard.Settings — how deep a stack is read, in which portions, and which capability
  marks a thread that must not block.

  Settings come from outside and may be unusable; a `Window` is the pair of bounds a scan
  works with, and its type says that both are positive and no portion exceeds the depth.
-/

import StallGuard.Fault

namespace StallGuard

/-- The capability of a thread that must not block, unless the settings name another. -/
def defaultMarker : String := "blockwatch::NonBlocking"

structure Settings where
  depth : Nat := 1024
  page : Nat := 128
  marker : String := defaultMarker
deriving DecidableEq, Repr, Inhabited

/-- How many of the innermost frames a scan looks at, and how many it asks for at once. -/
structure Window where
  depth : Nat
  page : Nat
  page_pos : 0 < page
  page_le : page ≤ depth

namespace Window

def ofBounds? (depth page : Nat) : Option Window :=
  if h : 0 < depth ∧ 0 < page then some ⟨depth, min page depth, by omega, by omega⟩ else none

theorem depth_pos (w : Window) : 0 < w.depth := Nat.lt_of_lt_of_le w.page_pos w.page_le

end Window

namespace Settings

/-- The scan bounds of usable settings, or the first thing wrong with them: depth, then
    page, then marker. -/
def window (s : Settings) : Except SetupError Window :=
  if hd : s.depth = 0 then .error (.invalidSettings "max_stack_depth must be > 0")
  else if hp : s.page = 0 then .error (.invalidSettings "stack_page_size must be > 0")
  else if s.marker = "" then .error (.invalidSettings "non_blocking_marker must not be empty")
  else .ok ⟨s.depth, min s.page s.depth, by omega, by omega⟩

def validate (s : Settings) : Except SetupError Unit := s.window.map fun _ => ()

end Settings

end StallGuard
