/-
  StallGuard.Scenario.Guards — the guards that steps leave on their threads.

  Each thread keeps its guards oldest first, by name; a name may stand for several. A
  step takes the oldest of a name. What a thread still holds when it ends, or when its
  task is done, is dropped newest first.
-/

import StallGuard.Scenario.Cast

namespace StallGuard.Scenario

def guardsOf (c : Cast) (t : ThreadId) : List (String × Guard) := (c.guards.get? t).getD []

def setGuards (t : ThreadId) (l : List (String × Guard)) : Play Program Cast Unit :=
  Site.changeExtra fun c => { c with guards := c.guards.insert t l }

/-- Keeps guards of one name as the newest of their thread, in their order. -/
def keepGuards (t : ThreadId) (name : String) (gs : List Guard) : Turn Unit := do
  let l := guardsOf (← cast) t
  play (setGuards t (l ++ gs.map (name, ·)))

def keepGuard (t : ThreadId) (name : String) (g : Guard) : Turn Unit := keepGuards t name [g]

/-- The entries without the first of this name. -/
def withoutFirst (name : String) : List (String × Guard) → List (String × Guard)
  | [] => []
  | e :: r => if e.1 = name then r else e :: withoutFirst name r

/-- Takes the oldest guard of this name. -/
def takeGuard (t : ThreadId) (name : String) : Turn Guard := do
  let l := guardsOf (← cast) t
  let e ← given (l.find? fun e => e.1 = name)
  play (setGuards t (withoutFirst name l))
  pure e.2

def dropGuard (t : ThreadId) : Guard → Play Program Cast Unit
  | .frame g => Site.dropFrame t g
  | .capability g => Site.changeProcess (·.dropCapability t g)

/-- Drops whatever the thread holds, newest first. -/
def dropGuards (t : ThreadId) : Play Program Cast Unit := do
  let l := guardsOf (← get).extra t
  setGuards t []
  l.reverse.forM fun e => dropGuard t e.2

/-- Runs a play with none of the thread's guards in reach, and drops those it leaves. -/
def apart {β : Type} (t : ThreadId) (p : Play Program Cast β) : Play Program Cast β := do
  let l := guardsOf (← get).extra t
  setGuards t []
  let b ← p
  dropGuards t
  setGuards t l
  pure b

end StallGuard.Scenario
