/-
  StallGuard.Plan — everything decided about an engine before it is built.

  A plan gathers settings, a policy, a handler and predicates on threads. Predicates that
  say which threads must not block are composed: each gets the one before it, the first
  the predicate of the marker. Predicates that say which threads are volatile are joined.
  Building an engine uses up the composition, whether the settings turn out usable or
  not: the next build starts from the marker again.

  A preset is a bundle of changes that some library brings along. Of several presets
  those with lower priority are applied first, and those of one priority in the order in
  which they were given.
-/

import StallGuard.Engine.Basic
import StallGuard.Primitives

namespace StallGuard

structure Plan (π : Type) where
  settings : Settings := {}
  policy : Policy := .std
  handler : Handler π := .fail
  /-- Each makes a predicate from the one before; the oldest first. -/
  composers : List (ThreadPredicate → ThreadPredicate) := []
  volatile : Option ThreadPredicate := none
  /-- Names of the announced presets applied so far. -/
  applied : List String := []

instance {π : Type} : Inhabited (Plan π) := ⟨{}⟩

structure Preset (π : Type) where
  priority : Int := 0
  edit : Plan π → Plan π

namespace Plan

variable {π : Type}

def markBlocking (p : Plan π) (m : MemberKey) : Plan π := { p with policy := p.policy.markBlocking m }

def setAllowance (p : Plan π) (m : MemberKey) (allowed : Bool) : Plan π :=
  { p with policy := p.policy.setAllowance m allowed }

def compose (p : Plan π) (f : ThreadPredicate → ThreadPredicate) : Plan π :=
  { p with composers := p.composers ++ [f] }

def addVolatile (p : Plan π) (test : ThreadPredicate) : Plan π :=
  { p with volatile := some (match p.volatile with
    | some before => fun i => before i || test i
    | none => test) }

/-- The predicate that the composers make of the marker's. -/
def restricts (p : Plan π) : ThreadPredicate :=
  p.composers.foldl (fun before f => f before) (markerPredicate p.settings.marker)

/-- The engine to be set up, and the plan that is left. -/
def build (p : Plan π) : Except SetupError (Engine π) × Plan π :=
  (p.settings.window.map fun w => .unresolved p.settings w p.policy p.handler p.restricts p.volatile,
    { p with composers := [] })

end Plan

namespace Preset

variable {π : Type}

/-- Puts a preset behind those of its own or a lower priority. -/
def place (x : Preset π) : List (Preset π) → List (Preset π)
  | [] => [x]
  | y :: r => if x.priority < y.priority then x :: y :: r else y :: place x r

/-- By priority, those of one priority in the given order. -/
def inOrder (l : List (Preset π)) : List (Preset π) := l.foldl (fun acc x => place x acc) []

/-- Lets the console write from threads that must not block. -/
def console : Preset π where
  edit p := (p.setAllowance Primitives.consoleWrite.key true).setAllowance Primitives.consoleFlush.key true

/-- Threads must not block while they poll a task, and are volatile from their first task
    on; unless `strict`, a task may block in an excursion made for it. -/
def tasks (strict : Bool) : Preset π where
  priority := 10
  edit p :=
    let p := p.compose fun before i => before i || i.declares Primitives.taskMark
    let p := p.addVolatile fun i => i.declares Primitives.taskThread || i.declares Primitives.taskMark
    let p := p.setAllowance Primitives.taskPoll.key false
    if strict then p else p.setAllowance Primitives.blockInPlace.key true

/-- Calls of a service must not block. -/
def service (m : MemberRef) : Preset π where
  edit p := p.setAllowance m.key false

/-- What every installed engine starts from. -/
def defaults : List (Preset π) := [console, tasks false]

end Preset

namespace Plan

variable {π : Type}

def adopt (p : Plan π) (x : Preset π) : Plan π := x.edit p

def adoptAll (p : Plan π) (l : List (Preset π)) : Plan π := (Preset.inOrder l).foldl adopt p

end Plan

end StallGuard
