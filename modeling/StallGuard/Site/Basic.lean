/-
  StallGuard.Site.Basic — a process, a stage, and the engines that watch them.

  A site is everything that can act on everything else: the process with its threads and
  runtimes, a stage, the engines built so far, recorders, and the notices given. An
  engine is kept alive by its owner and by every operation that is using it; one that is
  not alive hears nothing more. `α` is whatever else the caller keeps on the site, so
  that handler programs, which may do anything on the site, can reach it.

  What happens on a site is a `Play`. A play that can be stopped by a violation ends in
  an `Outcome`: it returned, it raised the violation, or its thread panicked.
-/

import StallGuard.Engine.Basic
import StallGuard.Process.Guard
import StallGuard.Stage

namespace StallGuard

/-- Which host an engine watches. -/
inductive HostId
  | stage
  | runtime (rt : RuntimeId)
deriving DecidableEq, Repr

/-- An engine, its host, and what keeps it alive. -/
structure Slot (π : Type) where
  engine : Engine π
  host : HostId
  owned : Bool := true
  uses : Nat := 0

def Slot.alive {π : Type} (s : Slot π) : Bool := s.owned || decide (0 < s.uses)

/-- What a recorder was told. -/
inductive Signal
  | typeLoaded (owner : String)
  | threadDeclared
  | breakpoint
deriving DecidableEq, Repr

/-- Listens to a runtime and writes down what it is told; may refuse every breakpoint. -/
structure Recorder where
  reject : Option BlockingCall := none
  detached : Bool := false
  heard : List Signal := []
deriving DecidableEq, Repr, Inhabited

/-- The hosts' state. -/
structure World where
  process : Process
  stage : Stage

/-- What host `h` answers when a thread of the process asks. -/
def World.host (h : HostId) (t : ThreadId) : Host World :=
  match h with
  | .stage => {
      currentThread := fun w => Stage.host.currentThread w.stage
      threadInfo := fun a w => let r := Stage.host.threadInfo a w.stage; (r.1, { w with stage := r.2 })
      stackFrames := fun a i n w => let r := Stage.host.stackFrames a i n w.stage; (r.1, { w with stage := r.2 })
      typeMembers := fun a w => let r := Stage.host.typeMembers a w.stage; (r.1, { w with stage := r.2 })
      memberInfo := fun a w => let r := Stage.host.memberInfo a w.stage; (r.1, { w with stage := r.2 })
      setBreakpoint := fun a w => let r := Stage.host.setBreakpoint a w.stage; (r.1, { w with stage := r.2 }) }
  | .runtime rt =>
    let p := Process.host rt t
    { currentThread := fun w => p.currentThread w.process
      threadInfo := fun a w => let r := p.threadInfo a w.process; (r.1, { w with process := r.2 })
      stackFrames := fun a i n w => let r := p.stackFrames a i n w.process; (r.1, { w with process := r.2 })
      typeMembers := fun a w => let r := p.typeMembers a w.process; (r.1, { w with process := r.2 })
      memberInfo := fun a w => let r := p.memberInfo a w.process; (r.1, { w with process := r.2 })
      setBreakpoint := fun a w => let r := p.setBreakpoint a w.process; (r.1, { w with process := r.2 }) }

structure Site (π α : Type) where
  world : World
  slots : Table EngineId (Slot π) := .empty
  recorders : Table RecorderId Recorder := .empty
  /-- With the thread each was given on, oldest first. -/
  notices : List (ThreadId × Notice) := []
  extra : α

abbrev Play (π α : Type) := StateM (Site π α)

/-- How a play that a violation can stop has ended. -/
inductive Outcome (β : Type)
  | returned (b : β)
  | raised (c : BlockingCall)
  | panicked (message : String)
deriving DecidableEq, Repr

namespace Outcome

def map {β γ : Type} (f : β → γ) : Outcome β → Outcome γ
  | returned b => .returned (f b)
  | raised c => .raised c
  | panicked m => .panicked m

/-- What was raised is a panic. -/
def orPanic {β : Type} : Outcome β → Outcome β
  | returned b => .returned b
  | raised c => .panicked c.message
  | panicked m => .panicked m

theorem orPanic_eq_returned {β : Type} {o : Outcome β} {b : β} : o.orPanic = .returned b ↔ o = .returned b := by
  cases o <;> simp [orPanic]

end Outcome

namespace Site

variable {π α β : Type}

def alive (s : Site π α) (id : EngineId) : Bool := (s.slots.get? id).any Slot.alive

def engine? (s : Site π α) (id : EngineId) : Option (Engine π) := (s.slots.get? id).map Slot.engine

def process (s : Site π α) : Process := s.world.process

def stage (s : Site π α) : Stage := s.world.stage

/-! ## Plays -/

def changeProcess (f : Process → Process) : Play π α Unit :=
  modify fun s => { s with world := { s.world with process := f s.world.process } }

def changeStage (f : Stage → Stage) : Play π α Unit :=
  modify fun s => { s with world := { s.world with stage := f s.world.stage } }

def changeExtra (f : α → α) : Play π α Unit := modify fun s => { s with extra := f s.extra }

/-- A step of the process that has a result. -/
def inProcess (f : Process → β × Process) : Play π α β := fun s =>
  let r := f s.world.process
  (r.1, { s with world := { s.world with process := r.2 } })

def changeSlot (id : EngineId) (f : Slot π → Slot π) : Play π α Unit :=
  modify fun s => { s with slots := s.slots.modify id f }

def give (t : ThreadId) (n : Notice) : Play π α Unit := modify fun s => { s with notices := s.notices ++ [(t, n)] }

/-- Puts a request to a host on behalf of a thread. -/
def asking (h : HostId) (t : ThreadId) (q : Host World → StateM World β) : Play π α β := fun s =>
  let r := q (World.host h t) s.world
  (r.1, { s with world := r.2 })

/-- Lets an engine act, for a thread of the process. -/
def acting (t : ThreadId) (id : EngineId) (fallback : β) (act : Host World → Act (Engine π) World β) :
    Play π α β := fun s =>
  match s.slots.get? id with
  | none => (fallback, s)
  | some slot =>
    let r := act (World.host slot.host t) ⟨slot.engine, s.world, []⟩
    (r.1, { s with
      world := r.2.host
      slots := s.slots.insert id { slot with engine := r.2.own }
      notices := s.notices ++ r.2.notices.map (t, ·) })

/-- Keeps an engine alive while the play uses it. -/
def keepingAlive (id : EngineId) (play : Play π α β) : Play π α β := do
  changeSlot id fun slot => { slot with uses := slot.uses + 1 }
  let b ← play
  changeSlot id fun slot => { slot with uses := slot.uses - 1 }
  pure b

/-- Gives an engine up; it ends when nothing uses it. -/
def disown (id : EngineId) : Play π α Unit := changeSlot id fun slot => { slot with owned := false }

end Site

end StallGuard
