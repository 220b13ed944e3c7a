/-
  StallGuard.Scenario.Rehearsal — steps that set a stage and make things happen on it.
-/

import StallGuard.Scenario.Watching

namespace StallGuard.Scenario

def readStage {β : Type} (f : Stage → β) : Turn β := do return f (← get).stage

def onStage (f : Stage → Stage) : Turn Result := do
  play (Site.changeStage f)
  pure (.value .nothing)

/-- Tells every engine of the stage, in the order of subscription. -/
def tellAll (tell : Listener → Play Program Cast Unit) : Turn Unit := do
  let ids ← readStage Stage.listeners
  play (ids.forM fun id => tell (.engine id))

/-- Tells a breakpoint to every engine, whatever they say; a panic ends the round. -/
def fireAll (invoke : Invoke Program Cast) (t thread : ThreadId) (op : OperationId) :
    List EngineId → Play Program Cast (Outcome (List (Option BlockingCall)))
  | [] => pure (.returned [])
  | id :: r => do
    match ← Site.tellBreakpoint invoke t thread op (.engine id) with
    | .panicked message => pure (.panicked message)
    | o => do
      let rest ← fireAll invoke t thread op r
      pure (rest.map (violation? o :: ·))

/-- Sets or clears what the stage refuses. -/
def onFaults (f : Stage → Table String Fault) : Turn Result := onStage fun s => { s with typeFaults := f s }

def rehearse (invoke : Invoke Program Cast) (t : ThreadId) (op : StageOp) : Turn Result := do
  onlyIn true
  match op with
  | .addMembers ms => onStage fun s => ms.foldl Stage.addMember s
  | .forgetMember id =>
    let b ← readStage fun s => s.members.contains id
    play (Site.changeStage fun s => { s with members := s.members.erase id })
    pure (.value (.flag b))
  | .load owner =>
    play (Site.changeStage fun s => s.load owner)
    tellAll (Site.tellTypeLoaded t owner)
    pure (.value .nothing)
  | .unload owner =>
    let b ← readStage fun s => s.loaded.contains owner
    play (Site.changeStage fun s => { s with loaded := s.loaded.erase owner })
    pure (.value (.flag b))
  | .setCurrent thread => onStage fun s => { s with current := thread }
  | .setThread i =>
    let b ← readStage fun s => s.threads.contains i.thread
    play (Site.changeStage fun s => { s with threads := s.threads.insert i.thread i })
    pure (.value (.flag b))
  | .setStack r frames =>
    let frames := (frames.flatMap fun f => List.replicate f.1 f.2).reverse
    let current ← readStage Stage.current
    play (Site.changeStage fun s => { s with threadStacks := s.threadStacks.insert (r.getD current) frames })
    pure (.value (.number frames.length))
  | .startThread thread =>
    tellAll (Site.tellThreadDeclared t thread)
    pure (.value .nothing)
  | .failThreads f => onStage fun s => { s with threadFault := f }
  | .failMembers f => onStage fun s => { s with memberFault := f }
  | .failStacks first f => onStage fun s => { s with stackFault := f.map (first, ·) }
  | .failType owner (some f) => onFaults fun s => s.typeFaults.insert owner f
  | .failType owner none => onFaults fun s => s.typeFaults.erase owner
  | .reject ops => onStage fun s => { s with rejected := ops }
  | .setPaging p => onStage fun s => { s with paging := p }
  | .reach target =>
    let current ← readStage Stage.current
    play (Site.changeStage fun s => s.push current target)
    let o ← if ← readStage fun s => s.breakpoints.contains target then do
        let ids ← readStage Stage.listeners
        play (Site.tellBreakpoints invoke t current target (ids.map .engine))
      else pure (.returned ())
    play (Site.changeStage fun s => s.pop current)
    pure (checkedResult o)
  | .fire r target =>
    let current ← readStage Stage.current
    let ids ← readStage Stage.listeners
    let o ← play (fireAll invoke t (r.getD current) target ids)
    pure (concluded .checkedAll (fun c => .checked (some c)) o)
  | .detached =>
    let s ← get
    pure (.value (.flags (s.stage.listeners.map fun id => s.isDetached (.engine id))))
  | .breakpoints =>
    let ops ← readStage Stage.breakpoints
    pure (.value (.operations ((ops.map OperationId.val).mergeSort.map .number)))
  | .resolve owner name =>
    let r ← play (Site.asking .stage t fun h => h.resolve owner name)
    match r with
    | .ok ops => pure (.value (.operations (ops.map fun op => .number op.val)))
    | .error f => pure (.value (.fault f))
  | .calls =>
    let cs ← readStage Stage.calls
    play (Site.changeStage fun s => { s with calls := [] })
    pure (.value (.calls cs))

end StallGuard.Scenario
