/-
  StallGuard.Scenario.Planning — what the edits of a plan do.

  An edit that could not be read, or that asks what held before where nothing did, leaves
  the plan alone and says so. Inside a preset such edits are passed over.
-/

import StallGuard.Scenario.Cast
import StallGuard.Summary

namespace StallGuard.Scenario

mutual

/-- The plan after the edit, or nothing if the edit makes no sense. -/
def applyEdit (p : Plan Program) : PlanEdit → Option (Plan Program)
  | .unreadable => none
  | .settings s => some { p with settings := s }
  | .policy policy => some { p with policy }
  | .block m => some (p.markBlocking m)
  | .allow m allowed => some (p.setAllowance m allowed)
  | .handler h => some { p with handler := h }
  | .restrict test => some (p.compose test.compose)
  | .volatile test => test.alone?.map p.addVolatile
  | .preset r => some ((presets r).foldl Plan.adopt p)
  | .presets rs => some (p.adoptAll (allPresets rs))

def applyEdits (p : Plan Program) : List PlanEdit → Plan Program
  | [] => p
  | e :: r => applyEdits ((applyEdit p e).getD p) r

def presets : PresetRef → List (Preset Program)
  | .console => [.console]
  | .tasks strict => [.tasks strict]
  | .service m => [.service m]
  | .defaults => Preset.defaults
  | .custom name priority edits =>
    [{ priority, edit := fun p => applyEdits { p with applied := p.applied ++ [name] } edits }]

def allPresets : List PresetRef → List (Preset Program)
  | [] => []
  | r :: rest => presets r ++ allPresets rest

end

/-- Applies edits one by one, and says which of them made sense. -/
def editAll (p : Plan Program) : List PlanEdit → Plan Program × List Bool
  | [] => (p, [])
  | e :: r =>
    let q := applyEdit p e
    let rest := editAll (q.getD p) r
    (rest.1, q.isSome :: rest.2)

def planOf (name : String) : Turn (Plan Program) := do return ((← cast).plans.get? name).getD {}

def keepPlan (name : String) (p : Plan Program) : Turn Unit :=
  changeCast fun c => { c with plans := c.plans.insert name p }

/-- Edits a plan; presets that were announced become events. -/
def editPlan (name : String) (edits : List PlanEdit) : Turn Answer := do
  let (p, oks) := editAll (← planOf name) edits
  keepPlan name { p with applied := [] }
  changeCast fun c => { c with events := c.events ++ p.applied.map .applied }
  pure (.flags oks)

def planSummary (name : String) : Turn Answer := do
  let p ← planOf name
  keepPlan name p
  pure (.text p.summary)

/-- Builds an engine of this name; one that had the name is given up afterwards. -/
def buildEngine (t : ThreadId) (plan name : String) (rt : Option String) : Turn Answer := do
  require (name ≠ installedName)
  let h ← hostId rt
  let p ← planOf plan
  let (r, left) ← play (Site.build t h p)
  keepPlan plan left
  match r with
  | .ok id =>
    rename name (.engine id)
    pure .done
  | .error e => pure (.refused e)

/-- A monitor without an engine. Both of its predicates stand alone, but what says which
    threads must not block may widen or narrow the marker's. -/
def newMonitor (name : String) (w : Window) (marker : String) (restricts volatile : Option ThreadTest)
    (handler : Handler Program) : Turn Answer := do
  let marked := markerPredicate marker
  let volatile ← volatile.mapM fun test => given test.alone?
  let restricts := (restricts.map fun test => test.compose marked).getD marked
  rename name (.monitor (.ofPredicates restricts volatile w) handler)
  pure .done

end StallGuard.Scenario
