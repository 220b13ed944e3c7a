/-
  StallGuard.Scenario.Futures — futures that run steps when polled, and services that give them.

  A future has stages. Each poll runs the next of them inside whatever wraps the future;
  the future is ready when no stage is left. While a future is polled, and while a
  service is called, nothing can be done to it: it is back when the steps are done, if
  it is to come back at all.
-/

import StallGuard.Scenario.Processes

namespace StallGuard.Scenario

def wrapper : WrapperRef → Turn Wrapper
  | .task => pure (.task globalRuntime)
  | .frame name m => do
    let rt ← runtimeId name
    knownMember rt m
    pure (.frame rt m)

def keepFuture (name : String) (f : Future) : Turn Unit :=
  changeCast fun c => { c with futures := c.futures.insert name f }

def newFuture (name : String) (wrappers : List WrapperRef) (stages : List (List Step)) (out : Payload) :
    Turn Result := do
  onlyIn false
  let wrappers ← wrappers.mapM wrapper
  keepFuture name { wrappers, stages, out := .plain out }
  pure (.value .nothing)

/-- Polls a future once. -/
def pollFuture (again : PlaySteps) (t : ThreadId) (name : String) : Turn Result := do
  onlyIn false
  let f ← given ((← cast).futures.get? name)
  changeCast fun c => { c with futures := c.futures.erase name }
  let answers ← play (Site.inWrappers t f.wrappers (again t (f.stages.headD [])))
  match f.stages.tail with
  | [] => pure (.value (.ready f.out answers))
  | rest =>
    keepFuture name { f with stages := rest }
    pure (.value (.pending answers))

/-- Wraps a future in a frame, takes it out again and polls it once: no frame is pushed. -/
def pollUnwrapped (again : PlaySteps) (t : ThreadId) (name : String) (m : MemberRef)
    (stages : List (List Step)) : Turn Result := do
  onlyIn false
  let rt ← runtimeId name
  knownMember rt m
  let answers ← play (again t (stages.headD []))
  pure (.value (.unwrapped m.key stages.tail.isEmpty answers))

/-- Calls a service in its member's frame; the future it gives is polled in such a frame too. -/
def callService (again : PlaySteps) (t : ThreadId) (name future : String) (body : List Step)
    (stages : Option (List (List Step))) (out : Payload) (fails : Bool) : Turn Result := do
  onlyIn false
  let s ← service name
  changeCast fun c => { c with services := c.services.erase name }
  let answers ← play (Site.inFrame t globalRuntime s.member (again t body))
  play (Site.give t (.serviceCalled s.member.name))
  keepService name { s with calls := s.calls + 1 }
  let result : FutureOutput := match stages with
    | some _ => if fails then .error out.compact else .ok out
    | none => .error "bad_request"
  keepFuture future { wrappers := [.frame globalRuntime s.member], stages := stages.getD [], out := result }
  pure (.value (.steps answers))

end StallGuard.Scenario
