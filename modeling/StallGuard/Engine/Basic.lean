/-
  StallGuard.Engine.Basic — a monitor with a policy, resolving requests as types load.

  An engine is asked, by member name, to allow or disallow what runs beneath a member,
  and its policy names members that block. Names become operations when the host lists
  the members of a type: at once if the type is loaded, and again each time the host
  says that it was loaded. Requests are kept, so the order of requests, loads and builds
  does not matter.

  Native members are bound on first use. Whatever a host refuses lets the call through
  with the caller's own entry point.
-/

import StallGuard.Monitor.Basic
import StallGuard.Policy

namespace StallGuard

/-- What is done about a violation. `π` is the type of programs that can be run for one. -/
inductive Handler (π : Type)
  /-- The violation becomes the caller's error. -/
  | fail
  /-- The violation is logged and the call proceeds. -/
  | log
  /-- The calling thread panics. -/
  | panic
  | program (p : π)
deriving Inhabited

structure Engine (π : Type) where
  monitor : Monitor
  settings : Settings
  policy : Policy
  handler : Handler π
  /-- The last request made for each member. -/
  requests : Table MemberKey Bool
  /-- The operations of the native members bound so far. -/
  natives : Table MemberKey OperationId := .empty

namespace Engine

open Act

variable {π σ β : Type}

/-- An act of the engine's monitor. -/
def watch (a : Act Monitor σ β) : Act (Engine π) σ β := fun s =>
  let r := a ⟨s.own.monitor, s.host, s.notices⟩
  (r.1, { own := { s.own with monitor := r.2.own }, host := r.2.host, notices := r.2.notices })

/-! ## Requests -/

/-- Something was requested of, or is blocking in, this type. -/
def concerns (e : Engine π) (owner : String) : Bool :=
  e.requests.keys.any (fun k => k.1 = owner) || e.policy.blocking.keys.any (fun k => k.1 = owner)

/-- Sets a breakpoint, counting a refusal. -/
def placeBreakpoint (h : Host σ) (m : Member) : Act (Engine π) σ Unit := do
  match ← watch (Monitor.setBreakpoint h m) with
  | .ok true => give (.breakpointSet m)
  | .ok false => pure ()
  | .error f => watch (Monitor.mark (.fault f))

/-- Applies to one member what was requested of it and what the policy says of it. -/
def adopt (h : Host σ) (owner : String) (m : Member) : Act (Engine π) σ Unit := do
  match (← own).requests.get? (owner, m.name) with
  | some allowed => watch (Monitor.setHook m.id ⟨owner, m.name, allowed⟩)
  | none => pure ()
  if (← own).policy.isBlocking (owner, m.name) && !m.native then placeBreakpoint h m else pure ()

/-- Applies requests and policy to every member the host now lists for a type. -/
def resolveType (h : Host σ) (owner : String) : Act (Engine π) σ Unit := do
  if (← own).concerns owner then
    match ← ask (h.typeMembers owner) with
    | .ok members => members.forM (adopt h owner)
    | .error (.typeNotLoaded _) => pure ()
    | .error f => watch (Monitor.mark (.fault f))
  else pure ()

/-- Requests a hook for every member of this name; how many were hooked now. -/
def registerHook (h : Host σ) (owner name : String) (allowed : Bool) : Act (Engine π) σ Nat := do
  change fun e => { e with requests := e.requests.insert (owner, name) allowed }
  match ← ask (h.resolve owner name) with
  | .ok ops =>
    ops.forM fun op => watch (Monitor.setHook op ⟨owner, name, allowed⟩)
    pure ops.length
  | .error (.typeNotLoaded _) => pure 0
  | .error f =>
    watch (Monitor.mark (.fault f))
    pure 0

/-! ## Setting up -/

/-- An engine that has not looked at its host yet. -/
def unresolved (settings : Settings) (w : Window) (policy : Policy) (handler : Handler π)
    (restricts : ThreadPredicate) (volatile : Option ThreadPredicate) : Engine π :=
  { monitor := .ofPredicates restricts volatile w, settings, policy, handler, requests := policy.allowances }

/-- The types a new engine looks at, ascending. -/
def startingTypes (e : Engine π) : List String :=
  Names.ofList (e.requests.keys.map Prod.fst ++ e.policy.blocking.keys.map Prod.fst)

/-- Resolves everything the policy names. -/
def start (h : Host σ) : Act (Engine π) σ Unit := do
  (← own).startingTypes.forM (resolveType h)
  let e ← own
  give (.engineReady e.monitor.hooks.size e.monitor.targets.size)

/-! ## Host events -/

/-- A thread declared capabilities, so its verdict may no longer hold. -/
def threadDeclared (t : ThreadId) : Act (Engine π) σ Unit := do
  let reclassify ← watch (Monitor.forget t)
  give (.threadDeclared t reclassify)

/-! ## Native entry points -/

/-- The operation and binding of a native member. -/
def nativeBinding (h : Host σ) (m : MemberRef) (entry : EntryPoint) :
    Act (Engine π) σ (Except Fault (OperationId × Binding)) := do
  let e ← own
  match e.natives.get? m.key with
  | some op => pure ((e.monitor.targets.bound op entry.signature).map (op, ·))
  | none =>
    match ← ask (h.typeMembers m.owner) with
    | .error f => pure (.error f)
    | .ok members =>
      match members.find? fun i => i.name = m.name with
      | none => pure (.error (.unknownMember m.owner m.name))
      | some info =>
        match ← watch (Monitor.bindNative info (e.policy.isBlocking m.key) entry) with
        | .error f => pure (.error f)
        | .ok b =>
          change fun e => { e with natives := e.natives.insert m.key info.id }
          pure (.ok (info.id, b))

/-- The binding of a native member, or nothing when the call has to fail open. -/
def bindNative (h : Host σ) (m : MemberRef) (entry : EntryPoint) :
    Act (Engine π) σ (Option (OperationId × Binding)) := do
  match ← nativeBinding h m entry with
  | .ok b => pure (some b)
  | .error f =>
    watch (Monitor.mark (.fault f))
    pure none

end Engine

end StallGuard
