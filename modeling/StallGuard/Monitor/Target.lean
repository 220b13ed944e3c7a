/-
  StallGuard.Monitor.Target — how an operation is intercepted.

  An operation owns at most one target, and keeps the one it got first: a native entry
  point captured with its guard flag, or a call site with a breakpoint. Later binds of a
  native operation get what was captured then; a bind with another signature, or of a
  call site, is refused.
-/

import StallGuard.EntryPoint
import StallGuard.Fault
import StallGuard.Table

namespace StallGuard

inductive Target
  /-- Reached through a breakpoint. -/
  | callSite (m : Member)
  /-- Replaced by the entry point captured first. -/
  | native (m : Member) (guarded : Bool) (entry : EntryPoint)
deriving DecidableEq

abbrev Targets := Table OperationId Target

/-- What a bind hands out: the entry point to call, and whether to check first. -/
structure Binding where
  guarded : Bool
  entry : EntryPoint
deriving DecidableEq

namespace Target

def member : Target → Member
  | callSite m => m
  | native m _ _ => m

def isCallSite : Target → Bool
  | callSite _ => true
  | native .. => false

/-- What a target of operation `op` hands out for an entry point of signature `s`. -/
def binding (op : OperationId) (s : Signature) : Target → Except Fault Binding
  | callSite _ => .error (.signatureMismatch op)
  | native _ guarded entry =>
    if entry.signature = s then .ok ⟨guarded, entry⟩ else .error (.signatureMismatch op)

end Target

namespace Targets

def member? (ts : Targets) (op : OperationId) : Option Member := (ts.get? op).map Target.member

def isBreakpoint (ts : Targets) (op : OperationId) : Bool := (ts.get? op).any Target.isCallSite

/-- What was bound under `op` earlier. -/
def bound (ts : Targets) (op : OperationId) (s : Signature) : Except Fault Binding :=
  match ts.get? op with
  | some target => target.binding op s
  | none => .error (.unknownOperation op)

end Targets

end StallGuard
