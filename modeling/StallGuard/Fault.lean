/-
  StallGuard.Fault — what a host can refuse, and why an engine cannot be set up.

  A fault is a host's refusal. Detection never fails on one: it is counted under its
  `kind` and the call it came up in is let through. A setup error is final.
-/

import StallGuard.Member

namespace StallGuard

inductive Fault
  | stackUnavailable (t : ThreadId)
  | threadNotAccessible (t : ThreadId)
  | typeNotLoaded (type : String)
  | unknownOperation (op : OperationId)
  | unknownMember (owner name : String)
  /-- The operation was bound before with an entry point of another signature. -/
  | signatureMismatch (op : OperationId)
  | breakpointRejected (op : OperationId)
deriving DecidableEq, Repr, Inhabited

namespace Fault

/-- The label under which a fault is counted. -/
def kind : Fault → String
  | stackUnavailable _ => "stack_unavailable"
  | threadNotAccessible _ => "thread_not_accessible"
  | typeNotLoaded _ => "type_not_loaded"
  | unknownOperation _ => "unknown_operation"
  | unknownMember .. => "unknown_member"
  | signatureMismatch _ => "signature_mismatch"
  | breakpointRejected _ => "breakpoint_rejected"

def showThread (t : ThreadId) : String := "ThreadHandle(" ++ toString t.val ++ ")"

def showOperation (op : OperationId) : String := "OperationId(" ++ toString op.val ++ ")"

def message : Fault → String
  | stackUnavailable t => "Stack trace unavailable for thread " ++ showThread t
  | threadNotAccessible t => "Thread " ++ showThread t ++ " is not accessible from the current thread"
  | typeNotLoaded ty => "Type not loaded: " ++ ty
  | unknownOperation op => "Unknown operation: " ++ showOperation op
  | unknownMember owner name => "Unknown member " ++ name ++ " on " ++ owner
  | signatureMismatch op => "Entry point for " ++ showOperation op ++ " was bound with a different signature"
  | breakpointRejected op => "Breakpoint rejected for " ++ showOperation op

end Fault

/-- Why an engine was not set up. -/
inductive SetupError
  | alreadyInstalled
  | invalidSettings (reason : String)
  | hostFault (f : Fault)
deriving DecidableEq, Repr, Inhabited

def SetupError.message : SetupError → String
  | alreadyInstalled => "An engine is already installed"
  | invalidSettings reason => "Invalid configuration: " ++ reason
  | hostFault f => "Instrumentation failed: " ++ f.message

end StallGuard
