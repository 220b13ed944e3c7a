/-
  StallGuard.Monitor.Scan — the verdict on a stack, read page by page.

  A stack is read from the innermost frame outwards, at most `depth` frames of it and at
  most `page` at a time. An allowed frame ends the scan: whatever runs beneath it may
  block. Without one the context is violating if it was disallowed at the start or a
  disallowed frame was read. A page shorter than asked for is the end of the stack.

  Each round reads a page that is not empty or ends the scan, so `depth - skip` rounds
  always suffice; that is the measure `scanFrom` counts down.
-/

import StallGuard.Host
import StallGuard.Settings
import StallGuard.Table

namespace StallGuard

/-- What was requested of a member, attached to the operation it resolved to. -/
structure Hook where
  owner : String
  name : String
  allowed : Bool
deriving DecidableEq, Repr, Inhabited

abbrev Hooks := Table OperationId Hook

/-- Whether calls beneath this operation are allowed, if anything was requested of it. -/
def Hooks.allows? (hooks : Hooks) (op : OperationId) : Option Bool := (hooks.get? op).map Hook.allowed

inductive Verdict
  | permitted
  | violating
deriving DecidableEq, Repr, Inhabited

def Verdict.ofDisallowed : Bool → Verdict
  | true => .violating
  | false => .permitted

/-- Where a scan starts, and whether it starts from a disallowed context. -/
structure ScanStart where
  skip : Nat
  disallowed : Bool
deriving DecidableEq, Repr, Inhabited

namespace ScanStart

/-- A question about the context alone. -/
def context : ScanStart := ⟨0, false⟩

/-- A blocking primitive about to run: it is itself the reason to disallow. -/
def blockingCall : ScanStart := ⟨0, true⟩

/-- A breakpoint in a blocking member whose own frame is on the stack already. -/
def breakpoint : ScanStart := ⟨1, true⟩

end ScanStart

/-- Reads frames in order: nothing once one is allowed, else whether the context is now
    disallowed. -/
def readFrames (hooks : Hooks) : Bool → List OperationId → Option Bool
  | disallowed, [] => some disallowed
  | disallowed, op :: r => match hooks.allows? op with
    | some true => none
    | some false => readFrames hooks true r
    | none => readFrames hooks disallowed r

variable {σ : Type}

/-- At most `rounds` pages, from the frame at `depth` on. -/
def scanFrom (h : Host σ) (hooks : Hooks) (w : Window) (t : ThreadId) :
    (rounds depth : Nat) → Bool → StateM σ (Except Fault Verdict)
  | 0, _, disallowed => pure (.ok (.ofDisallowed disallowed))
  | rounds + 1, depth, disallowed =>
    if depth < w.depth then do
      let want := min w.page (w.depth - depth)
      match ← h.stackFrames t depth want with
      | .error f => pure (.error f)
      | .ok page =>
        match readFrames hooks disallowed page with
        | none => pure (.ok .permitted)
        | some disallowed' =>
          if page.length < want then pure (.ok (.ofDisallowed disallowed'))
          else scanFrom h hooks w t rounds (depth + page.length) disallowed'
    else pure (.ok (.ofDisallowed disallowed))

/-- The verdict on the stack of `t`, or the fault of the first page that was refused. -/
def scan (h : Host σ) (hooks : Hooks) (w : Window) (t : ThreadId) (start : ScanStart) :
    StateM σ (Except Fault Verdict) :=
  scanFrom h hooks w t (w.depth - start.skip) start.skip start.disallowed

end StallGuard
