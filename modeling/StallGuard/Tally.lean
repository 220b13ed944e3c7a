/-
  StallGuard.Tally — what is counted, and the counters.

  Every engine and every monitor has one set of counters. A tally mark moves them by one
  (a restricted thread moves two); most marks are also counted outside the engine, under
  the name `counterName`.
-/

import StallGuard.Fault

namespace StallGuard

inductive Tally
  | check
  | violation
  | fault (f : Fault)
  | classified (restricted : Bool)
  | nativeBound
  | breakpointSet
  | breakpointHit
deriving DecidableEq, Repr

structure Counters where
  checks : Nat := 0
  violations : Nat := 0
  faults : Nat := 0
  classified : Nat := 0
  restricted : Nat := 0
  nativesBound : Nat := 0
  breakpointsSet : Nat := 0
  breakpointHits : Nat := 0
deriving DecidableEq, Repr, Inhabited

def Counters.mark (c : Counters) : Tally → Counters
  | .check => { c with checks := c.checks + 1 }
  | .violation => { c with violations := c.violations + 1 }
  | .fault _ => { c with faults := c.faults + 1 }
  | .classified r => { c with classified := c.classified + 1, restricted := c.restricted + r.toNat }
  | .nativeBound => { c with nativesBound := c.nativesBound + 1 }
  | .breakpointSet => { c with breakpointsSet := c.breakpointsSet + 1 }
  | .breakpointHit => { c with breakpointHits := c.breakpointHits + 1 }

/-- The name under which a mark is counted outside; breakpoints set are not. -/
def Tally.counterName : Tally → Option String
  | .check => some "blockwatch_checks_total"
  | .violation => some "blockwatch_violations_total"
  | .fault f => some ("blockwatch_faults_total\x7bkind=" ++ f.kind ++ "\x7d")
  | .classified r =>
    some ("blockwatch_threads_classified_total\x7brestricted=" ++ (if r then "true" else "false") ++ "\x7d")
  | .nativeBound => some "blockwatch_natives_bound_total"
  | .breakpointSet => none
  | .breakpointHit => some "blockwatch_breakpoint_hits_total"

end StallGuard
