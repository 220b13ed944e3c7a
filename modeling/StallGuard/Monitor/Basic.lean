/-
  StallGuard.Monitor.Basic — hooks, thread verdicts, targets and counters that work together.

  A monitor holds what detection has learned: which operations carry a hook, which
  threads must not block, which operations are intercepted, and the counters. What it
  does is an `Act`: a step on the monitor, the host's state and the notices given. It
  never calls a handler. A check ends in the call to report, if any, and whoever runs
  the check hands it on.

  A thread is classified at most once: its verdict is kept until it is forgotten. A
  thread that the second predicate calls volatile at the moment of classification is
  judged anew each time and nothing is kept. A kept verdict wins over both predicates.
-/

import StallGuard.BlockingCall
import StallGuard.Monitor.Scan
import StallGuard.Monitor.Target
import StallGuard.Notice

namespace StallGuard

/-! ## Acts -/

/-- What an act works on: its own state, the host's state, and the notices given so far. -/
structure Scene (μ σ : Type) where
  own : μ
  host : σ
  notices : List Notice

abbrev Act (μ σ : Type) := StateM (Scene μ σ)

namespace Act

variable {μ σ α : Type}

def own : Act μ σ μ := fun s => (s.own, s)

def change (f : μ → μ) : Act μ σ Unit := fun s => ((), { s with own := f s.own })

/-- Puts a request to the host. -/
def ask (q : StateM σ α) : Act μ σ α := fun s => let r := q s.host; (r.1, { s with host := r.2 })

def give (n : Notice) : Act μ σ Unit := fun s => ((), { s with notices := s.notices ++ [n] })

end Act

/-! ## The state -/

/-- The predicates on threads, and the verdicts kept. -/
structure ThreadRegister where
  restricts : ThreadPredicate
  volatile : Option ThreadPredicate := none
  verdicts : Table ThreadId Bool := .empty

/-- The verdict on this thread is not to be kept. -/
def ThreadRegister.isVolatile (r : ThreadRegister) (i : ThreadInfo) : Bool := r.volatile.any fun p => p i

structure Monitor where
  hooks : Hooks := .empty
  register : ThreadRegister
  window : Window
  targets : Targets := .empty
  counters : Counters := {}

namespace Monitor

open Act

variable {σ : Type}

def ofPredicates (restricts : ThreadPredicate) (volatile : Option ThreadPredicate) (w : Window) : Monitor :=
  { register := { restricts, volatile }, window := w }

def mark (t : Tally) : Act Monitor σ Unit := do
  change fun m => { m with counters := m.counters.mark t }
  give (.marked t)

/-! ## Hooks -/

def setHook (op : OperationId) (hook : Hook) : Act Monitor σ Unit :=
  change fun m => { m with hooks := m.hooks.insert op hook }

/-! ## Threads -/

def keepVerdict (t : ThreadId) (restricted : Bool) : Act Monitor σ Unit :=
  change fun m => { m with register := { m.register with verdicts := m.register.verdicts.insert t restricted } }

/-- Must this thread not block? A host that cannot tell counts as no, and is asked again
    next time. -/
def isRestricted (h : Host σ) (t : ThreadId) : Act Monitor σ Bool := do
  let m ← own
  match m.register.verdicts.get? t with
  | some restricted => pure restricted
  | none =>
    match ← ask (h.threadInfo t) with
    | .error f =>
      mark (.fault f)
      pure false
    | .ok info =>
      let restricted := m.register.restricts info
      if m.register.isVolatile info then pure restricted
      else
        keepVerdict t restricted
        mark (.classified restricted)
        give (.threadClassified t info.name restricted)
        pure restricted

/-- Drops the kept verdict, if there is one. -/
def forget (t : ThreadId) : Act Monitor σ Bool := do
  let m ← own
  change fun m => { m with register := { m.register with verdicts := m.register.verdicts.erase t } }
  pure (m.register.verdicts.contains t)

/-! ## Verdicts -/

/-- The verdict on `t` from this start; a thread that may block is not scanned, and a page
    that is refused lets the call through. -/
def classify (h : Host σ) (t : ThreadId) (start : ScanStart) : Act Monitor σ Verdict := do
  mark .check
  if ← isRestricted h t then
    let m ← own
    match ← ask (scan h m.hooks m.window t start) with
    | .ok v => pure v
    | .error f =>
      mark (.fault f)
      pure .permitted
  else pure .permitted

/-! ## Targets -/

def addTarget (op : OperationId) (target : Target) : Act Monitor σ Unit :=
  change fun m => { m with targets := m.targets.insert op target }

/-- Captures an entry point for a member that has no target yet, or hands out what its
    target holds. -/
def bindNative (m : Member) (guarded : Bool) (entry : EntryPoint) : Act Monitor σ (Except Fault Binding) := do
  match (← own).targets.get? m.id with
  | some target => pure (target.binding m.id entry.signature)
  | none =>
    addTarget m.id (.native m guarded entry)
    mark .nativeBound
    give (.nativeBound m guarded)
    pure (.ok ⟨guarded, entry⟩)

/-- Has the host set a breakpoint on a member that has no target yet; false if it has one. -/
def setBreakpoint (h : Host σ) (m : Member) : Act Monitor σ (Except Fault Bool) := do
  match (← own).targets.get? m.id with
  | some _ => pure (.ok false)
  | none =>
    match ← ask (h.setBreakpoint m.id) with
    | .error f => pure (.error f)
    | .ok () =>
      addTarget m.id (.callSite m)
      mark .breakpointSet
      pure (.ok true)

/-! ## Reports -/

/-- The host's description of an operation. -/
def describe (h : Host σ) (op : OperationId) : Act Monitor σ BlockingCall := do
  match ← ask (h.memberInfo op) with
  | .ok m => pure (.ofMember m)
  | .error f =>
    mark (.fault f)
    pure (.unresolved op)

/-- Counts a violation; what is reported goes to a handler. -/
def report (c : BlockingCall) : Act Monitor σ BlockingCall := do
  mark .violation
  pure c

/-- Checks a call of `op` by `t`; the description of a violation comes from the target if
    there is one. -/
def check (h : Host σ) (t : ThreadId) (op : OperationId) (start : ScanStart) :
    Act Monitor σ (Option BlockingCall) := do
  match ← classify h t start with
  | .permitted => pure none
  | .violating =>
    match (← own).targets.member? op with
    | some m => some <$> report (.ofMember m)
    | none => do
      let c ← describe h op
      some <$> report c

end Monitor

end StallGuard
