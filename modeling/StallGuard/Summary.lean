/-
  StallGuard.Summary — one-line texts of plans, engines, monitors and runtimes.

  The texts are for people who look into a running process. They show sizes rather than
  contents, except for settings and policies, which are shown whole.
-/

import StallGuard.Plan
import StallGuard.Process.Basic
import StallGuard.Text.Record

namespace StallGuard

open Text

def Settings.summary (s : Settings) : String :=
  record "GuardConfig"
    [("max_stack_depth", toString s.depth), ("stack_page_size", toString s.page),
      ("non_blocking_marker", quoted s.marker)] false

/-- Blocking members and allowances, by type and member, ascending. -/
def Policy.summary (p : Policy) : String :=
  let blocking := p.blockingTypes.map fun ty => pair (quoted ty) (inBraces ((p.blockingMembers ty).map quoted))
  let allowances := p.allowanceTypes.map fun ty =>
    pair (quoted ty) (inBraces ((p.allowancesFor ty).map fun a => pair (quoted a.1) (flag a.2)))
  record "Policy" [("blocking", inBraces blocking), ("allowances", inBraces allowances)] false

def ThreadRegister.summary (r : ThreadRegister) : String :=
  record "ThreadClassifier" [("cached", toString r.verdicts.size), ("dynamic", flag r.volatile.isSome)] true

def Counters.summary (c : Counters) : String :=
  record "GuardMetrics"
    [("checks", toString c.checks), ("violations", toString c.violations), ("faults", toString c.faults),
      ("threads_classified", toString c.classified), ("restricted_threads", toString c.restricted),
      ("natives_bound", toString c.nativesBound), ("breakpoints_installed", toString c.breakpointsSet),
      ("breakpoint_hits", toString c.breakpointHits)] false

/-- Threads, scan bounds with the counters, and the handler, which shows nothing. -/
def Monitor.summary (m : Monitor) : String :=
  let scanner := record "StackClassifier"
    [("max_depth", toString m.window.depth), ("page_size", toString m.window.page),
      ("metrics", m.counters.summary)] false
  joined " | " [m.register.summary, scanner, record "ViolationReporter" [] true]

def Engine.summary {π : Type} (e : Engine π) : String :=
  record "Engine"
    [("config", e.settings.summary), ("hooks", toString e.monitor.hooks.size),
      ("targets", toString e.monitor.targets.size), ("threads", e.monitor.register.summary)] true

def Plan.summary {π : Type} (p : Plan π) : String :=
  record "Builder"
    [("config", p.settings.summary), ("policy", p.policy.summary), ("composers", toString p.composers.length),
      ("dynamic", flag p.volatile.isSome)] true

def Runtime.summary (r : Runtime) : String :=
  record "LocalRuntime"
    [("members", toString r.members.length), ("types", toString r.types.length),
      ("breakpoints", toString r.breakpoints.length), ("listeners", toString r.listeners.length)] false

def summarizeGuard (length : Nat) : String := record "CapabilityGuard" [("len", toString length)] false

end StallGuard
