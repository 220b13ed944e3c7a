/-
  StallGuard.Scenario.Syntax — scenarios: steps that act on a site, and programs that handlers run.

  A scenario plays either on a stage (a rehearsal) or on the runtimes of a process. Its
  steps refer to plans, engines, futures and guards by name. Handlers, presets, futures
  and calls of services can hold steps of their own, so the syntax is one family of
  types. A step that could not be read is kept, as one that is refused when it is played;
  so is a field that some steps do without.
-/

import StallGuard.Plan
import StallGuard.Scenario.Payload
import StallGuard.Site.Native

namespace StallGuard.Scenario

/-- An operation, by number or by the member that a runtime knows it as. -/
inductive OperationRef
  | number (n : Nat)
  | member (rt : String) (owner name : String)
deriving DecidableEq, Repr

/-- A thread, by number or by its label. -/
inductive ThreadRef
  | number (n : Nat)
  | label (name : String)
deriving DecidableEq, Repr

/-- A member whose operation is given by reference. -/
structure MemberView where
  id : OperationRef
  owner : String
  name : String
  perType : Bool
  native : Bool
deriving DecidableEq, Repr

/-! ## Steps without steps of their own -/

/-- What only an engine can be asked. -/
inductive EngineOp
  | isBlockingContext
  | checkBlocking (op : OperationRef)
  | registerHook (owner name : String) (allowed : Bool)
  | resolveType (owner : String)
  | policy
  | settings
  | sameHost (rt : Option String)
  | enterNative (m : MemberRef) (entry : EntryPoint) (x y : Int64)

/-- What only a bare monitor can be asked. -/
inductive MonitorOp
  | classifyBlocking (t : Option ThreadRef)
  | classifyFrom (t : Option ThreadRef) (start : ScanStart)
  | scan (t : Option ThreadRef) (start : ScanStart)
  | report (op : OperationRef)
  | reportCall (c : BlockingCall)
  | bindNative (m : Member) (guarded : Bool) (entry : EntryPoint) (x y : Int64)
  | native (op : OperationRef) (s : Signature) (x y : Int64)
  | setBreakpoint (m : Member)
  | mark (t : Tally)

/-- What engines and monitors can be asked alike. -/
inductive WatcherOp
  | classify (t : Option ThreadRef)
  | isRestricted (t : Option ThreadRef)
  | verdict (t : Option ThreadRef)
  | forget (t : Option ThreadRef)
  | verdictCount
  | setHook (op : OperationRef) (hook : Hook)
  | hook (op : OperationRef)
  | allows (op : OperationRef)
  | hookCount
  | targetCount
  | isBreakpoint (op : OperationRef)
  | target (op : OperationRef)
  | summary

inductive StageOp
  | addMembers (ms : List Member)
  | forgetMember (op : OperationId)
  | load (owner : String)
  | unload (owner : String)
  | setCurrent (t : ThreadId)
  | setThread (i : ThreadInfo)
  /-- Outermost first, with repetitions. -/
  | setStack (t : Option ThreadId) (frames : List (Nat × OperationId))
  | startThread (t : ThreadId)
  | failThreads (f : Option Fault)
  | failMembers (f : Option Fault)
  | failStacks (first : Nat) (f : Option Fault)
  | failType (owner : String) (f : Option Fault)
  | reject (ops : List OperationId)
  | setPaging (p : Paging)
  | reach (op : OperationId)
  | fire (t : Option ThreadId) (op : OperationId)
  | detached
  | breakpoints
  | resolve (owner name : String)
  | calls

inductive ThreadOrigin
  | plain
  | unnamed
  | nonBlocking (rt : Option String)
  | capable (rt : Option String) (capabilities : List String)

/-- What happens on a runtime. -/
inductive RuntimeOp
  | define (m : MemberRef)
  | defineAll (ms : List MemberRef)
  | operation (m : MemberRef)
  | typeMembers (owner : String)
  | memberInfo (op : OperationRef)
  | resolve (owner name : String)
  | setBreakpoint (op : OperationRef)
  | summary
  | subscribe (recorder : String) (reject : Option BlockingCall)
  | listenerCount
  | enter (m : MemberRef) (guard : String)
  | enterOrPanic (m : MemberRef) (guard : String)
  | push (m : MemberRef) (guard : String) (count : Nat)
  | frames
  | frameCount
  | stackFrames (t : Option ThreadRef) (start count : Nat)
  | isExecuting (m : MemberRef)
  | declare (capabilities : List String)
  | markNonBlocking
  | hold (capability : String) (guard : String)
  | holds (capability : String)
  | threadInfo (t : Option ThreadRef)

/-- What happens in the process beyond its runtimes. -/
inductive ProcessOp
  | openRuntime (rt : String)
  | startThread (name : String) (origin : ThreadOrigin)
  | join (name : String)
  | currentThread
  | detach (recorder : String) (detached : Bool)
  | heard (recorder : String)
  | drop (guard : String)
  | leak (guard : String)
  | native (call : NativeCall)
  | openService (service : String) (m : MemberRef) (ready : String)
  | serviceReady (service : String)
  /-- The service is lost if what it is to be could not be read. -/
  | setServiceReady (service : String) (ready : Option String)
  | serviceCalls (service : String)

/-- What a future is wrapped in, with the runtime by name. -/
inductive WrapperRef
  | task
  | frame (rt : String) (m : MemberRef)

/-- Where the tasks of an asynchronous run are polled. -/
inductive Flavor
  | callingThread
  | worker
deriving DecidableEq

/-- How an asynchronous run runs its steps. -/
inductive TaskMode
  /-- As a task that is polled as one. -/
  | task
  /-- As a task that nothing was told of. -/
  | plain
  | blockOn
  /-- On a thread of the pool for blocking code, from inside a task. -/
  | pool
  | taskInPlace
  | plainInPlace
deriving DecidableEq

/-- Functions whose body runs in a frame of its own. -/
inductive FramedFunction
  | plain
  | refresh
  | checked
  | query
  | load
  | flush
deriving DecidableEq

/-- What a handler's program does in the end. -/
inductive Reply
  | allow
  | log
  | panic
  | raise (c : BlockingCall)
  | fail

/-! ## Steps -/

mutual

inductive Step
  /-- The thread it runs on, the engine whose counters are shown after it, and what it does. -/
  | mk (on watch : Option String) (op : Op)

inductive Op
  | unreadable
  | editPlan (plan : String) (edits : List PlanEdit)
  | planSummary (plan : String)
  | build (plan name : String) (rt : Option String)
  | install
  | discard (name : String)
  | monitor (name : String) (w : Window) (marker : String) (restricts volatile : Option ThreadTest)
      (handler : Handler Program)
  | engine (name : String) (op : EngineOp)
  /-- With the runtime whose host the monitor is to use. -/
  | bare (name : String) (rt : Option String) (op : MonitorOp)
  /-- With the runtime whose host a monitor is to use; engines have their own. -/
  | watcher (name : String) (rt : Option String) (op : WatcherOp)
  /-- Nothing; the step is there for the counters shown after it. -/
  | counters
  | stage (op : StageOp)
  | runtime (rt : String) (op : RuntimeOp)
  | process (op : ProcessOp)
  | react (p : Program)
  | newFuture (future : String) (wrappers : List WrapperRef) (stages : List (List Step)) (out : Payload)
  | poll (future : String)
  | unwrap (rt : String) (m : MemberRef) (stages : List (List Step))
  | callService (service future : String) (body : List Step) (stages : Option (List (List Step))) (out : Payload)
      (fails : Bool)
  | framed (f : FramedFunction) (body : List Step)
  | tasks (flavor : Flavor) (instrumented : Bool) (mode : TaskMode) (first second : List Step)

/-- What a handler runs. -/
inductive Program
  /-- Whatever the offending thread has set for itself. -/
  | threads
  | steps (body : List Step) (reply : Reply)

inductive PlanEdit
  | unreadable
  | settings (s : Settings)
  | policy (p : Policy)
  | block (m : MemberKey)
  | allow (m : MemberKey) (allowed : Bool)
  | handler (h : Handler Program)
  | restrict (test : ThreadTest)
  | volatile (test : ThreadTest)
  | preset (p : PresetRef)
  | presets (ps : List PresetRef)

inductive PresetRef
  | console
  | tasks (strict : Bool)
  | service (m : MemberRef)
  /-- Those every installed engine starts from. -/
  | defaults
  /-- One that is announced when it is applied. -/
  | custom (name : String) (priority : Int) (edits : List PlanEdit)

end

instance : Inhabited Step := ⟨.mk none none .unreadable⟩

instance : Inhabited Program := ⟨.steps [] .fail⟩

/-- A scenario: its steps, where it plays, and what its report is to hold. -/
structure Script where
  rehearsal : Bool
  steps : List Step
  log : Bool
  emit : Bool

end StallGuard.Scenario
