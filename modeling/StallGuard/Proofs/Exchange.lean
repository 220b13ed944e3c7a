/-
  StallGuard.Proofs.Exchange — what a host is asked, and what it answers.

  An arbitrary host may answer a request one way now and another way later, and refuse
  any of them. What it was asked while an act lasted is not in the act's result, so it is
  written down beside it: `Host.logged` answers as the host does and keeps a log of
  `Exchange`s, each a request with its answer. `Logs` says of a computation that with the
  log it comes to the same, and what it adds to the log; it is read off the computation a
  step at a time, and what is then said of the log holds of the requests really made.
-/

import StallGuard.Proofs.Stepping

namespace StallGuard

/-! ## Exchanges -/

/-- A request to a host with its answer. -/
inductive Exchange
  | threadInfo (t : ThreadId) (answer : Except Fault ThreadInfo)
  | stackFrames (t : ThreadId) (start count : Nat) (answer : Except Fault (List OperationId))
  | typeMembers (owner : String) (answer : Except Fault (List Member))
  | memberInfo (op : OperationId) (answer : Except Fault Member)
  | setBreakpoint (op : OperationId) (answer : Except Fault Unit)

def refusal {β : Type} : Except Fault β → Option Fault
  | .error f => some f
  | .ok _ => none

namespace Exchange

def fault? : Exchange → Option Fault
  | threadInfo _ a => refusal a
  | stackFrames _ _ _ a => refusal a
  | typeMembers _ a => refusal a
  | memberInfo _ a => refusal a
  | setBreakpoint _ a => refusal a

/-- The frames that were handed out. -/
def frames : Exchange → List OperationId
  | stackFrames _ _ _ (.ok page) => page
  | _ => []

end Exchange

/-- The refusals in a log, in order. -/
def faults (log : List Exchange) : List Fault := log.filterMap Exchange.fault?

/-- The frames fetched in a log, in order. -/
def fetched (log : List Exchange) : List OperationId := log.flatMap Exchange.frames

theorem faults_append (l r : List Exchange) : faults (l ++ r) = faults l ++ faults r := List.filterMap_append

theorem fetched_append (l r : List Exchange) : fetched (l ++ r) = fetched l ++ fetched r := List.flatMap_append

theorem fetched_nil : fetched [] = [] := rfl

theorem fetched_page (t : ThreadId) (i n : Nat) (page : List OperationId) (log : List Exchange) :
    fetched (.stackFrames t i n (.ok page) :: log) = page ++ fetched log := rfl

/-! ## A host that keeps a log -/

variable {σ τ τ' μ β γ : Type}

/-- A request that is written down with its answer. -/
def recording (note : Except Fault β → Exchange) (q : StateM σ (Except Fault β)) :
    StateM (σ × List Exchange) (Except Fault β) :=
  fun s => ((q s.1).1, ((q s.1).2, s.2 ++ [note (q s.1).1]))

/-- The host, writing down what it is asked. -/
def Host.logged (h : Host σ) : Host (σ × List Exchange) where
  currentThread s := h.currentThread s.1
  threadInfo t := recording (.threadInfo t) (h.threadInfo t)
  stackFrames t start count := recording (.stackFrames t start count) (h.stackFrames t start count)
  typeMembers owner := recording (.typeMembers owner) (h.typeMembers owner)
  memberInfo op := recording (.memberInfo op) (h.memberInfo op)
  setBreakpoint op := recording (.setBreakpoint op) (h.setBreakpoint op)

/-- The scene on a host that has this log. -/
def Scene.logging (x : Scene μ σ) (log : List Exchange) : Scene μ (σ × List Exchange) :=
  ⟨x.own, (x.host, log), x.notices⟩

/-- From `s`, and with any log beside it, `x'` comes to what `x` comes to; what it adds to
    the log, and what it comes to, are as `P` says. `beside` puts a log beside a state. -/
def Logs (beside : τ → List Exchange → τ') (x : StateM τ β) (x' : StateM τ' β) (s : τ)
    (P : List Exchange → β × τ → Prop) : Prop :=
  ∃ new, (∀ log, x' (beside s log) = ((x s).1, beside (x s).2 (log ++ new))) ∧ P new (x s)

/-- What the host is asked while an act goes on from `x`; the act is put to a host that
    keeps a log. -/
def Act.asks (act : Act μ (σ × List Exchange) β) (x : Scene μ σ) : List Exchange := (act (x.logging [])).2.host.2

namespace Logs

variable {beside : τ → List Exchange → τ'} {s : τ}

theorem imp {x : StateM τ β} {x' : StateM τ' β} {P Q : List Exchange → β × τ → Prop} (hx : Logs beside x x' s P)
    (hPQ : ∀ new, P new (x s) → Q new (x s)) : Logs beside x x' s Q :=
  let ⟨new, he, hp⟩ := hx
  ⟨new, he, hPQ new hp⟩

theorem pure {b : β} {P : List Exchange → β × τ → Prop} (h : P [] (b, s)) :
    Logs beside (pure b : StateM τ β) (pure b) s P :=
  ⟨[], fun log => by rw [List.append_nil]; rfl, h⟩

theorem bind {x : StateM τ β} {x' : StateM τ' β} {f : β → StateM τ γ} {f' : β → StateM τ' γ}
    {P : List Exchange → γ × τ → Prop}
    (h : Logs beside x x' s fun new r => Logs beside (f r.1) (f' r.1) r.2 fun new' r' => P (new ++ new') r') :
    Logs beside (x >>= f) (x' >>= f') s P := by
  obtain ⟨new, hx, new', hf, hp⟩ := h
  refine ⟨new ++ new', fun log => ?_, hp⟩
  rw [bind_at, bind_at, hx log, hf (log ++ new), List.append_assoc]

/-- A single request is written down. -/
theorem recording {note : Except Fault β → Exchange} {q : StateM σ (Except Fault β)} {s : σ}
    {P : List Exchange → Except Fault β × σ → Prop} (h : P [note (q s).1] (q s)) :
    Logs Prod.mk q (recording note q) s P := ⟨_, fun _ => rfl, h⟩

/-! ### Acts -/

variable {x : Scene μ σ}

/-- With the log the act comes to the same, and what the log tells of is what is asked. -/
theorem asks {y : Act μ σ β} {y' : Act μ (σ × List Exchange) β} {P : List Exchange → β × Scene μ σ → Prop}
    (h : Logs Scene.logging y y' x P) :
    (∀ log, y' (x.logging log) = ((y x).1, (y x).2.logging (log ++ y'.asks x))) ∧ P (y'.asks x) (y x) := by
  obtain ⟨new, he, hp⟩ := h
  have hnew : y'.asks x = new := by
    rw [Act.asks, he]
    rfl
  rw [hnew]
  exact ⟨he, hp⟩

theorem own {P : List Exchange → μ × Scene μ σ → Prop} (h : P [] (x.own, x)) :
    Logs Scene.logging (Act.own : Act μ σ μ) Act.own x P :=
  ⟨[], fun log => by rw [List.append_nil]; rfl, h⟩

theorem change {f : μ → μ} {P : List Exchange → Unit × Scene μ σ → Prop} (h : P [] ((), { x with own := f x.own })) :
    Logs Scene.logging (Act.change f : Act μ σ Unit) (Act.change f) x P :=
  ⟨[], fun log => by rw [List.append_nil]; rfl, h⟩

theorem give {n : Notice} {P : List Exchange → Unit × Scene μ σ → Prop}
    (h : P [] ((), { x with notices := x.notices ++ [n] })) :
    Logs Scene.logging (Act.give n : Act μ σ Unit) (Act.give n) x P :=
  ⟨[], fun log => by rw [List.append_nil]; rfl, h⟩

theorem ask {q : StateM σ β} {q' : StateM (σ × List Exchange) β} {P : List Exchange → β × Scene μ σ → Prop}
    (h : Logs Prod.mk q q' x.host fun new r => P new (r.1, { x with host := r.2 })) :
    Logs Scene.logging (Act.ask q) (Act.ask q') x P := by
  obtain ⟨new, hq, hp⟩ := h
  refine ⟨new, fun log => ?_, hp⟩
  have hlog : (x.logging log).host = (x.host, log) := rfl
  rw [Act.ask_at, hlog, hq log]
  rfl

end Logs

end StallGuard
