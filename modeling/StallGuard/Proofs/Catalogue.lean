/-
  StallGuard.Proofs.Catalogue — what runtimes know, and what leaves it alone.

  Operations are numbered across the process, and a number is issued once. So in every
  process that grew from a fresh one by definitions (`Process.Catalogued`) an operation
  belongs to one member of one runtime, and a member's key to one operation of its
  runtime:
  - `find?_eq_some` / `byId?_eq_some`: looking up by key or by operation finds exactly the
    members that are there.
  - `catalogue_catalogued`: a definition keeps all of that; `Alike.catalogue`: what it does
    hangs on the catalogues alone.
  Whatever else an engine does to a process is to set breakpoints; `MoreBreakpoints` is
  that relation, and every request that any host answers stays within it
  (`World.host_keeps`).
-/

import Mathlib.Data.List.Nodup
import StallGuard.Proofs.Stepping

namespace StallGuard

/-! ## Runtimes and threads of a process -/

namespace Process

variable (p : Process)

theorem runtime_changeRuntime (rt rt' : RuntimeId) (f : Runtime → Runtime) :
    (p.changeRuntime rt f).runtime rt' = if rt' = rt then f (p.runtime rt) else p.runtime rt' := by
  unfold changeRuntime runtime
  simp only [Table.get?_insert]
  split <;> rfl

@[simp] theorem runtime_changeRuntime_self (rt : RuntimeId) (f : Runtime → Runtime) :
    (p.changeRuntime rt f).runtime rt = f (p.runtime rt) := by
  rw [runtime_changeRuntime, if_pos rfl]

theorem opened_changeRuntime (rt : RuntimeId) (f : Runtime → Runtime) (rt' : RuntimeId)
    (h : p.runtimes.contains rt' = true) : (p.changeRuntime rt f).runtimes.contains rt' = true := by
  rw [changeRuntime, Table.contains_insert, h, Bool.or_true]

theorem thread_changeThread (t t' : ThreadId) (f : Thread → Thread) :
    (p.changeThread t f).thread t' = if t' = t then f (p.thread t) else p.thread t' := by
  unfold changeThread thread
  simp only [Table.get?_insert]
  split <;> rfl

@[simp] theorem thread_changeThread_self (t : ThreadId) (f : Thread → Thread) :
    (p.changeThread t f).thread t = f (p.thread t) := by
  rw [thread_changeThread, if_pos rfl]

end Process

/-! ## Looking members up -/

namespace Runtime

/-- No key and no operation stands for two members. -/
structure Distinct (r : Runtime) : Prop where
  keys : (r.members.map Member.key).Nodup
  ids : (r.members.map Member.id).Nodup

variable {r : Runtime} {m : Member}

theorem Distinct.eq_of_id (h : r.Distinct) {m n : Member} (hm : m ∈ r.members) (hn : n ∈ r.members)
    (e : m.id = n.id) : m = n := List.inj_on_of_nodup_map h.ids hm hn e

/-- What is found by a trait that no two members share. -/
theorem find?_unique {κ : Type} [DecidableEq κ] {ms : List Member} {f : Member → κ} (h : (ms.map f).Nodup) {k : κ} :
    ms.find? (fun m => f m = k) = some m ↔ m ∈ ms ∧ f m = k := by
  constructor
  · intro e
    exact ⟨List.mem_of_find?_eq_some e, by simpa using List.find?_some e⟩
  · rintro ⟨hm, rfl⟩
    cases e : ms.find? fun n => f n = f m with
    | none =>
      have := List.find?_eq_none.1 e m hm
      simp at this
    | some n =>
      have hk : f n = f m := by simpa using List.find?_some e
      rw [List.inj_on_of_nodup_map h (List.mem_of_find?_eq_some e) hm hk]

theorem find?_eq_some (h : r.Distinct) {key : MemberKey} : r.find? key = some m ↔ m ∈ r.members ∧ m.key = key :=
  find?_unique h.keys

theorem byId?_eq_some (h : r.Distinct) {op : OperationId} : r.byId? op = some m ↔ m ∈ r.members ∧ m.id = op :=
  find?_unique h.ids

theorem find?_eq_none {key : MemberKey} : r.find? key = none ↔ ∀ m ∈ r.members, m.key ≠ key := by
  simp [find?, List.find?_eq_none]

theorem mem_membersOf {owner : String} : m ∈ r.membersOf owner ↔ m ∈ r.members ∧ m.owner = owner := by
  simp [membersOf]

/-- What a runtime lists for a type; no members means that the type is not loaded. -/
theorem typeMembers_cases (r : Runtime) (owner : String) :
    (r.membersOf owner = [] ∧ r.typeMembers owner = .error (.typeNotLoaded owner)) ∨
      (r.membersOf owner ≠ [] ∧ r.typeMembers owner = .ok (r.membersOf owner)) := by
  unfold typeMembers
  split
  · rename_i h; exact Or.inl ⟨h, rfl⟩
  · rename_i h; exact Or.inr ⟨h, rfl⟩

/-- Finding a name among the members of a type is finding the key. -/
theorem find?_membersOf (r : Runtime) (owner name : String) :
    ((r.membersOf owner).find? fun m => m.name = name) = r.find? (owner, name) := by
  unfold membersOf find?
  rw [List.find?_filter]
  congr 1
  funext m
  simp [Member.key, Prod.ext_iff]

end Runtime

/-- The description that was given of the member. -/
def Member.ref (i : Member) : MemberRef := ⟨i.owner, i.name, i.perType, i.native⟩

/-! ## Catalogued processes -/

namespace Process

structure Catalogued (p : Process) : Prop where
  distinct : ∀ rt, (p.runtime rt).Distinct
  issued : ∀ rt, ∀ m ∈ (p.runtime rt).members, m.id.val < p.nextOperation
  apart : ∀ rt rt', rt ≠ rt' → ∀ m ∈ (p.runtime rt).members, ∀ n ∈ (p.runtime rt').members, m.id ≠ n.id

theorem fresh_catalogued : fresh.Catalogued where
  distinct _ := ⟨List.nodup_nil, List.nodup_nil⟩
  issued _ _ h := absurd h List.not_mem_nil
  apart _ _ _ _ h := absurd h List.not_mem_nil

/-- The catalogues of `q` are those of `p`; its threads and breakpoints may be others. -/
structure Alike (p q : Process) : Prop where
  members : ∀ rt, (q.runtime rt).members = (p.runtime rt).members
  nextOperation : q.nextOperation = p.nextOperation

theorem Alike.refl (p : Process) : p.Alike p := ⟨fun _ => rfl, rfl⟩

theorem Alike.trans {p q r : Process} (h : p.Alike q) (h' : q.Alike r) : p.Alike r :=
  ⟨fun rt => (h'.members rt).trans (h.members rt), h'.nextOperation.trans h.nextOperation⟩

theorem Catalogued.alike {p q : Process} (hp : p.Catalogued) (h : p.Alike q) : q.Catalogued where
  distinct rt := ⟨by rw [h.members]; exact (hp.distinct rt).keys, by rw [h.members]; exact (hp.distinct rt).ids⟩
  issued rt := by rw [h.members, h.nextOperation]; exact hp.issued rt
  apart rt rt' := by rw [h.members, h.members]; exact hp.apart rt rt'

/-- The member that a definition adds, under the next number. -/
def added (p : Process) (m : MemberRef) : Member := m.withId ⟨p.nextOperation⟩

theorem added_key (p : Process) (m : MemberRef) : (p.added m).key = m.key := rfl

/-- A definition finds the member or adds it at the end. -/
theorem catalogue_cases (p : Process) (rt : RuntimeId) (m : MemberRef) :
    (∃ i, (p.runtime rt).find? m.key = some i ∧ p.catalogue rt m = ((i.id, false), p)) ∨
      ((p.runtime rt).find? m.key = none ∧ (p.catalogue rt m).1 = ((p.added m).id, true) ∧
        (p.catalogue rt m).2 = { p.changeRuntime rt fun r => { r with members := r.members ++ [p.added m] } with
          nextOperation := p.nextOperation + 1 }) := by
  unfold catalogue Runtime.operation?
  cases h : (p.runtime rt).find? m.key with
  | some i => exact Or.inl ⟨i, rfl, rfl⟩
  | none => exact Or.inr ⟨rfl, rfl, rfl⟩

theorem runtime_nextOperation (p : Process) (n : Nat) (rt : RuntimeId) :
    ({ p with nextOperation := n } : Process).runtime rt = p.runtime rt := rfl

/-- What becomes of any runtime by a definition on `rt`. -/
theorem runtime_catalogue (p : Process) (rt rt' : RuntimeId) (m : MemberRef) :
    (p.catalogue rt m).2.runtime rt' = if (p.catalogue rt m).1.2 = true ∧ rt' = rt
      then { p.runtime rt' with members := (p.runtime rt').members ++ [p.added m] } else p.runtime rt' := by
  rcases catalogue_cases p rt m with ⟨i, -, e⟩ | ⟨-, e1, e2⟩
  · rw [e]; simp
  · rw [e1, e2, runtime_nextOperation, runtime_changeRuntime]
    by_cases h : rt' = rt
    · rw [if_pos h, if_pos ⟨rfl, h⟩, h]
    · rw [if_neg h, if_neg fun e => h e.2]

/-- A definition is found unless the member was known. -/
theorem find?_catalogue (p : Process) (rt rt' : RuntimeId) (m : MemberRef) (key : MemberKey) :
    ((p.catalogue rt m).2.runtime rt').find? key =
      ((p.runtime rt').find? key).or (if rt = rt' ∧ m.key = key then some (p.added m) else none) := by
  obtain ⟨i, hi, e⟩ | ⟨hnone, hadd, -⟩ := catalogue_cases p rt m
  · rw [e]
    by_cases h : rt = rt' ∧ m.key = key
    · obtain ⟨rfl, rfl⟩ := h
      rw [hi]
      rfl
    · rw [if_neg h, Option.or_none]
  · rw [runtime_catalogue, hadd]
    by_cases h : rt = rt'
    · subst h
      rw [if_pos ⟨rfl, rfl⟩, Runtime.find?, List.find?_append, List.find?_singleton, added_key]
      by_cases hkey : m.key = key <;> simp [hkey, Runtime.find?]
    · rw [if_neg fun e => h e.2.symm, if_neg fun e => h e.1, Option.or_none]

theorem opened_catalogue (p : Process) (rt rt' : RuntimeId) (m : MemberRef) (h : p.runtimes.contains rt' = true) :
    (p.catalogue rt m).2.runtimes.contains rt' = true := by
  rcases catalogue_cases p rt m with ⟨i, -, e⟩ | ⟨-, -, e⟩
  · rw [e]; exact h
  · rw [e]; exact opened_changeRuntime p rt (fun r => { r with members := r.members ++ [p.added m] }) rt' h

theorem catalogue_catalogued {p : Process} (h : p.Catalogued) (rt : RuntimeId) (m : MemberRef) :
    (p.catalogue rt m).2.Catalogued := by
  rcases catalogue_cases p rt m with ⟨i, -, e⟩ | ⟨hnone, hadd, e⟩
  · rw [e]; exact h
  have hm : ∀ rt', ((p.catalogue rt m).2.runtime rt').members =
      if rt' = rt then (p.runtime rt').members ++ [p.added m] else (p.runtime rt').members := by
    intro rt'
    rw [runtime_catalogue, hadd]
    by_cases c : rt' = rt <;> simp [c]
  -- The new operation is the next number, and every number in use is below it.
  have hnew : ∀ rt', ∀ n ∈ (p.runtime rt').members, n.id ≠ (p.added m).id := by
    intro rt' n hn e
    have := h.issued rt' n hn
    rw [e] at this
    exact absurd this (Nat.lt_irrefl _)
  constructor
  · intro rt'
    by_cases c : rt' = rt
    · subst c
      constructor <;> rw [hm, if_pos rfl, List.map_append]
      · refine List.nodup_append.2 ⟨(h.distinct _).keys, by simp, ?_⟩
        intro a ha b hb
        obtain ⟨n, hn, rfl⟩ := List.mem_map.1 ha
        rw [List.map_singleton, List.mem_singleton] at hb
        subst hb
        exact Runtime.find?_eq_none.1 hnone n hn
      · refine List.nodup_append.2 ⟨(h.distinct _).ids, by simp, ?_⟩
        intro a ha b hb
        obtain ⟨n, hn, rfl⟩ := List.mem_map.1 ha
        rw [List.map_singleton, List.mem_singleton] at hb
        subst hb
        exact hnew _ n hn
    · constructor <;> rw [hm, if_neg c]
      · exact (h.distinct _).keys
      · exact (h.distinct _).ids
  · intro rt' n hn
    rw [hm] at hn
    rw [e]
    show n.id.val < p.nextOperation + 1
    split at hn
    · rcases List.mem_append.1 hn with hn | hn
      · exact Nat.lt_succ_of_lt (h.issued _ n hn)
      · rw [List.mem_singleton] at hn; subst hn; exact Nat.lt_succ_self _
    · exact Nat.lt_succ_of_lt (h.issued _ n hn)
  · intro rt₁ rt₂ hne n₁ hn₁ n₂ hn₂
    rw [hm] at hn₁ hn₂
    split at hn₁ <;> split at hn₂
    · rename_i e₁ e₂; exact absurd (e₁.trans e₂.symm) hne
    · rcases List.mem_append.1 hn₁ with hn₁ | hn₁
      · exact h.apart _ _ hne n₁ hn₁ n₂ hn₂
      · rw [List.mem_singleton] at hn₁; subst hn₁; exact (hnew _ n₂ hn₂).symm
    · rcases List.mem_append.1 hn₂ with hn₂ | hn₂
      · exact h.apart _ _ hne n₁ hn₁ n₂ hn₂
      · rw [List.mem_singleton] at hn₂; subst hn₂; exact hnew _ n₁ hn₁
    · exact h.apart _ _ hne n₁ hn₁ n₂ hn₂

/-- Definitions do to catalogues what the catalogues say, whatever else there is. -/
theorem Alike.catalogue {p q : Process} (h : p.Alike q) (rt : RuntimeId) (m : MemberRef) :
    (q.catalogue rt m).1 = (p.catalogue rt m).1 ∧ (p.catalogue rt m).2.Alike (q.catalogue rt m).2 := by
  have hfind : (q.runtime rt).find? m.key = (p.runtime rt).find? m.key := by rw [Runtime.find?, h.members]; rfl
  have hadd : q.added m = p.added m := by rw [added, h.nextOperation]; rfl
  have hone : (q.catalogue rt m).1 = (p.catalogue rt m).1 := by
    rcases catalogue_cases p rt m with ⟨i, hi, e⟩ | ⟨hi, e, -⟩ <;>
      rcases catalogue_cases q rt m with ⟨j, hj, e'⟩ | ⟨hj, e', -⟩ <;> rw [hfind, hi] at hj
    · cases hj; rw [e, e']
    · cases hj
    · cases hj
    · rw [e, e', hadd]
  refine ⟨hone, fun rt' => ?_, ?_⟩
  · rw [runtime_catalogue, runtime_catalogue, hone]
    split
    · show (q.runtime rt').members ++ _ = (p.runtime rt').members ++ _
      rw [h.members, hadd]
    · exact h.members rt'
  · rcases catalogue_cases p rt m with ⟨i, hi, e⟩ | ⟨hi, -, e⟩ <;>
      rcases catalogue_cases q rt m with ⟨j, hj, e'⟩ | ⟨hj, -, e'⟩ <;> rw [hfind, hi] at hj
    · rw [e, e']; exact h.nextOperation
    · cases hj
    · cases hj
    · rw [e, e']; exact congrArg (· + 1) h.nextOperation

/-- The process after these members were defined, in order. -/
def catalogueEach (p : Process) (ds : List (RuntimeId × MemberRef)) : Process :=
  ds.foldl (fun p d => (p.catalogue d.1 d.2).2) p

theorem catalogueEach_append (p : Process) (ds ds' : List (RuntimeId × MemberRef)) :
    p.catalogueEach (ds ++ ds') = (p.catalogueEach ds).catalogueEach ds' := List.foldl_append

theorem Alike.catalogueEach {p q : Process} (h : p.Alike q) (ds : List (RuntimeId × MemberRef)) :
    (p.catalogueEach ds).Alike (q.catalogueEach ds) := by
  induction ds generalizing p q with
  | nil => exact h
  | cons d ds ih => exact ih (h.catalogue d.1 d.2).2

theorem catalogueEach_catalogued {p : Process} (h : p.Catalogued) (ds : List (RuntimeId × MemberRef)) :
    (p.catalogueEach ds).Catalogued := by
  induction ds generalizing p with
  | nil => exact h
  | cons d ds ih => exact ih (catalogue_catalogued h d.1 d.2)

/-- The first of these definitions that was of this member on this runtime. -/
def firstDefinition (ds : List (RuntimeId × MemberRef)) (rt : RuntimeId) (key : MemberKey) : Option MemberRef :=
  ds.findSome? fun d => if d.1 = rt ∧ d.2.key = key then some d.2 else none

/-- What is known of a member is the first thing that was said of it. -/
theorem find?_catalogueEach (p : Process) (ds : List (RuntimeId × MemberRef)) (rt : RuntimeId) (key : MemberKey) :
    (((p.catalogueEach ds).runtime rt).find? key).map Member.ref =
      (((p.runtime rt).find? key).map Member.ref).or (firstDefinition ds rt key) := by
  induction ds generalizing p with
  | nil => exact Option.or_none.symm
  | cons d ds ih =>
    show ((((p.catalogue d.1 d.2).2.catalogueEach ds).runtime rt).find? key).map Member.ref = _
    rw [ih, find?_catalogue, Option.map_or, Option.or_assoc]
    congr 1
    unfold firstDefinition
    by_cases h : d.1 = rt ∧ d.2.key = key
    · rw [if_pos h, List.findSome?_cons, if_pos h]
      rfl
    · rw [if_neg h, List.findSome?_cons, if_neg h]
      rfl

/-- The definitions that were new: the first of each member on each runtime. -/
def introductions (ds : List (RuntimeId × MemberRef)) : List (RuntimeId × MemberRef) :=
  ds.foldl (fun known d => if ∃ k ∈ known, k.1 = d.1 ∧ k.2.key = d.2.key then known else known ++ [d]) []

/-- The catalogues of `p` know exactly these members. -/
def Knows (p : Process) (known : List (RuntimeId × MemberRef)) : Prop :=
  ∀ rt key, (p.runtime rt).find? key = none ↔ ∀ k ∈ known, ¬(k.1 = rt ∧ k.2.key = key)

theorem Knows.catalogue {p : Process} {known : List (RuntimeId × MemberRef)} (h : p.Knows known)
    {d : RuntimeId × MemberRef} (hnew : ∀ k ∈ known, ¬(k.1 = d.1 ∧ k.2.key = d.2.key)) :
    (p.catalogue d.1 d.2).2.Knows (known ++ [d]) := by
  have hnone := (h d.1 d.2.key).2 hnew
  obtain ⟨i, hi, -⟩ | ⟨-, hadd, -⟩ := catalogue_cases p d.1 d.2
  · rw [hnone] at hi; cases hi
  intro rt key
  rw [runtime_catalogue, hadd]
  by_cases e : rt = d.1
  · subst e
    rw [if_pos ⟨rfl, rfl⟩]
    simp only [Runtime.find?_eq_none, List.forall_mem_append, List.forall_mem_singleton, true_and]
    rw [added_key, ← Runtime.find?_eq_none, h]
  · rw [if_neg fun c => e c.2, h]
    simp only [List.forall_mem_append, List.forall_mem_singleton, Ne.symm e, false_and, not_false_eq_true, and_true]

/-- Only definitions that are new do anything. -/
theorem catalogueEach_introductions (ds : List (RuntimeId × MemberRef)) :
    fresh.catalogueEach ds = fresh.catalogueEach (introductions ds) := by
  suffices ∀ (p : Process) (known : List (RuntimeId × MemberRef)), p.Knows known → p = fresh.catalogueEach known →
      p.catalogueEach ds = fresh.catalogueEach (ds.foldl (fun known d =>
        if ∃ k ∈ known, k.1 = d.1 ∧ k.2.key = d.2.key then known else known ++ [d]) known) from
    this fresh [] (fun _ _ => ⟨fun _ _ h => absurd h List.not_mem_nil, fun _ => rfl⟩) rfl
  induction ds with
  | nil => exact fun p known _ hp => hp
  | cons d ds ih =>
    intro p known hk hp
    rw [List.foldl_cons]
    split
    · rename_i hex
      obtain ⟨k, hmem, hkey⟩ := hex
      have hsame : (p.catalogue d.1 d.2).2 = p := by
        rcases catalogue_cases p d.1 d.2 with ⟨i, -, e⟩ | ⟨hnone, -, -⟩
        · rw [e]
        · exact absurd hkey ((hk _ _).1 hnone k hmem)
      show (p.catalogue d.1 d.2).2.catalogueEach ds = _
      rw [hsame]
      exact ih p known hk hp
    · rename_i hno
      have hnew : ∀ k ∈ known, ¬(k.1 = d.1 ∧ k.2.key = d.2.key) := fun k hk h => hno ⟨k, hk, h⟩
      refine ih (p.catalogue d.1 d.2).2 (known ++ [d]) (hk.catalogue hnew) ?_
      rw [catalogueEach_append, ← hp]
      rfl

/-! ## More breakpoints, and nothing else -/

/-- `q` is `p`, perhaps with more breakpoints set. -/
structure MoreBreakpoints (p q : Process) : Prop where
  opened : ∀ rt, p.runtimes.contains rt = true → q.runtimes.contains rt = true
  members : ∀ rt, (q.runtime rt).members = (p.runtime rt).members
  listeners : ∀ rt, (q.runtime rt).listeners = (p.runtime rt).listeners
  breaks : ∀ rt op, (p.runtime rt).breaksAt op = true → (q.runtime rt).breaksAt op = true
  threads : q.threads = p.threads
  nextOperation : q.nextOperation = p.nextOperation
  nextThread : q.nextThread = p.nextThread

theorem MoreBreakpoints.refl (p : Process) : p.MoreBreakpoints p :=
  ⟨fun _ h => h, fun _ => rfl, fun _ => rfl, fun _ _ h => h, rfl, rfl, rfl⟩

theorem MoreBreakpoints.trans {p q r : Process} (h : p.MoreBreakpoints q) (h' : q.MoreBreakpoints r) :
    p.MoreBreakpoints r :=
  ⟨fun rt ho => h'.opened rt (h.opened rt ho), fun rt => (h'.members rt).trans (h.members rt),
    fun rt => (h'.listeners rt).trans (h.listeners rt), fun rt op hb => h'.breaks rt op (h.breaks rt op hb),
    h'.threads.trans h.threads,
    h'.nextOperation.trans h.nextOperation, h'.nextThread.trans h.nextThread⟩

theorem MoreBreakpoints.alike {p q : Process} (h : p.MoreBreakpoints q) : p.Alike q := ⟨h.members, h.nextOperation⟩

theorem changeRuntime_breakpoints (p : Process) (rt : RuntimeId) (op : OperationId) :
    p.MoreBreakpoints (p.changeRuntime rt fun _ => ((p.runtime rt).setBreakpoint op).2) := by
  have hb : ∀ r : Runtime, (r.setBreakpoint op).2.members = r.members ∧
      (r.setBreakpoint op).2.listeners = r.listeners ∧
      ∀ o, r.breaksAt o = true → (r.setBreakpoint op).2.breaksAt o = true := by
    intro r
    unfold Runtime.setBreakpoint
    split
    · exact ⟨rfl, rfl, fun _ h => h⟩
    · refine ⟨?_, ?_, fun o h => ?_⟩ <;> dsimp only <;> split
      · rfl
      · rfl
      · rfl
      · rfl
      · exact h
      · simp only [Runtime.breaksAt, List.contains_iff_mem] at h ⊢
        exact List.mem_append_left _ h
  constructor
  · exact fun rt' h => opened_changeRuntime p rt _ rt' h
  · intro rt'; rw [runtime_changeRuntime]; split
    · rename_i e; rw [e]; exact (hb _).1
    · rfl
  · intro rt'; rw [runtime_changeRuntime]; split
    · rename_i e; rw [e]; exact (hb _).2.1
    · rfl
  · intro rt' o h; rw [runtime_changeRuntime]; split
    · rename_i e; rw [e] at h; exact (hb _).2.2 o h
    · exact h
  · rfl
  · rfl
  · rfl

end Process

/-! ## Hosts that stay within a set of states -/

/-- Requests that only ask lead from states in `I` to states in `I`. -/
structure Host.Reads {σ : Type} (h : Host σ) (I : σ → Prop) : Prop where
  threadInfo : ∀ t, StallGuard.Keeps I (h.threadInfo t)
  stackFrames : ∀ t start count, StallGuard.Keeps I (h.stackFrames t start count)
  typeMembers : ∀ owner, StallGuard.Keeps I (h.typeMembers owner)
  memberInfo : ∀ op, StallGuard.Keeps I (h.memberInfo op)

/-- Every request leads from states in `I` to states in `I`. -/
structure Host.Keeps {σ : Type} (h : Host σ) (I : σ → Prop) : Prop extends h.Reads I where
  setBreakpoint : ∀ op, StallGuard.Keeps I (h.setBreakpoint op)

theorem Host.keeps_true {σ : Type} (h : Host σ) : h.Keeps fun _ => True :=
  ⟨⟨fun _ _ _ => trivial, fun _ _ _ _ _ => trivial, fun _ _ _ => trivial, fun _ _ _ => trivial⟩, fun _ _ _ => trivial⟩

/-- Asking a runtime changes nothing. -/
theorem World.host_reads (rt : RuntimeId) (t : ThreadId) (I : World → Prop) : (World.host (.runtime rt) t).Reads I := by
  constructor
  · exact fun _ _ h => h
  · exact fun _ _ _ _ h => h
  · exact fun _ _ h => h
  · exact fun _ _ h => h

/-- Whichever host is asked, all that can come of it for the process is more breakpoints. -/
theorem World.host_keeps (h : HostId) (t : ThreadId) (w : World) :
    (World.host h t).Keeps fun w' => w.process.MoreBreakpoints w'.process := by
  cases h with
  | stage =>
    refine ⟨?_, fun _ _ h => h⟩
    constructor <;> intros <;> exact fun _ h => h
  | runtime rt =>
    exact ⟨World.host_reads rt t _, fun op w' h => h.trans (Process.changeRuntime_breakpoints w'.process rt op)⟩

end StallGuard
