/-
  StallGuard.Proofs.Listing — what a runtime says of its members is what was defined on it.

  Members are looked up by name, by operation and by type, in requests and in answers to
  requests, and engines key what they learn by the operations that they are given. All of
  it is one catalogue. Whatever is done to a process in a run, by whatever threads, the
  record of its definitions says what every runtime answers (`Consults`):
  - `introducedOn`: the definitions that brought a runtime something new, in order.
  - `members_catalogueEach`: they are its members, in that order.
  - `Gathers.consults`: so each request is answered as they say.
  - `Run.gathers`: and so it is in every state that a run reaches.
-/

import StallGuard.Proofs.Learning
import StallGuard.Proofs.Operation

namespace StallGuard

open Site Process

variable {π α : Type} {stage : Stage} {extra : α} {s : Site π α} {past : List Event} {rt : RuntimeId}
  {ds : List (RuntimeId × MemberRef)}

/-! ## Members in the order of their definitions -/

/-- The definitions that were the first of a member of `rt`, in order. -/
def introducedOn (ds : List (RuntimeId × MemberRef)) (rt : RuntimeId) : List MemberRef :=
  ((introductions ds).filter fun d => d.1 = rt).map Prod.snd

/-- The members of all runtimes are these, in this order. -/
def Process.Enlists (p : Process) (known : List (RuntimeId × MemberRef)) : Prop :=
  ∀ rt, (p.runtime rt).members.map Member.ref = (known.filter fun d => d.1 = rt).map Prod.snd

theorem Process.Enlists.catalogue {p : Process} {known : List (RuntimeId × MemberRef)} (h : p.Enlists known)
    {d : RuntimeId × MemberRef} (hnone : (p.runtime d.1).find? d.2.key = none) :
    (p.catalogue d.1 d.2).2.Enlists (known ++ [d]) := by
  obtain ⟨i, hi, -⟩ | ⟨-, hadd, -⟩ := catalogue_cases p d.1 d.2
  · rw [hnone] at hi
    cases hi
  intro rt
  rw [runtime_catalogue, hadd, List.filter_append, List.map_append, ← h rt]
  by_cases e : rt = d.1
  · subst e
    rw [if_pos ⟨rfl, rfl⟩, List.filter_cons_of_pos (by simp)]
    exact List.map_append
  · rw [if_neg fun c => e c.2, List.filter_cons_of_neg (by simpa using Ne.symm e)]
    exact (List.append_nil _).symm

/-- The members of a runtime are those introduced there, in that order. -/
theorem members_catalogueEach (ds : List (RuntimeId × MemberRef)) (rt : RuntimeId) :
    ((fresh.catalogueEach ds).runtime rt).members.map Member.ref = introducedOn ds rt := by
  suffices ∀ (p : Process) (known : List (RuntimeId × MemberRef)), p.Knows known → p.Enlists known →
      (p.catalogueEach ds).Enlists (ds.foldl (fun known d =>
        if ∃ k ∈ known, k.1 = d.1 ∧ k.2.key = d.2.key then known else known ++ [d]) known) from
    this fresh [] (fun _ _ => ⟨fun _ _ h => absurd h List.not_mem_nil, fun _ => rfl⟩) (fun _ => rfl) rt
  induction ds with
  | nil => exact fun p known _ hp => hp
  | cons d ds ih =>
    intro p known hk hp
    rw [List.foldl_cons]
    split
    · rename_i hex
      obtain ⟨k, hmem, hkey⟩ := hex
      have hsame : (p.catalogue d.1 d.2).2 = p := by
        obtain ⟨i, -, e⟩ | ⟨hnone, -⟩ := catalogue_cases p d.1 d.2
        · rw [e]
        · exact absurd hkey ((hk _ _).1 hnone k hmem)
      show ((p.catalogue d.1 d.2).2.catalogueEach ds).Enlists _
      rw [hsame]
      exact ih p known hk hp
    · rename_i hno
      have hnew : ∀ k ∈ known, ¬(k.1 = d.1 ∧ k.2.key = d.2.key) := fun k hk h => hno ⟨k, hk, h⟩
      exact ih (p.catalogue d.1 d.2).2 (known ++ [d]) (hk.catalogue hnew) (hp.catalogue ((hk _ _).2 hnew))

theorem firstDefinition_eq_none {key : MemberKey} :
    firstDefinition ds rt key = none ↔ ∀ m, (rt, m) ∈ ds → m.key ≠ key := by
  simp only [firstDefinition, List.findSome?_eq_none_iff, ite_eq_right_iff, reduceCtorEq, imp_false, not_and]
  exact ⟨fun h m hm => h (rt, m) hm rfl, fun h d hd hrt => h d.2 (hrt ▸ hd)⟩

theorem firstDefinition_key {key : MemberKey} {m : MemberRef} (h : firstDefinition ds rt key = some m) :
    m.key = key := by
  obtain ⟨d, -, hd⟩ := List.exists_of_findSome?_eq_some h
  split at hd
  · rename_i hkey
    cases hd
    exact hkey.2
  · cases hd

/-! ## A catalogue and its record -/

/-- The runtime's catalogue is what these definitions make of an empty one. -/
structure Runtime.Gathers (ds : List (RuntimeId × MemberRef)) (rt : RuntimeId) (r : Runtime) : Prop where
  distinct : r.Distinct
  first : ∀ key, (r.find? key).map Member.ref = firstDefinition ds rt key
  order : r.members.map Member.ref = introducedOn ds rt

/-- What a thread learns about the members of `rt` is what these definitions say. -/
structure Consults (ds : List (RuntimeId × MemberRef)) (rt : RuntimeId) (t : ThreadId) (w : World) : Prop where
  /-- A member has an operation from its first definition on, and that is what the info of
      the operation goes by. -/
  info : ∀ key op, (w.process.runtime rt).operation? key = some op ↔
    ∃ m, firstDefinition ds rt key = some m ∧ ((World.host (.runtime rt) t).memberInfo op w).1 = .ok (m.withId op)
  defined : ∀ m, (rt, m) ∈ ds → ((w.process.runtime rt).operation? m.key).isSome
  /-- An operation belongs to one member. -/
  key_eq : ∀ key key' op, (w.process.runtime rt).operation? key = some op →
    (w.process.runtime rt).operation? key' = some op → key = key'
  unknown : ∀ op, (∀ key, (w.process.runtime rt).operation? key ≠ some op) →
    ((World.host (.runtime rt) t).memberInfo op w).1 = .error (.unknownOperation op) ∧
      ((World.host (.runtime rt) t).setBreakpoint op w).1 = .error (.breakpointRejected op)
  breakpoint : ∀ key op, (w.process.runtime rt).operation? key = some op →
    ((World.host (.runtime rt) t).setBreakpoint op w).1 = .ok () ∧
      (((World.host (.runtime rt) t).setBreakpoint op w).2.process.runtime rt).breaksAt op = true
  /-- A type lists the members defined under it, each once, in the order in which they came. -/
  listed : ∀ owner ms, ((World.host (.runtime rt) t).typeMembers owner w).1 = .ok ms →
    ms.map Member.ref = (introducedOn ds rt).filter (fun m => m.owner = owner) ∧ (ms.map Member.key).Nodup ∧
      ∀ i ∈ ms, (w.process.runtime rt).operation? i.key = some i.id
  /-- It is not loaded as long as nothing was defined under it, and that is all that a
      runtime can answer instead. -/
  unloaded : ∀ owner,
    (((World.host (.runtime rt) t).typeMembers owner w).1 = .error (.typeNotLoaded owner) ↔
      ∀ m, (rt, m) ∈ ds → m.owner ≠ owner) ∧
    ∀ f, ((World.host (.runtime rt) t).typeMembers owner w).1 = .error f → f = .typeNotLoaded owner
  resolved : ∀ owner name, ((World.host (.runtime rt) t).resolve owner name w).1 =
    ((World.host (.runtime rt) t).typeMembers owner w).1.map fun _ =>
      ((w.process.runtime rt).operation? (owner, name)).toList

namespace Runtime

variable {r : Runtime} {i : Member} {op : OperationId}

theorem operation?_eq_some (h : r.Distinct) {key : MemberKey} :
    r.operation? key = some op ↔ ∃ i, r.byId? op = some i ∧ i.key = key := by
  simp only [operation?, Option.map_eq_some_iff, find?_eq_some h, byId?_eq_some h]
  exact ⟨fun ⟨i, ⟨hi, hkey⟩, hid⟩ => ⟨i, ⟨hi, hid⟩, hkey⟩, fun ⟨i, ⟨hi, hid⟩, hkey⟩ => ⟨i, ⟨hi, hkey⟩, hid⟩⟩

theorem memberInfo_eq_ok : r.memberInfo op = .ok i ↔ r.byId? op = some i := by
  unfold memberInfo
  cases r.byId? op with
  | none => simp
  | some j => simp

theorem byId?_eq_none (h : r.Distinct) (hno : ∀ key, r.operation? key ≠ some op) : r.byId? op = none := by
  cases hi : r.byId? op with
  | none => rfl
  | some i => exact absurd ((operation?_eq_some h).2 ⟨i, hi, rfl⟩) (hno i.key)

/-- The members of a type that bear a name are the one member of that key. -/
theorem filter_membersOf (h : r.Distinct) (owner name : String) :
    ((r.membersOf owner).filter fun m => m.name = name) = (r.find? (owner, name)).toList := by
  have hkey : ∀ m : Member, (decide (m.name = name) && decide (m.owner = owner)) = decide (m.key = (owner, name)) := by
    intro m
    rw [Bool.and_comm]
    simp [Member.key]
  have hnodup : (r.members.filter fun m => m.key = (owner, name)).Nodup := h.keys.of_map.filter _
  rw [membersOf, List.filter_filter]
  simp only [hkey]
  cases hf : r.find? (owner, name) with
  | none =>
    refine List.filter_eq_nil_iff.2 fun m hm => ?_
    simpa using find?_eq_none.1 hf m hm
  | some i =>
    obtain ⟨hi, hik⟩ := (find?_eq_some h).1 hf
    refine List.perm_singleton.1 ((List.perm_ext_iff_of_nodup hnodup (List.nodup_singleton i)).2 fun m => ?_)
    rw [List.mem_filter, decide_eq_true_eq, List.mem_singleton, ← find?_eq_some h, hf, Option.some.injEq, eq_comm]

namespace Gathers

variable {t : ThreadId} {w : World}

theorem operation?_isSome (h : r.Gathers ds rt) {m : MemberRef} (hm : (rt, m) ∈ ds) :
    (r.operation? m.key).isSome := by
  have hfirst := h.first m.key
  rw [operation?, Option.isSome_map]
  cases hf : r.find? m.key with
  | some i => rfl
  | none =>
    rw [hf] at hfirst
    exact absurd rfl (firstDefinition_eq_none.1 hfirst.symm m hm)

theorem membersOf_eq_nil (h : r.Gathers ds rt) {owner : String} :
    r.membersOf owner = [] ↔ ∀ m, (rt, m) ∈ ds → m.owner ≠ owner := by
  constructor
  · rintro hnil m hm rfl
    obtain ⟨op, hop⟩ := Option.isSome_iff_exists.1 (h.operation?_isSome hm)
    obtain ⟨i, hi, -⟩ := Option.map_eq_some_iff.1 hop
    obtain ⟨hin, hkey⟩ := (find?_eq_some h.distinct).1 hi
    exact List.not_mem_nil (hnil ▸ mem_membersOf.2 ⟨hin, congrArg Prod.fst hkey⟩)
  · refine fun hno => List.eq_nil_iff_forall_not_mem.2 fun i hi => ?_
    obtain ⟨hin, rfl⟩ := mem_membersOf.1 hi
    have hfirst := h.first i.key
    rw [(find?_eq_some h.distinct).2 ⟨hin, rfl⟩] at hfirst
    obtain ⟨d, hd, hsome⟩ := List.exists_of_findSome?_eq_some hfirst.symm
    split at hsome
    · rename_i hkey
      obtain ⟨rfl, hkey⟩ := hkey
      exact hno d.2 hd (congrArg Prod.fst hkey)
    · cases hsome

theorem info (h : r.Gathers ds rt) (key : MemberKey) (op : OperationId) :
    r.operation? key = some op ↔
      ∃ m, firstDefinition ds rt key = some m ∧ r.memberInfo op = .ok (m.withId op) := by
  simp only [operation?_eq_some h.distinct, memberInfo_eq_ok]
  constructor
  · rintro ⟨i, hi, rfl⟩
    obtain ⟨hin, rfl⟩ := (byId?_eq_some h.distinct).1 hi
    refine ⟨i.ref, ?_, hi⟩
    rw [← h.first, (find?_eq_some h.distinct).2 ⟨hin, rfl⟩]
    rfl
  · rintro ⟨m, hm, hi⟩
    exact ⟨m.withId op, hi, firstDefinition_key hm⟩

theorem listed (h : r.Gathers ds rt) (owner : String) :
    (r.membersOf owner).map Member.ref = (introducedOn ds rt).filter fun m => m.owner = owner := by
  rw [← h.order, List.filter_map]
  rfl

/-- What is said of the catalogue holds of every way to look something up in it. -/
theorem consults (h : (w.process.runtime rt).Gathers ds rt) (t : ThreadId) : Consults ds rt t w where
  info := h.info
  defined _ := h.operation?_isSome
  key_eq key key' op hop hop' := by
    obtain ⟨i, hi, rfl⟩ := (operation?_eq_some h.distinct).1 hop
    obtain ⟨j, hj, rfl⟩ := (operation?_eq_some h.distinct).1 hop'
    rw [Option.some.inj (hi.symm.trans hj)]
  unknown op hno := by
    have hnone := byId?_eq_none h.distinct hno
    rw [World.host_memberInfo, World.host_setBreakpoint, memberInfo, setBreakpoint, hnone]
    exact ⟨rfl, rfl⟩
  breakpoint key op hop := by
    obtain ⟨i, hi, -⟩ := (operation?_eq_some h.distinct).1 hop
    rw [World.host_setBreakpoint]
    dsimp only
    rw [Process.runtime_changeRuntime_self]
    exact setBreakpoint_known hi
  listed owner ms hms := by
    rw [World.host_typeMembers] at hms
    obtain ⟨-, he⟩ | ⟨-, he⟩ := typeMembers_cases (w.process.runtime rt) owner <;> rw [he] at hms <;> cases hms
    refine ⟨h.listed owner, h.distinct.keys.sublist (List.filter_sublist.map Member.key), fun i hi => ?_⟩
    obtain ⟨hin, -⟩ := mem_membersOf.1 hi
    exact (operation?_eq_some h.distinct).2 ⟨i, (byId?_eq_some h.distinct).2 ⟨hin, rfl⟩, rfl⟩
  unloaded owner := by
    rw [World.host_typeMembers, ← h.membersOf_eq_nil]
    obtain ⟨hnil, he⟩ | ⟨hsome, he⟩ := typeMembers_cases (w.process.runtime rt) owner
    · exact ⟨iff_of_true he hnil, fun f hf => by rw [he] at hf; cases hf; rfl⟩
    · exact ⟨iff_of_false (by rw [he]; nofun) hsome, fun f hf => by rw [he] at hf; cases hf⟩
  resolved owner name := by
    unfold Host.resolve
    rw [bind_at, World.host_typeMembers]
    obtain ⟨hnil, he⟩ | ⟨-, he⟩ := typeMembers_cases (w.process.runtime rt) owner <;> dsimp only <;> rw [he]
    · rfl
    · show Except.ok (((membersOf _ owner).filter fun m => m.name = name).map Member.id) = Except.ok _
      rw [filter_membersOf h.distinct, operation?]
      cases find? (w.process.runtime rt) (owner, name) <;> rfl

end Gathers

end Runtime

/-! ## Along a run -/

theorem Process.Alike.gathers {p : Process} (h : (fresh.catalogueEach ds).Alike p) (hp : p.Catalogued)
    (rt : RuntimeId) : (p.runtime rt).Gathers ds rt where
  distinct := hp.distinct rt
  first key := by
    have hfind : (p.runtime rt).find? key = ((fresh.catalogueEach ds).runtime rt).find? key := by
      rw [Runtime.find?, h.members]
      rfl
    rw [hfind, find?_catalogueEach]
    exact Option.none_or
  order := by rw [h.members, members_catalogueEach]

theorem Run.gathers (h : Run (bare stage extra) past s) (rt : RuntimeId) :
    (s.process.runtime rt).Gathers (definitions past) rt := by
  obtain ⟨ho, halike⟩ := h.catalogues (bare_orderly stage extra)
  exact halike.gathers ho.catalogued rt

theorem members_le_catalogue (p : Process) (rt rt' : RuntimeId) (m : MemberRef) :
    (p.runtime rt').members <+: ((p.catalogue rt m).2.runtime rt').members := by
  rw [runtime_catalogue]
  split
  · exact List.prefix_append _ _
  · exact List.prefix_refl _

/-- Definitions add members behind those that are there. -/
theorem members_le (p : Process) (ds : List (RuntimeId × MemberRef)) (rt : RuntimeId) :
    (p.runtime rt).members <+: ((p.catalogueEach ds).runtime rt).members := by
  induction ds generalizing p with
  | nil => exact List.prefix_refl _
  | cons d ds ih => exact (members_le_catalogue p d.1 rt d.2).trans (ih _)

/-- A member keeps its operation, and the operation its info, whatever comes later. -/
theorem Run.byId?_lasts {since : List Event} {s' : Site π α} (h : Run s since s') (ho : s.Orderly) {op : OperationId}
    {i : Member} (hi : (s.process.runtime rt).byId? op = some i) : (s'.process.runtime rt).byId? op = some i := by
  obtain ⟨ho', halike⟩ := h.catalogues ho
  obtain ⟨hin, hid⟩ := (Runtime.byId?_eq_some (ho.catalogued.distinct rt)).1 hi
  refine (Runtime.byId?_eq_some (ho'.catalogued.distinct rt)).2 ⟨?_, hid⟩
  rw [halike.members]
  exact (members_le s.process _ rt).subset hin

/-! ## Calls that define -/

/-- The operation that a definition gives is the one that the member has from then on. -/
theorem define_operation (t : ThreadId) (rt : RuntimeId) (m : MemberRef) (s : Site π α) :
    ((define t rt m s).2.process.runtime rt).operation? m.key = some (define t rt m s).1 := by
  have hmembers := (define_defines t rt m s).alike.members rt
  have hfind : ((define t rt m s).2.process.runtime rt).find? m.key =
      ((s.process.catalogue rt m).2.runtime rt).find? m.key := by
    rw [Runtime.find?, hmembers]
    rfl
  rw [Runtime.operation?, hfind, find?_catalogue, if_pos ⟨rfl, rfl⟩, define_at]
  obtain ⟨i, hi, he⟩ | ⟨hnone, he, -⟩ := catalogue_cases s.process rt m
  · rw [hi, he]
    rfl
  · rw [hnone, he]
    rfl

/-- A call that defines members of a runtime which does not know them. -/
inductive DefiningCall
  | define (m : MemberRef)
  | defineAll (ms : List MemberRef)
  | push (m : MemberRef)
  | enter (m : MemberRef)
deriving DecidableEq

namespace DefiningCall

def members : DefiningCall → List MemberRef
  | define m => [m]
  | defineAll ms => ms
  | push m => [m]
  | enter m => [m]

/-- The call, made by thread `t` on the runtime `rt`. -/
def play (invoke : Invoke π α) (t : ThreadId) (rt : RuntimeId) : DefiningCall → Play π α Unit
  | define m => do
    let _ ← Site.define t rt m
  | defineAll ms => Site.defineAll t rt ms
  | push m => do
    let _ ← pushFrame t rt m
  | enter m => do
    let _ ← Site.enter invoke t rt m

/-- A call is a run that begins with the definition of its members; what handlers define
    on entry comes after that. -/
theorem play_run {invoke : Invoke π α} (hi : invoke.Honest) (t : ThreadId) (rt : RuntimeId) (c : DefiningCall) :
    ∃ evs, Run s (c.members.map (.defined rt) ++ evs) (c.play invoke t rt s).2 := by
  cases c with
  | define m => exact ⟨[], .move (.define t rt m) trivial⟩
  | defineAll ms =>
    refine ⟨[], ?_⟩
    rw [List.append_nil]
    exact .move (.defineAll t rt ms) trivial
  | push m => exact ⟨[], .move (.push t rt m) trivial⟩
  | enter m => exact enter_run hi m s

end DefiningCall

/-- However members come to be defined, by any calls of any threads on any runtimes and with
    any references to them, every runtime answers as the record of the definitions says; an
    operation belongs to one runtime; and whatever happens afterwards, a member keeps its
    operation and the operation its info. What a definition gives is the member's operation,
    and every call that defines adds its own members to the record. -/
theorem catalogue_consistent (h : Run (bare stage extra) past s) :
    (∀ rt t, Consults (definitions past) rt t s.world) ∧
      (∀ rt rt' key key' op, (s.process.runtime rt).operation? key = some op →
        (s.process.runtime rt').operation? key' = some op → rt = rt') ∧
      (∀ since s', Run s since s' → ∀ rt key op, (s.process.runtime rt).operation? key = some op →
        (s'.process.runtime rt).operation? key = some op ∧
          (s'.process.runtime rt).memberInfo op = (s.process.runtime rt).memberInfo op) ∧
      (∀ t rt m, ((define t rt m s).2.process.runtime rt).operation? m.key = some (define t rt m s).1) ∧
      ∀ invoke : Invoke π α, invoke.Honest → ∀ t rt (c : DefiningCall),
        ∃ evs, Run s (c.members.map (.defined rt) ++ evs) (c.play invoke t rt s).2 := by
  obtain ⟨ho, -⟩ := h.catalogues (bare_orderly stage extra)
  refine ⟨fun rt t => (h.gathers rt).consults t, fun rt rt' key key' op hop hop' => ?_,
    fun since s' h' rt key op hop => ?_, fun t rt m => define_operation t rt m s,
    fun invoke hi t rt c => c.play_run hi t rt⟩
  · obtain ⟨i, hi, -⟩ := (Runtime.operation?_eq_some (ho.catalogued.distinct rt)).1 hop
    obtain ⟨j, hj, -⟩ := (Runtime.operation?_eq_some (ho.catalogued.distinct rt')).1 hop'
    obtain ⟨hin, hid⟩ := (Runtime.byId?_eq_some (ho.catalogued.distinct rt)).1 hi
    obtain ⟨hjn, hjd⟩ := (Runtime.byId?_eq_some (ho.catalogued.distinct rt')).1 hj
    by_contra hne
    exact ho.catalogued.apart rt rt' hne i hin j hjn (hid.trans hjd.symm)
  · obtain ⟨ho', -⟩ := h'.catalogues ho
    obtain ⟨i, hi, hkey⟩ := (Runtime.operation?_eq_some (ho.catalogued.distinct rt)).1 hop
    have hi' := h'.byId?_lasts ho hi
    refine ⟨(Runtime.operation?_eq_some (ho'.catalogued.distinct rt)).2 ⟨i, hi', hkey⟩, ?_⟩
    rw [Runtime.memberInfo_eq_ok.2 hi', Runtime.memberInfo_eq_ok.2 hi]

/-- A member is entered as a native one after it was defined as one that is not, on one of
    two runtimes that both define it. -/
theorem catalogue_consistent_on_two_runtimes :
    let r : RuntimeId := ⟨"r"⟩
    let q : RuntimeId := ⟨"q"⟩
    let f : MemberRef := ⟨"a::B", "f", false, false⟩
    let g : MemberRef := ⟨"a::B", "g", true, false⟩
    let s : Site Unit Unit := (Move.playAll (bare {} ()) [.openRuntime ⟨1⟩ r [f], .openRuntime ⟨1⟩ q [g, f],
      .push ⟨1⟩ r { f with native := true }, .defineAll ⟨1⟩ r [g, f]]).2
    (∃ op, (s.process.runtime r).operation? f.key = some op ∧
        ((World.host (.runtime r) ⟨1⟩).memberInfo op s.world).1 = .ok (f.withId op) ∧
        (s.process.runtime q).operation? f.key ≠ some op) ∧
      ∃ ms, ((World.host (.runtime r) ⟨1⟩).typeMembers "a::B" s.world).1 = .ok ms ∧ ms.map Member.ref = [f, g] := by
  intro r q f g s
  have h : Run (bare {} ()) _ s := Run.of_moves (by decide +kernel)
  obtain ⟨hconsults, hapart, -⟩ := catalogue_consistent h
  have hr := hconsults r ⟨1⟩
  constructor
  · obtain ⟨op, hop⟩ := Option.isSome_iff_exists.1 (hr.defined f (by decide +kernel))
    obtain ⟨m, hm, hinfo⟩ := (hr.info f.key op).1 hop
    obtain rfl : m = f := Option.some.inj (hm.symm.trans (by decide +kernel))
    exact ⟨op, hop, hinfo, fun hq => absurd (hapart r q f.key f.key op hop hq) (by decide)⟩
  · cases hms : ((World.host (.runtime r) ⟨1⟩).typeMembers "a::B" s.world).1 with
    | error e =>
      obtain ⟨hnone, honly⟩ := hr.unloaded "a::B"
      rw [honly e hms] at hms
      exact absurd rfl (hnone.1 hms f (by decide +kernel))
    | ok ms => exact ⟨ms, rfl, (hr.listed "a::B" ms hms).1.trans (by decide +kernel)⟩

end StallGuard
