/-
  StallGuard.Proofs.Binding — what binding a native member can come to.

  A bind is refused and counts a fault (`Refuses`), finds the entry point that was captured
  before, or captures the caller's. Besides the targets an engine remembers by name which
  operations it bound; a name it knows is not looked up on the runtime again, and the two
  ways to a target agree because the names are those of the targets' members.
  - `bindNative_binds`: these are all the cases (`Binds`).
  - `bindNative_targets`: the engine tends its targets as before, with the caller's entry
    point captured where none was.
-/

import StallGuard.Proofs.Tending

namespace StallGuard

namespace Engine

open Act

variable {π : Type} {rt : RuntimeId} {t : ThreadId} {s : Scene (Engine π) World} {r : Runtime} {e : Engine π}
  {captured : OperationId → Option EntryPoint} {told : Member → Prop} {m : MemberRef} {f : EntryPoint} {info : Member}

/-! ## Cases -/

/-- The engine after a fault. -/
def faulted (e : Engine π) (f : Fault) : Engine π :=
  { e with monitor := { e.monitor with counters := e.monitor.counters.mark (.fault f) } }

/-- Why a bind comes to nothing: the type is not loaded, it has no member of that name, or
    the operation has a target that holds no entry point of this signature. -/
def Refuses (r : Runtime) (e : Engine π) (m : MemberRef) (f : EntryPoint) : Prop :=
  r.membersOf m.owner = [] ∨ r.find? m.key = none ∨
    ∃ info tg, r.find? m.key = some info ∧ e.monitor.targets.get? info.id = some tg ∧
      ∀ b, tg.binding info.id f.signature ≠ .ok b

/-- The engine once it knows which operation goes by a name. -/
def named (e : Engine π) (key : MemberKey) (op : OperationId) : Engine π :=
  { e with natives := e.natives.insert key op }

/-- The engine once it has captured an entry point for a member. -/
def capturing (e : Engine π) (key : MemberKey) (m : Member) (f : EntryPoint) : Engine π :=
  { e with
    natives := e.natives.insert key m.id
    monitor := { e.monitor with
      targets := e.monitor.targets.insert m.id (.native m (e.policy.isBlocking key) f)
      counters := e.monitor.counters.mark .nativeBound } }

/-- The outcomes of a bind: it is refused, it finds what was captured, or it captures. -/
inductive Binds (r : Runtime) (m : MemberRef) (f : EntryPoint) (s : Scene (Engine π) World) :
    Option (OperationId × Binding) × Scene (Engine π) World → Prop
  | refused (fault : Fault) : Refuses r s.own m f →
      Binds r m f s (none, { s with own := faulted s.own fault, notices := s.notices ++ [.marked (.fault fault)] })
  | known (info : Member) (g : Bool) (c : EntryPoint) : r.find? m.key = some info →
      s.own.monitor.targets.get? info.id = some (.native info g c) → c.signature = f.signature →
      Binds r m f s (some (info.id, ⟨g, c⟩), { s with own := s.own.named m.key info.id })
  | captures (info : Member) : r.find? m.key = some info → s.own.monitor.targets.get? info.id = none →
      Binds r m f s (some (info.id, ⟨s.own.policy.isBlocking m.key, f⟩), { s with
        own := s.own.capturing m.key info f
        notices := s.notices ++ [.marked .nativeBound, .nativeBound info (s.own.policy.isBlocking m.key)] })

/-- A name that the engine knows leads to the target at once. -/
theorem bindNative_known (hd : (watched rt s).Distinct) (hs : TargetsTended (watched rt s) captured told s.own)
    {op : OperationId} (hnat : s.own.natives.get? m.key = some op) :
    Binds (watched rt s) m f s (bindNative (World.host (.runtime rt) t) m f s) := by
  obtain ⟨info, g, c, hkey, htg⟩ := hs.natives _ _ hnat
  obtain ⟨hmem, hid, -, -⟩ := hs.native _ _ _ _ htg
  subst hid
  have hfind : (watched rt s).find? m.key = some info := (Runtime.find?_eq_some hd).2 ⟨hmem, hkey⟩
  have hbound : s.own.monitor.targets.bound info.id f.signature =
      (Target.native info g c).binding info.id f.signature := by
    rw [Targets.bound, htg]
  unfold bindNative nativeBinding
  rw [bind_at, bind_at, own_at]
  simp only [hnat, pure_at, hbound]
  by_cases hsig : c.signature = f.signature
  · have hsame : s.own.named m.key info.id = s.own := by rw [named, Table.insert_same hnat]
    have hknown := Binds.known info g c hfind htg hsig
    rw [hsame] at hknown
    rw [Target.binding, if_pos hsig]
    exact hknown
  · rw [Target.binding, if_neg hsig]
    refine .refused _ (Or.inr (Or.inr ⟨info, _, hfind, htg, fun b hb => ?_⟩))
    rw [Target.binding, if_neg hsig] at hb
    cases hb

/-- A name that is new to the engine is looked up on the runtime. -/
theorem bindNative_found (hd : (watched rt s).Distinct) (hs : TargetsTended (watched rt s) captured told s.own)
    (hnat : s.own.natives.get? m.key = none) (hfind : (watched rt s).find? m.key = some info) :
    Binds (watched rt s) m f s (bindNative (World.host (.runtime rt) t) m f s) := by
  have hin := ((Runtime.find?_eq_some hd).1 hfind).1
  have hlook : ((watched rt s).membersOf m.owner).find? (fun i => i.name = m.name) = some info := by
    rw [Runtime.find?_membersOf]
    exact hfind
  have htype : (watched rt s).typeMembers m.owner = .ok ((watched rt s).membersOf m.owner) := by
    rcases Runtime.typeMembers_cases (watched rt s) m.owner with ⟨hnil, -⟩ | ⟨-, ht⟩
    · rw [hnil] at hlook
      cases hlook
    · exact ht
  unfold bindNative nativeBinding
  rw [bind_at, bind_at, own_at]
  simp only [hnat]
  rw [bind_at, ask_at, World.host_typeMembers]
  dsimp only
  rw [htype]
  dsimp only
  rw [hlook]
  cases htg : s.own.monitor.targets.get? info.id with
  | none =>
    have hcap := Binds.captures (f := f) info hfind htg
    simp only [bind_at, watch, Monitor.bindNative, own_at, htg, Monitor.addTarget, Monitor.mark, change_at, give_at,
      pure_at, List.append_assoc, List.singleton_append]
    exact hcap
  | some tg =>
    cases hb : tg.binding info.id f.signature with
    | error fault =>
      have hno : Refuses (watched rt s) s.own m f := by
        refine Or.inr (Or.inr ⟨info, tg, hfind, htg, fun b h => ?_⟩)
        rw [hb] at h
        cases h
      have href := Binds.refused fault hno
      simp only [bind_at, watch, Monitor.bindNative, own_at, htg, hb, Monitor.mark, change_at, give_at, pure_at]
      exact href
    | ok b =>
      cases tg with
      | callSite k => cases hb
      | native k g c =>
        obtain ⟨hmem, hid, -⟩ := hs.native _ _ _ _ htg
        obtain rfl := hd.eq_of_id hmem hin hid
        have hsig : c.signature = f.signature := by
          by_contra hne
          rw [Target.binding, if_neg hne] at hb
          cases hb
        have hknown := Binds.known k g c hfind htg hsig
        rw [Target.binding, if_pos hsig] at hb
        cases hb
        simp only [bind_at, watch, Monitor.bindNative, own_at, htg, Target.binding, if_pos hsig, change_at, pure_at]
        exact hknown

theorem bindNative_missing (hnat : s.own.natives.get? m.key = none) (hfind : (watched rt s).find? m.key = none) :
    Binds (watched rt s) m f s (bindNative (World.host (.runtime rt) t) m f s) := by
  unfold bindNative nativeBinding
  rw [bind_at, bind_at, own_at]
  simp only [hnat]
  rw [bind_at, ask_at, World.host_typeMembers]
  dsimp only
  rcases Runtime.typeMembers_cases (watched rt s) m.owner with ⟨hnil, ht⟩ | ⟨-, ht⟩
  · rw [ht]
    exact .refused _ (Or.inl hnil)
  · have hlook : ((watched rt s).membersOf m.owner).find? (fun i => i.name = m.name) = none := by
      rw [Runtime.find?_membersOf]
      exact hfind
    rw [ht]
    dsimp only
    rw [hlook]
    exact .refused _ (Or.inr (Or.inl hfind))

/-- All that a bind does. -/
theorem bindNative_binds (hd : (watched rt s).Distinct) (hs : TargetsTended (watched rt s) captured told s.own)
    (m : MemberRef) (f : EntryPoint) : Binds (watched rt s) m f s (bindNative (World.host (.runtime rt) t) m f s) := by
  cases hnat : s.own.natives.get? m.key with
  | some op => exact bindNative_known hd hs hnat
  | none =>
    cases hfind : (watched rt s).find? m.key with
    | none => exact bindNative_missing hnat hfind
    | some info => exact bindNative_found hd hs hnat hfind

/-! ## Targets -/

/-- Knowing a bound operation by its member's name changes nothing else. -/
theorem TargetsTended.named (h : TargetsTended r captured told e) {g : Bool} {c : EntryPoint}
    (htg : e.monitor.targets.get? info.id = some (.native info g c)) :
    TargetsTended r captured told (e.named info.key info.id) := by
  refine ⟨h.callSite, h.native, h.complete, ?_, h.entries⟩
  intro key op hk
  simp only [Engine.named, Table.get?_insert] at hk
  split at hk
  · rename_i ek
    cases hk
    exact ⟨info, g, c, ek.symm, htg⟩
  · exact h.natives key op hk

/-- Capturing an entry point for a member without a target adds that entry point. -/
theorem TargetsTended.capturing (h : TargetsTended r captured (fun _ => True) e) (hmem : info ∈ r.members)
    (htg : e.monitor.targets.get? info.id = none) (f : EntryPoint) :
    TargetsTended r (fun op => (captured op).or (if op = info.id then some f else none)) (fun _ => True)
      (e.capturing info.key info f) := by
  -- A member without a target is none that a breakpoint belongs to.
  have hno : e.breaksOn info = false := by
    cases hb : e.breaksOn info with
    | false => rfl
    | true =>
      have := h.complete info hmem trivial hb
      rw [htg] at this
      cases this
  have hget : ∀ op, (e.capturing info.key info f).monitor.targets.get? op =
      if op = info.id then some (.native info (e.policy.isBlocking info.key) f) else e.monitor.targets.get? op :=
    fun op => Table.get?_insert _ _ _ _
  refine ⟨?_, ?_, ?_, ?_, ?_⟩
  · intro op n hn
    rw [hget] at hn
    split at hn
    · cases hn
    · exact h.callSite op n hn
  · intro op n g c hn
    rw [hget] at hn
    split at hn
    · rename_i eo
      cases hn
      exact ⟨hmem, eo.symm, hno, rfl⟩
    · exact h.native op n g c hn
  · intro n hn _ hb
    exact Table.get?_insert_of_absent htg (h.complete n hn trivial hb)
  · intro key op hk
    simp only [Engine.capturing, Table.get?_insert] at hk
    split at hk
    · rename_i ek
      cases hk
      exact ⟨info, _, f, ek.symm, (hget _).trans (if_pos rfl)⟩
    · obtain ⟨n, g, c, hkn, hn⟩ := h.natives key op hk
      exact ⟨n, g, c, hkn, Table.get?_insert_of_absent htg hn⟩
  · intro op
    have he := h.entries op
    unfold entryOf at he ⊢
    rw [hget]
    by_cases eo : op = info.id
    · rw [← he, eo, htg, if_pos rfl, if_pos rfl]
      rfl
    · rw [if_neg eo, if_neg eo, Option.or_none]
      exact he

theorem bindNative_targets (hd : (watched rt s).Distinct)
    (hs : TargetsTended (watched rt s) captured (fun _ => True) s.own) (m : MemberRef) (f : EntryPoint) :
    (bindNative (World.host (.runtime rt) t) m f s).2.host = s.host ∧
      TargetsTended (watched rt s)
        (fun op => (captured op).or ((bindNative (World.host (.runtime rt) t) m f s).1.bind
          fun b => if op = b.1 then some f else none))
        (fun _ => True) (bindNative (World.host (.runtime rt) t) m f s).2.own := by
  have hb := bindNative_binds (t := t) hd hs m f
  generalize bindNative (World.host (.runtime rt) t) m f s = x at hb ⊢
  cases hb with
  | refused fault =>
    refine ⟨rfl, ?_⟩
    simp only [Option.bind_none, Option.or_none]
    exact hs.congr rfl (fun _ h => h) rfl rfl rfl
  | known info g c hfind htg =>
    obtain ⟨-, hkey⟩ := (Runtime.find?_eq_some hd).1 hfind
    have hc : captured info.id = some c := by rw [← hs.entries, entryOf, htg]
    -- What was captured before is captured first.
    have hsame : (fun op => (captured op).or (if op = info.id then some f else none)) = captured := by
      funext op
      split
      · rename_i eo
        rw [eo, hc]
        rfl
      · exact Option.or_none
    refine ⟨rfl, ?_⟩
    simp only [Option.bind_some]
    rw [hsame, ← hkey]
    exact hs.named htg
  | captures info hfind htg =>
    obtain ⟨hmem, hkey⟩ := (Runtime.find?_eq_some hd).1 hfind
    refine ⟨rfl, ?_⟩
    simp only [Option.bind_some]
    rw [← hkey]
    exact hs.capturing hmem htg f

end Engine

end StallGuard
