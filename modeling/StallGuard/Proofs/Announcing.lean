/-
  StallGuard.Proofs.Announcing — what is defined reaches every engine that is alive.

  Between a definition and the end of its announcement an engine on the runtime does not
  know the new members. The round over the listeners mends that, whoever else listens and
  whatever the others do when told; an engine that is no longer alive is past caring.
  - `announceType_attends`: a round adds the members of its type to those told of.
  - `define_attends`, `defineAll_attends` and what is built of them: so an engine stands
    between operations as it stood, with nothing untold.
-/

import StallGuard.Proofs.Standing

namespace StallGuard

open Engine Site

variable {π α : Type} {rt rt' : RuntimeId} {plan : Plan π} {id : EngineId} {past : List Event} {P Q : Member → Prop}
  {s : Site π α}

/-! ## One listener -/

/-- An engine that is not alive need not be told. -/
theorem Attends.dead (hs : Attends rt plan id past P s) (h : s.alive id = false) : Attends rt plan id past Q s := by
  obtain ⟨ho, slot, hs⟩ := hs
  rw [alive_iff hs.found] at h
  exact ⟨ho, slot, hs.found, hs.host, hs.opened, hs.listens, hs.minds.mono fun m _ hm => by rw [h] at hm; cases hm.1⟩

theorem Attends.resolve (hs : Attends rt plan id past P s) (t : ThreadId) (owner : String) :
    Attends rt plan id past (fun m => P m ∨ m.owner = owner)
      (acting t id () (fun h => resolveType h owner) s).2 := by
  obtain ⟨ho, slot, hs⟩ := hs
  refine Attends.self ho hs (resolveType_tame owner) ?_
  have hd := ho.catalogued.distinct rt
  refine (hs.minds.resolve (s := ⟨slot.engine, s.world, []⟩) hd owner).mono ?_
  rintro m - ⟨ha, hP | ho⟩
  · exact Or.inl ⟨ha, hP⟩
  · exact Or.inr ho

theorem tellTypeLoaded_attends (hs : Attends rt plan id past P s) (t : ThreadId) (owner : String) (l : Listener) :
    Attends rt plan id past (fun m => P m ∨ l = .engine id ∧ m.owner = owner) (tellTypeLoaded t owner l s).2 := by
  cases l with
  | recorder j =>
    refine (hs.quiet (hear_quiet j _ s)).mono fun m hm => ?_
    exact hm.resolve_right fun h => nomatch h.1
  | engine j =>
    rw [tellTypeLoaded_engine]
    by_cases hj : j = id
    · subst hj
      split
      · exact (hs.resolve t owner).mono fun m hm => hm.imp (fun h => h) fun h => h.2
      · rename_i ha
        exact hs.dead (by simpa using ha)
    · have hm : ∀ m : Member, (P m ∨ Listener.engine j = .engine id ∧ m.owner = owner) → P m := by
        rintro m (hP | ⟨he, -⟩)
        · exact hP
        · cases he; exact absurd rfl hj
      split
      · exact (hs.other hj (resolveType_tame owner)).mono hm
      · exact hs.mono hm

theorem forM_tell_attends (t : ThreadId) (owner : String) (ls : List Listener) (hs : Attends rt plan id past P s) :
    Attends rt plan id past (fun m => P m ∨ .engine id ∈ ls ∧ m.owner = owner)
      (ls.forM (tellTypeLoaded t owner) s).2 := by
  induction ls generalizing s P with
  | nil => exact hs.mono fun m hm => hm.resolve_right fun h => nomatch h.1
  | cons l ls ih =>
    rw [forM_cons_at]
    refine (ih (tellTypeLoaded_attends hs t owner l)).mono fun m hm => ?_
    rcases hm with hP | ⟨hl, hm⟩
    · exact Or.inl (Or.inl hP)
    · rcases List.mem_cons.1 hl with e | hl
      · exact Or.inl (Or.inr ⟨e.symm, hm⟩)
      · exact Or.inr ⟨hl, hm⟩

theorem tellThreadDeclared_attends (hs : Attends rt plan id past P s) (t thread : ThreadId) (l : Listener) :
    Attends rt plan id past P (tellThreadDeclared t thread l s).2 := by
  cases l with
  | recorder j => exact hs.quiet (hear_quiet j _ s)
  | engine j =>
    rw [tellThreadDeclared_engine]
    split
    · by_cases hj : j = id
      · subst hj
        obtain ⟨ho, slot, hs⟩ := hs
        exact Attends.self ho hs (threadDeclared_tame thread)
          (hs.minds.kept (s := ⟨slot.engine, s.world, []⟩) fun J w hJ => threadDeclared_keeps hJ thread)
      · exact hs.other hj (threadDeclared_tame thread)
    · exact hs

/-! ## A round -/

theorem announceType_attends (hs : Attends rt plan id past P s) (t : ThreadId) (rt' : RuntimeId) (owner : String) :
    Attends rt plan id past (fun m => P m ∨ rt' = rt ∧ m.owner = owner) (announceType t rt' owner s).2 := by
  show Attends rt plan id past _ ((listeners rt' (give t (.typeLoaded owner) s).2).1.forM (tellTypeLoaded t owner)
    (listeners rt' (give t (.typeLoaded owner) s).2).2).2
  have hg := hs.quiet (give_quiet t (.typeLoaded owner) s)
  generalize (give t (.typeLoaded owner) s).2 = s' at hg ⊢
  cases ha : s'.alive id with
  | false =>
    exact (forM_tell_attends t owner _ ((hg.dead (Q := fun _ => True) ha).quiet (listeners_quiet rt' s'))).mono
      fun _ _ => Or.inl trivial
  | true =>
    refine (forM_tell_attends t owner _ (hg.quiet (listeners_quiet rt' s'))).mono fun m hm => ?_
    refine hm.imp (fun h => h) fun ⟨hrt, hm⟩ => ⟨?_, hm⟩
    obtain ⟨-, slot, hs⟩ := hg
    rw [hrt]
    refine mem_listeners.2 ⟨hs.listens (by rw [← alive_iff hs.found]; exact ha), ?_⟩
    show (!s'.alive id) = false
    rw [ha]; rfl

theorem announceThread_attends (hs : Attends rt plan id past P s) (t : ThreadId) (rt' : RuntimeId) :
    Attends rt plan id past P (announceThread t rt' s).2 :=
  Keeps.bind (I := Attends rt plan id past P) (fun s h => h.quiet (listeners_quiet rt' s))
    (fun _ => Keeps.forM fun l _ _ h => tellThreadDeclared_attends h t t l) s hs

/-! ## Definitions -/

/-- A definition tells nobody: of the members it may have added nothing is known yet. -/
theorem catalogue_attends (hs : Attends rt plan id past P s) (rt' : RuntimeId) (m : MemberRef) :
    Attends rt plan id past
      (fun n => P n ∧ ((s.process.catalogue rt' m).1.2 = true → rt' = rt → n.owner ≠ m.owner))
      (inProcess (·.catalogue rt' m) s).2 := by
  obtain ⟨ho, slot, hs⟩ := hs
  have hr : ((inProcess (·.catalogue rt' m) s).2.process.runtime rt) = _ :=
    Process.runtime_catalogue s.process rt' rt m
  refine ⟨⟨Process.catalogue_catalogued ho.catalogued rt' m, ho.numbered⟩, slot, hs.found, hs.host,
    Process.opened_catalogue s.process rt' rt m hs.opened, ?_, ?_⟩ <;> rw [hr] <;> split
  · exact hs.listens
  · exact hs.listens
  · rename_i hadd
    refine hs.minds.gain (fun n hn => List.mem_append_left _ hn) ?_ fun _ h => h
    rintro n hn ⟨ha, hP, hno⟩
    refine ⟨?_, ha, hP⟩
    rcases List.mem_append.1 hn with hn | hn
    · exact hn
    · rw [List.mem_singleton] at hn
      exact absurd (by rw [hn]; rfl) (hno hadd.1 hadd.2.symm)
  · exact hs.minds.mono fun n _ hn => ⟨hn.1, hn.2.1⟩

theorem define_attends (hs : Attends rt plan id past (fun _ => True) s) (t : ThreadId) (rt' : RuntimeId)
    (m : MemberRef) : Attends rt plan id past (fun _ => True) (define t rt' m s).2 := by
  have hc := catalogue_attends hs rt' m
  show Attends rt plan id past _ ((if (s.process.catalogue rt' m).1.2 = true then _ else _ : Play π α OperationId) _).2
  split
  · refine (announceType_attends hc t rt' m.owner).mono fun n _ => ?_
    by_cases h : rt' = rt ∧ n.owner = m.owner
    · exact Or.inr h
    · exact Or.inl ⟨trivial, fun _ hrt ho => h ⟨hrt, ho⟩⟩
  · rename_i hadd
    exact hc.mono fun n _ => ⟨trivial, fun h => absurd h hadd⟩

/-- Defined quietly: nothing is known of the types that gained members. -/
theorem catalogueAll_attends (rt' : RuntimeId) (ms : List MemberRef) (hs : Attends rt plan id past P s) :
    Attends rt plan id past (fun n => P n ∧ (rt' = rt → n.owner ∉ (catalogueAll rt' ms s).1))
        (catalogueAll rt' ms s).2 := by
  induction ms generalizing s P with
  | nil => exact hs.mono fun n hn => hn.1
  | cons m ms ih =>
    refine (ih (catalogue_attends hs rt' m)).mono fun n ⟨hP, hn⟩ => ⟨⟨hP, fun hadd hrt ho => ?_⟩, fun hrt hin => ?_⟩
    · refine hn hrt ?_
      show n.owner ∈ if (s.process.catalogue rt' m).1.2 = true then m.owner :: _ else _
      rw [if_pos hadd, ho]
      exact List.mem_cons_self
    · refine hn hrt ?_
      show n.owner ∈ if (s.process.catalogue rt' m).1.2 = true then m.owner :: _ else _
      split
      · exact List.mem_cons_of_mem _ hin
      · exact hin

theorem forM_announce_attends (t : ThreadId) (rt' : RuntimeId) (owners : List String)
    (hs : Attends rt plan id past P s) :
    Attends rt plan id past (fun n => P n ∨ rt' = rt ∧ n.owner ∈ owners) (owners.forM (announceType t rt') s).2 := by
  induction owners generalizing s P with
  | nil => exact hs.mono fun n hn => hn.resolve_right fun h => nomatch h.2
  | cons owner owners ih =>
    rw [forM_cons_at]
    refine (ih (announceType_attends hs t rt' owner)).mono fun n hn => ?_
    rcases hn with hP | ⟨hrt, hn⟩
    · exact Or.inl (Or.inl hP)
    · rcases List.mem_cons.1 hn with ho | ho
      · exact Or.inl (Or.inr ⟨hrt, ho⟩)
      · exact Or.inr ⟨hrt, ho⟩

theorem defineAll_attends (hs : Attends rt plan id past (fun _ => True) s) (t : ThreadId) (rt' : RuntimeId)
    (ms : List MemberRef) : Attends rt plan id past (fun _ => True) (defineAll t rt' ms s).2 := by
  refine (forM_announce_attends t rt' (Names.ofList (catalogueAll rt' ms s).1) (catalogueAll_attends rt' ms hs)).mono
    fun n _ => ?_
  by_cases h : rt' = rt ∧ n.owner ∈ (catalogueAll rt' ms s).1
  · exact Or.inr ⟨h.1, Names.mem_ofList.2 h.2⟩
  · exact Or.inl ⟨trivial, fun hrt hin => h ⟨hrt, hin⟩⟩

theorem pushFrame_attends (hs : Attends rt plan id past (fun _ => True) s) (t : ThreadId) (rt' : RuntimeId)
    (m : MemberRef) : Attends rt plan id past (fun _ => True) (pushFrame t rt' m s).2 :=
  (define_attends hs t rt' m).quiet (.of_same rfl rfl rfl)

theorem declare_attends (hs : Attends rt plan id past P s) (t : ThreadId) (rt' : RuntimeId)
    (capabilities : List String) :
    Attends rt plan id past P (declare t rt' capabilities s).2 := by
  have hq : s.Quiet (changeProcess (·.changeThread t (·.declare capabilities)) s).2 := .of_same rfl rfl rfl
  exact announceThread_attends (hs.quiet hq) t rt'

/-- A runtime that was not there yet loses nothing by being opened. -/
theorem open_quiet (rt : RuntimeId) (s : Site π α) (h : s.process.runtimes.contains rt = false) :
    s.Quiet (changeProcess (·.changeRuntime rt fun _ => {}) s).2 := by
  have he : s.process.runtime rt = {} := by
    unfold Process.runtime
    rw [Table.contains] at h
    cases hg : s.process.runtimes.get? rt with
    | none => rfl
    | some r => rw [hg] at h; cases h
  refine .of_runtime s rt _ ?_ ?_ ?_ <;> rw [he]
  · exact fun _ h => h
  · exact fun _ _ h => h

theorem openRuntime_attends (hs : Attends rt plan id past (fun _ => True) s) (t : ThreadId) (rt' : RuntimeId)
    (ms : List MemberRef) (h : s.process.runtimes.contains rt' = false) :
    Attends rt plan id past (fun _ => True) (openRuntime t rt' ms s).2 :=
  defineAll_attends (hs.quiet (open_quiet rt' s h)) t rt' ms

end StallGuard
