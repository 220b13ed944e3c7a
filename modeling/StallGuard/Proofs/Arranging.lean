/-
  StallGuard.Proofs.Arranging — in which order presets are applied, and what comes of it.

  Of several presets those of lower priority come first, and those of one priority come as
  they were given. So a list in this order is settled by what it holds at each priority
  (`eq_of_ranks`), and any sort that keeps the order of equals must come to it; the
  library's merge sort is one (`ranked`).

  A `Bundle` is a preset written down as the changes it makes. A change is a call about the
  plan (`PlanCall`), or applies another bundle or several by their priorities; in the end a
  bundle makes a row of calls (`Bundle.calls`), and applying bundles makes these rows in
  the order of their priorities (`adoptAll_calls`).

  Proved:
  - `inOrder_eq_ranked`: presets are put in the order of their priorities.
  - `allowances_adoptAll`, `composers_adoptAll`: what a member's allowance comes to, and
    which composers are pending, after bundles were applied.
  - `presets_ranked`: lists that hold the same at each priority come to the same plan; an
    allowance is the last one set in that order, and the next engine's predicate is
    composed in that order.
-/

import StallGuard.Proofs.Overriding
import StallGuard.Proofs.Rebuilding

namespace StallGuard

variable {π : Type}

/-! ## Lists in the order of a rank -/

section

variable {ι κ : Type} (rank : ι → Int)

/-- By rank, those of one rank as they were given. -/
def ranked (l : List ι) : List ι := l.mergeSort fun x y => rank x ≤ rank y

/-- No element stands before one of a lower rank. -/
def Ascends (l : List ι) : Prop := l.Pairwise fun x y => rank x ≤ rank y

/-- The elements of one rank, in their order. -/
def ofRank (k : Int) (l : List ι) : List ι := l.filter fun x => rank x = k

/-- The elements of `l` in the order of their ranks, those of one rank as they stand in `l`. -/
structure Arranges (order l : List ι) : Prop where
  ascends : Ascends rank order
  ranks : ∀ k, ofRank rank k order = ofRank rank k l

variable {rank}

theorem ofRank_cons_self (x : ι) (l : List ι) : ofRank rank (rank x) (x :: l) = x :: ofRank rank (rank x) l :=
  List.filter_cons_of_pos (by simp)

theorem mem_ofRank {k : Int} {x : ι} {l : List ι} : x ∈ ofRank rank k l ↔ x ∈ l ∧ rank x = k := by
  simp [ofRank]

theorem ofRank_append (k : Int) (l r : List ι) : ofRank rank k (l ++ r) = ofRank rank k l ++ ofRank rank k r :=
  List.filter_append ..

theorem ofRank_ofRank (k : Int) (l : List ι) : ofRank rank k (ofRank rank k l) = ofRank rank k l := by
  simp [ofRank]

theorem ofRank_above {k : Int} {l : List ι} (h : ∀ x ∈ l, k < rank x) : ofRank rank k l = [] := by
  refine List.filter_eq_nil_iff.2 fun x hx => ?_
  have := h x hx
  simp
  omega

theorem ofRank_tail {k : Int} {x : ι} {l r : List ι} (h : ofRank rank k (x :: l) = ofRank rank k (x :: r)) :
    ofRank rank k l = ofRank rank k r := by
  unfold ofRank at h ⊢
  rw [List.filter_cons, List.filter_cons] at h
  split at h
  · exact (List.cons.inj h).2
  · exact h

theorem eq_nil_of_ranks {l : List ι} (h : ∀ k, ofRank rank k l = []) : l = [] :=
  List.eq_nil_iff_forall_not_mem.2 fun x hx => List.ne_nil_of_mem (mem_ofRank.2 ⟨hx, rfl⟩) (h (rank x))

/-- What a list holds at the rank of another's head cannot come before its own head. -/
theorem head_le {x y : ι} {l r : List ι} (hl : Ascends rank (x :: l))
    (h : ofRank rank (rank y) (x :: l) = ofRank rank (rank y) (y :: r)) : rank x ≤ rank y := by
  have hy : y ∈ ofRank rank (rank y) (x :: l) := by
    rw [h, ofRank_cons_self]
    exact List.mem_cons_self
  obtain rfl | hin := List.mem_cons.1 (mem_ofRank.1 hy).1
  · exact Int.le_refl _
  · exact (List.pairwise_cons.1 hl).1 y hin

/-- Nothing is left open by what a list in order holds at each rank. -/
theorem eq_of_ranks {l r : List ι} (hl : Ascends rank l) (hr : Ascends rank r)
    (h : ∀ k, ofRank rank k l = ofRank rank k r) : l = r := by
  induction l generalizing r with
  | nil => exact (eq_nil_of_ranks fun k => (h k).symm).symm
  | cons x l ih =>
    cases r with
    | nil => exact eq_nil_of_ranks h
    | cons y r =>
      -- Neither head is ranked above the other, so at their rank both are first.
      have hrank : rank x = rank y := Int.le_antisymm (head_le hl (h (rank y))) (head_le hr (h (rank x)).symm)
      have hheads := h (rank x)
      rw [ofRank_cons_self, hrank, ofRank_cons_self] at hheads
      obtain ⟨rfl, -⟩ := List.cons.inj hheads
      have htails : l = r :=
        ih (List.pairwise_cons.1 hl).2 (List.pairwise_cons.1 hr).2 fun k => ofRank_tail (h k)
      rw [htails]

theorem Arranges.unique {order order' l r : List ι} (h : Arranges rank order l) (h' : Arranges rank order' r)
    (hlr : ∀ k, ofRank rank k l = ofRank rank k r) : order = order' :=
  eq_of_ranks h.ascends h'.ascends fun k => (h.ranks k).trans ((hlr k).trans (h'.ranks k).symm)

/-- The merge sort keeps the order of equals. -/
theorem ranked_arranges (l : List ι) : Arranges rank (ranked rank l) l := by
  have htrans : ∀ a b c : ι, decide (rank a ≤ rank b) = true → decide (rank b ≤ rank c) = true →
      decide (rank a ≤ rank c) = true :=
    fun a b c hab hbc => decide_eq_true (Int.le_trans (of_decide_eq_true hab) (of_decide_eq_true hbc))
  have htotal : ∀ a b : ι, (decide (rank a ≤ rank b) || decide (rank b ≤ rank a)) = true := by
    intro a b
    simp
    omega
  refine ⟨(List.pairwise_mergeSort htrans htotal l).imp of_decide_eq_true, fun k => ?_⟩
  have hequal : (ofRank rank k l).Pairwise fun x y => decide (rank x ≤ rank y) = true := by
    refine List.pairwise_of_forall_mem_list fun x hx y hy => ?_
    rw [(mem_ofRank.1 hx).2, (mem_ofRank.1 hy).2]
    exact decide_eq_true (Int.le_refl k)
  -- Those of one rank are in order already, so the sort keeps them as they are; and it adds none.
  have hsub : (ofRank rank k (ofRank rank k l)).Sublist (ofRank rank k (ranked rank l)) :=
    (List.sublist_mergeSort htrans htotal hequal List.filter_sublist).filter _
  have hperm : (ofRank rank k (ranked rank l)).Perm (ofRank rank k l) := (List.mergeSort_perm l _).filter _
  rw [ofRank_ofRank] at hsub
  exact (hsub.eq_of_length hperm.length_eq.symm).symm

theorem mem_ranked {x : ι} {l : List ι} : x ∈ ranked rank l ↔ x ∈ l := (List.mergeSort_perm l _).mem_iff

theorem ranked_map (f : κ → ι) (l : List κ) : ranked rank (l.map f) = (ranked (fun x => rank (f x)) l).map f :=
  (List.map_mergeSort (f := f) fun _ _ _ _ => rfl).symm

end

/-! ## Presets in order -/

namespace Preset

theorem mem_place {x z : Preset π} {l : List (Preset π)} : z ∈ place x l ↔ z = x ∨ z ∈ l := by
  induction l with
  | nil => rw [place, List.mem_singleton, or_iff_left List.not_mem_nil]
  | cons y l ih =>
    rw [place]
    split
    · exact List.mem_cons
    · rw [List.mem_cons, ih, List.mem_cons]
      exact or_left_comm

theorem ascends_place (x : Preset π) {l : List (Preset π)} (h : Ascends priority l) : Ascends priority (place x l) := by
  induction l with
  | nil => exact List.pairwise_singleton _ _
  | cons y l ih =>
    obtain ⟨hy, hl⟩ := List.pairwise_cons.1 h
    rw [place]
    split
    · rename_i hlt
      refine List.pairwise_cons.2 ⟨List.forall_mem_cons.2 ⟨Int.le_of_lt hlt, fun z hz => ?_⟩, h⟩
      exact Int.le_trans (Int.le_of_lt hlt) (hy z hz)
    · rename_i hge
      refine List.pairwise_cons.2 ⟨fun z hz => ?_, ih hl⟩
      obtain rfl | hz := mem_place.1 hz
      · exact Int.not_lt.1 hge
      · exact hy z hz

/-- A preset is put behind all of its own priority. -/
theorem ofRank_place (x : Preset π) {l : List (Preset π)} (h : Ascends priority l) (k : Int) :
    ofRank priority k (place x l) = ofRank priority k l ++ ofRank priority k [x] := by
  induction l with
  | nil => rfl
  | cons y l ih =>
    obtain ⟨hy, hl⟩ := List.pairwise_cons.1 h
    rw [place]
    split
    · rename_i hlt
      rw [← List.singleton_append, ofRank_append]
      by_cases hk : x.priority = k
      · have habove : ∀ z ∈ y :: l, k < z.priority :=
          List.forall_mem_cons.2 ⟨hk ▸ hlt, fun z hz => Int.lt_of_lt_of_le (hk ▸ hlt) (hy z hz)⟩
        rw [ofRank_above habove, List.append_nil, List.nil_append]
      · have hnone : ofRank priority k [x] = [] := by simp [ofRank, hk]
        rw [hnone, List.append_nil, List.nil_append]
    · rw [← List.singleton_append, ofRank_append, ih hl, ← List.append_assoc, ← ofRank_append, List.singleton_append]

theorem foldl_place {acc : List (Preset π)} (h : Ascends priority acc) (l : List (Preset π)) :
    Ascends priority (l.foldl (fun acc x => place x acc) acc) ∧
      ∀ k, ofRank priority k (l.foldl (fun acc x => place x acc) acc) = ofRank priority k (acc ++ l) := by
  induction l generalizing acc with
  | nil => exact ⟨h, fun k => by rw [List.append_nil, List.foldl_nil]⟩
  | cons x l ih =>
    obtain ⟨hasc, hranks⟩ := ih (ascends_place x h)
    refine ⟨hasc, fun k => (hranks k).trans ?_⟩
    rw [ofRank_append, ofRank_place x h, ← ofRank_append, ← ofRank_append, List.append_assoc, List.singleton_append]

theorem inOrder_arranges (l : List (Preset π)) : Arranges priority (inOrder l) l :=
  ⟨(foldl_place .nil l).1, (foldl_place .nil l).2⟩

theorem inOrder_eq_ranked (l : List (Preset π)) : inOrder l = ranked priority l :=
  (inOrder_arranges l).unique (ranked_arranges l) fun _ => rfl

end Preset

/-! ## Calls -/

/-- A call that a preset makes about a plan. To build an engine is none: presets change the
    plan of an engine that is built later. -/
inductive PlanCall (π : Type)
  | settings (s : Settings)
  | policy (call : PolicyCall)
  | handler (h : Handler π)
  | compose (f : ThreadPredicate → ThreadPredicate)
  | volatile (test : ThreadPredicate)

namespace PlanCall

def play (p : Plan π) : PlanCall π → Plan π
  | settings s => { p with settings := s }
  | policy call => call.play p
  | handler h => { p with handler := h }
  | compose f => p.compose f
  | volatile test => p.addVolatile test

def policy? : PlanCall π → Option PolicyCall
  | policy call => some call
  | _ => none

def composer? : PlanCall π → Option (ThreadPredicate → ThreadPredicate)
  | compose f => some f
  | _ => none

/-- The allowance that the call sets for the member. -/
def allowance? (m : MemberKey) : PlanCall π → Option Bool
  | policy (.allow m' allowed) => if m' = m then some allowed else none
  | _ => none

/-- The call puts another policy in the place of the one so far. -/
def replaces : PlanCall π → Bool
  | policy (.replace _) => true
  | _ => false

theorem composers_play (p : Plan π) (c : PlanCall π) : (c.play p).composers = p.composers ++ c.composer?.toList := by
  cases c with
  | policy call => cases call <;> exact (List.append_nil _).symm
  | compose f => rfl
  | _ => exact (List.append_nil _).symm

theorem composers_plays (p : Plan π) (calls : List (PlanCall π)) :
    (calls.foldl play p).composers = p.composers ++ calls.filterMap composer? := by
  induction calls generalizing p with
  | nil => exact (List.append_nil _).symm
  | cons c calls ih =>
    rw [List.foldl_cons, ih, composers_play, List.append_assoc]
    cases h : c.composer? with
    | none => rw [List.filterMap_cons_none h]; rfl
    | some f => rw [List.filterMap_cons_some h]; rfl

/-- What calls make of the policy hangs on the policy alone. -/
theorem policy_plays {p q : Plan π} (h : p.policy = q.policy) (calls : List (PlanCall π)) :
    (calls.foldl play p).policy = ((calls.filterMap policy?).foldl PolicyCall.play q).policy := by
  induction calls generalizing p q with
  | nil => exact h
  | cons c calls ih =>
    cases c with
    | policy call =>
      refine ih ?_
      cases call with
      | replace policy => rfl
      | block m => exact congrArg (·.markBlocking m) h
      | allow m allowed => exact congrArg (·.setAllowance m allowed) h
    | _ => exact ih h

/-- Where no policy is replaced, what is said last of a member is the allowance set last. -/
theorem lastSaid_eq {calls : List (PlanCall π)} (m : MemberKey) (h : ∀ c ∈ calls, c.replaces = false) :
    lastSaid (calls.filterMap policy?) m = (calls.filterMap (allowance? m)).getLast?.map some := by
  rw [lastSaid, List.filterMap_filterMap, ← List.getLast?_map, List.map_filterMap]
  congr 1
  refine List.filterMap_congr fun c hc => ?_
  cases c with
  | policy call =>
    cases call with
    | replace policy => cases h _ hc
    | block m' => rfl
    | allow m' allowed =>
      show (if m' = m then some (some allowed) else none) = Option.map some (if m' = m then some allowed else none)
      split <;> rfl
  | _ => rfl

end PlanCall

/-! ## Bundles -/

mutual

/-- A change that a preset makes. -/
inductive Change (π : Type)
  | call (c : PlanCall π)
  /-- Applies another preset now. -/
  | adopt (x : Bundle π)
  /-- Applies others, by their priorities. -/
  | adoptAll (xs : List (Bundle π))

/-- A preset written down: its priority, and its changes in their order. -/
inductive Bundle (π : Type)
  | mk (priority : Int) (changes : List (Change π))

end

def Bundle.priority : Bundle π → Int
  | mk priority _ => priority

mutual

def Change.play (p : Plan π) : Change π → Plan π
  | .call c => c.play p
  | .adopt x => p.adopt x.preset
  | .adoptAll xs => p.adoptAll (Bundle.presets xs)

def Change.playAll (p : Plan π) : List (Change π) → Plan π
  | [] => p
  | c :: r => Change.playAll (c.play p) r

def Bundle.preset : Bundle π → Preset π
  | .mk priority changes => { priority, edit := fun p => Change.playAll p changes }

def Bundle.presets : List (Bundle π) → List (Preset π)
  | [] => []
  | x :: r => x.preset :: Bundle.presets r

end

mutual

def Change.calls : Change π → List (PlanCall π)
  | .call c => [c]
  | .adopt x => x.calls
  | .adoptAll xs => (ranked Prod.fst (Bundle.rows xs)).flatMap Prod.snd

def Change.callsAll : List (Change π) → List (PlanCall π)
  | [] => []
  | c :: r => c.calls ++ Change.callsAll r

/-- All calls that a bundle makes in the end, in their order. -/
def Bundle.calls : Bundle π → List (PlanCall π)
  | .mk _ changes => Change.callsAll changes

/-- The calls of several bundles, each with its priority. -/
def Bundle.rows : List (Bundle π) → List (Int × List (PlanCall π))
  | [] => []
  | x :: r => (x.priority, x.calls) :: Bundle.rows r

end

namespace Bundle

theorem presets_eq (xs : List (Bundle π)) : presets xs = xs.map preset := by
  induction xs with
  | nil => rfl
  | cons x xs ih => rw [presets, ih, List.map_cons]

theorem rows_eq (xs : List (Bundle π)) : rows xs = xs.map fun x => (x.priority, x.calls) := by
  induction xs with
  | nil => rfl
  | cons x xs ih => rw [rows, ih, List.map_cons]

theorem priority_preset (x : Bundle π) : x.preset.priority = x.priority := by
  cases x
  rfl

theorem inOrder_presets (xs : List (Bundle π)) : Preset.inOrder (xs.map preset) = (ranked priority xs).map preset := by
  rw [Preset.inOrder_eq_ranked, ranked_map]
  simp only [priority_preset]

theorem calls_rows (xs : List (Bundle π)) :
    (ranked Prod.fst (rows xs)).flatMap Prod.snd = (ranked priority xs).flatMap calls := by
  rw [rows_eq, ranked_map, List.flatMap_map]

/-- If each of them comes to its calls, so do several applied by their priorities. -/
theorem adoptAll_of_calls {xs : List (Bundle π)} (h : ∀ x ∈ xs, ∀ p, x.preset.edit p = x.calls.foldl PlanCall.play p)
    (p : Plan π) : p.adoptAll (xs.map preset) = ((ranked priority xs).flatMap calls).foldl PlanCall.play p := by
  have hranked : ∀ x ∈ ranked priority xs, ∀ p, x.preset.edit p = x.calls.foldl PlanCall.play p :=
    fun x hx => h x (mem_ranked.1 hx)
  rw [Plan.adoptAll, inOrder_presets, List.foldl_map, List.foldl_flatMap]
  generalize ranked priority xs = ys at hranked
  induction ys generalizing p with
  | nil => rfl
  | cons y ys ih =>
    obtain ⟨hy, hys⟩ := List.forall_mem_cons.1 hranked
    rw [List.foldl_cons, List.foldl_cons, ih _ hys, Plan.adopt, hy]

end Bundle

-- One case for each way a change can be made; the bundles inside come before those around.
mutual

theorem Change.play_calls (p : Plan π) : (c : Change π) → c.play p = c.calls.foldl PlanCall.play p
  | .call c => by rw [Change.play, Change.calls]; rfl
  | .adopt x => by rw [Change.play, Change.calls, Plan.adopt, x.edit_calls]
  | .adoptAll xs => by
    rw [Change.play, Change.calls, Bundle.presets_eq, Bundle.calls_rows]
    exact Bundle.adoptAll_of_calls (Bundle.edits_calls xs) p

theorem Change.playAll_calls (p : Plan π) :
    (l : List (Change π)) → Change.playAll p l = (Change.callsAll l).foldl PlanCall.play p
  | [] => by rw [Change.playAll, Change.callsAll]; rfl
  | c :: r => by rw [Change.playAll, Change.callsAll, c.play_calls, Change.playAll_calls _ r, List.foldl_append]

theorem Bundle.edit_calls : (x : Bundle π) → (p : Plan π) → x.preset.edit p = x.calls.foldl PlanCall.play p
  | .mk _ changes, p => by
    rw [Bundle.preset, Bundle.calls]
    exact Change.playAll_calls p changes

theorem Bundle.edits_calls :
    (xs : List (Bundle π)) → ∀ x ∈ xs, ∀ p : Plan π, x.preset.edit p = x.calls.foldl PlanCall.play p
  | [] => nofun
  | x :: r => List.forall_mem_cons.2 ⟨x.edit_calls, Bundle.edits_calls r⟩

end

/-! ## What bundles come to -/

namespace Bundle

variable {xs : List (Bundle π)} {p : Plan π}

/-- The allowance that the bundle leaves the member with, if it sets one. -/
def sets? (m : MemberKey) (x : Bundle π) : Option Bool := (x.calls.filterMap (PlanCall.allowance? m)).getLast?

/-- What the bundle composes, in its order. -/
def composers (x : Bundle π) : List (ThreadPredicate → ThreadPredicate) := x.calls.filterMap PlanCall.composer?

theorem adoptAll_calls (xs : List (Bundle π)) (p : Plan π) :
    p.adoptAll (xs.map preset) = ((ranked priority xs).flatMap calls).foldl PlanCall.play p :=
  adoptAll_of_calls (edits_calls xs) p

theorem composers_adoptAll :
    (p.adoptAll (xs.map preset)).composers = p.composers ++ (ranked priority xs).flatMap composers := by
  rw [adoptAll_calls, PlanCall.composers_plays, List.filterMap_flatMap]
  rfl

/-- If no policy is replaced, the last bundle that sets a member's allowance is heard. -/
theorem allowances_adoptAll (h : ∀ x ∈ xs, ∀ c ∈ x.calls, c.replaces = false) (m : MemberKey) :
    (p.adoptAll (xs.map preset)).policy.allowances.get? m =
      ((ranked priority xs).reverse.findSome? (sets? m)).or (p.policy.allowances.get? m) := by
  have hcalls : ∀ c ∈ (ranked priority xs).flatMap calls, c.replaces = false := by
    intro c hc
    obtain ⟨x, hx, hin⟩ := List.mem_flatMap.1 hc
    exact h x (mem_ranked.1 hx) c hin
  rw [adoptAll_calls, PlanCall.policy_plays rfl, allowances_plays, PlanCall.lastSaid_eq m hcalls,
    List.filterMap_flatMap, List.getLast?_flatMap]
  show (((ranked priority xs).reverse.findSome? (sets? m)).map some).getD _ = _
  cases (ranked priority xs).reverse.findSome? (sets? m) <;> rfl

end Bundle

theorem Plan.builds {p : Plan π} (h : p.settings.validate = .ok ()) : ∃ e, p.build.1 = .ok e := by
  unfold Settings.validate at h
  unfold Plan.build
  cases hw : p.settings.window with
  | error f => rw [hw] at h; cases h
  | ok w => exact ⟨_, rfl⟩

/-- There is one way to put presets in the order of their priorities that leaves those of
    one priority as they were given, and that is the way they are applied. So lists that
    hold the same presets at each priority, in one order there, are applied in one order
    and make the same plan of any plan. If no policy is replaced, a member is left with the
    allowance that the last preset in this order sets that sets one, or else with the one it
    had; and an engine built then has for its predicate what the composers that were pending
    and then those of the presets, in this order, make of the marker's. -/
theorem presets_ranked {α : Type} :
    (∀ l order : List (Preset π), Arranges Preset.priority order l ↔ order = Preset.inOrder l) ∧
    (∀ l r : List (Preset π), (∀ k, ofRank Preset.priority k l = ofRank Preset.priority k r) →
      Preset.inOrder l = Preset.inOrder r ∧ ∀ p : Plan π, p.adoptAll l = p.adoptAll r) ∧
    ∀ (xs order : List (Bundle π)) (p : Plan π), Arranges Bundle.priority order xs →
      let after := p.adoptAll (xs.map Bundle.preset)
      Preset.inOrder (xs.map Bundle.preset) = order.map Bundle.preset ∧
      ((∀ x ∈ xs, ∀ c ∈ x.calls, c.replaces = false) → ∀ m, after.policy.allowances.get? m =
        (order.reverse.findSome? (Bundle.sets? m)).or (p.policy.allowances.get? m)) ∧
      ∀ (t : ThreadId) (h : HostId) (s : Site π α), after.settings.validate = .ok () →
        ∃ id e, (Site.build t h after s).1.1 = .ok id ∧ (Site.build t h after s).2.engine? id = some e ∧
          e.monitor.register.restricts = (p.composers ++ order.flatMap Bundle.composers).foldl
            (fun before f => f before) (markerPredicate after.settings.marker) := by
  refine ⟨fun l order => ⟨fun h => ?_, fun h => h ▸ Preset.inOrder_arranges l⟩, fun l r hlr => ?_,
    fun xs order p horder => ?_⟩
  · exact h.unique (Preset.inOrder_arranges l) fun _ => rfl
  · have hsame := (Preset.inOrder_arranges l).unique (Preset.inOrder_arranges r) hlr
    exact ⟨hsame, fun p => by rw [Plan.adoptAll, Plan.adoptAll, hsame]⟩
  · intro after
    obtain rfl : order = ranked Bundle.priority xs := horder.unique (ranked_arranges xs) fun _ => rfl
    refine ⟨Bundle.inOrder_presets xs, fun hkept m => Bundle.allowances_adoptAll hkept m, fun t h s hvalid => ?_⟩
    obtain ⟨e, hb⟩ := Plan.builds hvalid
    obtain ⟨e', hfound, hrestricts⟩ := build_engine t h hb s
    refine ⟨_, e', by rw [build_ok hb], hfound, hrestricts.trans ?_⟩
    rw [Plan.restricts, Bundle.composers_adoptAll]

/-- Three bundles, of which the first given is to come last. It has the last word on a member
    that another one allows, and it widens a predicate that is turned around before. -/
theorem presets_ranked_with_a_late_one_first :
    let m : MemberKey := ("a::B", "f")
    let late : Bundle Unit := .mk 10
      [.call (.policy (.allow m false)), .call (.compose fun before i => before i || i.declares "late")]
    let first : Bundle Unit := .mk 0 [.adopt (.mk 20 [.call (.policy (.allow m true))])]
    let second : Bundle Unit := .mk 0 [.call (.compose fun before i => !before i)]
    let p : Plan Unit := { policy := .empty }
    let after := p.adoptAll ([late, first, second].map Bundle.preset)
    Preset.inOrder ([late, first, second].map Bundle.preset) = Preset.inOrder ([first, late, second].map Bundle.preset) ∧
      after.policy.allowances.get? m = some false ∧
      ∃ id e, (Site.build ⟨1⟩ (.runtime ⟨"r"⟩) after (Site.bare {} () : Site Unit Unit)).2.engine? id = some e ∧
        e.monitor.register.restricts ⟨⟨1⟩, none, [defaultMarker]⟩ = false ∧
        e.monitor.register.restricts ⟨⟨1⟩, none, [defaultMarker, "late"]⟩ = true := by
  intro m late first second p after
  have hranks : ∀ k, ofRank Bundle.priority k [first, second, late] = ofRank Bundle.priority k [late, first, second] := by
    intro k
    by_cases hk : 10 = k
    · subst hk
      rfl
    · simp [ofRank, late, first, second, Bundle.priority, List.filter_cons, hk]
  have hascends : Ascends Bundle.priority [first, second, late] := by
    simp [Ascends, late, first, second, Bundle.priority]
  have horder : Arranges Bundle.priority [first, second, late] [late, first, second] := ⟨hascends, hranks⟩
  obtain ⟨-, hsame, hbundles⟩ := presets_ranked (π := Unit) (α := Unit)
  obtain ⟨-, hallowed, hbuilt⟩ := hbundles _ _ p horder
  obtain ⟨id, e, -, hfound, hrestricts⟩ := hbuilt ⟨1⟩ (.runtime ⟨"r"⟩) (Site.bare {} ()) rfl
  have hpresets : ∀ k, ofRank Preset.priority k ([late, first, second].map Bundle.preset) =
      ofRank Preset.priority k ([first, late, second].map Bundle.preset) := by
    intro k
    by_cases hk : 10 = k
    · subst hk
      rfl
    · simp [ofRank, late, first, second, Bundle.preset, List.filter_cons, hk]
  refine ⟨(hsame _ _ hpresets).1, (hallowed (by decide) m).trans rfl, id, e, hfound, ?_, ?_⟩
  · rw [hrestricts]
    decide
  · rw [hrestricts]
    decide

end StallGuard
