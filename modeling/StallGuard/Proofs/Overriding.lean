/-
  StallGuard.Proofs.Overriding — who has the last word on a member, a default or the caller.

  An installation applies the default presets and those of its caller in one round. The
  caller's are taken here to be of the usual priority, 0, and to make any calls about the
  policy (`PolicyCall`); `lastSaid` is what they say last, all together, of a member's
  allowance. The console's preset has that priority too and stands before them. The tasks'
  has a higher one, so it comes after all of them and has the last word on its two members
  (`Preset.taskWord?`).

  Proved, for every plan and any such presets:
  - `inOrder_defaults`: the order in which they are really applied.
  - `allowances_plays`: calls leave what they say last, else what there was before.
  - `defaults_override_iff`: what comes of it, next to what would come of the defaults applied
    first; the two policies are the same exactly if callers say nothing of a member of the
    tasks' preset but what that says itself.
  - `default_overrides_caller`: a caller's word that is lost.
-/

import StallGuard.Plan

namespace StallGuard

variable {π : Type}

/-! ## The order of presets -/

namespace Preset

/-- A preset is put before the first one of a higher priority. -/
theorem place_before {x z : Preset π} {l r : List (Preset π)} (h : ∀ y ∈ l, y.priority ≤ x.priority)
    (hz : x.priority < z.priority) : place x (l ++ z :: r) = l ++ x :: z :: r := by
  induction l with
  | nil => rw [List.nil_append, place, if_pos hz, List.nil_append]
  | cons y l ih =>
    obtain ⟨hy, hl⟩ := List.forall_mem_cons.1 h
    rw [List.cons_append, place, if_neg (Int.not_lt.2 hy), ih hl, List.cons_append]

/-- Presets of one priority go, in their order, between those below it and those above. -/
theorem foldl_place_before {l ys r : List (Preset π)} {z : Preset π} {k : Int} (hl : ∀ y ∈ l, y.priority ≤ k)
    (hys : ∀ y ∈ ys, y.priority = k) (hz : k < z.priority) :
    ys.foldl (fun acc x => place x acc) (l ++ z :: r) = l ++ ys ++ z :: r := by
  induction ys generalizing l with
  | nil => rw [List.foldl_nil, List.append_nil]
  | cons y ys ih =>
    obtain ⟨rfl, hys⟩ := List.forall_mem_cons.1 hys
    have hl' : ∀ x ∈ l ++ [y], x.priority ≤ y.priority :=
      List.forall_mem_append.2 ⟨hl, List.forall_mem_singleton.2 (Int.le_refl _)⟩
    have ih := ih hl' hys
    rw [List.append_assoc, List.singleton_append] at ih
    rw [List.foldl_cons, place_before hl hz, ih, List.append_assoc l, List.singleton_append]

end Preset

/-! ## Calls about the policy -/

/-- A call that a preset makes about the policy. -/
inductive PolicyCall
  /-- Puts this policy in the place of the one so far. -/
  | replace (policy : Policy)
  | block (m : MemberKey)
  | allow (m : MemberKey) (allowed : Bool)

namespace PolicyCall

def play (p : Plan π) : PolicyCall → Plan π
  | replace policy => { p with policy }
  | block m => p.markBlocking m
  | allow m allowed => p.setAllowance m allowed

/-- The allowance that the member has by this call, if the call touches it. -/
def says? (m : MemberKey) : PolicyCall → Option (Option Bool)
  | replace policy => some (policy.allowances.get? m)
  | block _ => none
  | allow m' allowed => if m' = m then some (some allowed) else none

end PolicyCall

open PolicyCall

/-- What the calls say last of the member's allowance, if any of them touches it. -/
def lastSaid (calls : List PolicyCall) (m : MemberKey) : Option (Option Bool) := (calls.filterMap (says? m)).getLast?

/-- A preset of the usual priority that makes these calls. -/
def Preset.ofCalls (calls : List PolicyCall) : Preset π where
  edit p := calls.foldl play p

theorem lastSaid_cons (c : PolicyCall) (calls : List PolicyCall) (m : MemberKey) :
    lastSaid (c :: calls) m = (lastSaid calls m).or (c.says? m) := by
  unfold lastSaid
  cases h : c.says? m with
  | none => rw [List.filterMap_cons_none h, Option.or_none]
  | some a =>
    rw [List.filterMap_cons_some h, List.getLast?_cons]
    cases (calls.filterMap (says? m)).getLast? <;> rfl

theorem allowances_play (p : Plan π) (c : PolicyCall) (m : MemberKey) :
    (c.play p).policy.allowances.get? m = (c.says? m).getD (p.policy.allowances.get? m) := by
  cases c with
  | replace policy => rfl
  | block m' => rfl
  | allow m' allowed =>
    refine (Table.get?_insert _ _ _ _).trans ?_
    by_cases h : m' = m
    · rw [says?, if_pos h, if_pos h.symm, Option.getD_some]
    · rw [says?, if_neg h, if_neg (Ne.symm h), Option.getD_none]

theorem allowances_plays (p : Plan π) (calls : List PolicyCall) (m : MemberKey) :
    (calls.foldl play p).policy.allowances.get? m = (lastSaid calls m).getD (p.policy.allowances.get? m) := by
  induction calls generalizing p with
  | nil => rfl
  | cons c calls ih =>
    rw [List.foldl_cons, ih, lastSaid_cons, allowances_play]
    cases lastSaid calls m <;> rfl

/-- What blocks by the calls hangs on nothing but what blocked before. -/
theorem blocking_plays {p q : Plan π} (h : p.policy.blocking = q.policy.blocking) (calls : List PolicyCall) :
    (calls.foldl play p).policy.blocking = (calls.foldl play q).policy.blocking := by
  induction calls generalizing p q with
  | nil => exact h
  | cons c calls ih =>
    refine ih ?_
    cases c with
    | replace policy => rfl
    | block m => exact congrArg (·.insert m ()) h
    | allow m allowed => exact h

/-! ## The defaults and the caller -/

namespace Preset

/-- What the tasks' preset says of the member. -/
def taskWord? (m : MemberKey) : Option Bool :=
  if m = Primitives.blockInPlace.key then some true
  else if m = Primitives.taskPoll.key then some false else none

theorem allowances_tasks (p : Plan π) (m : MemberKey) :
    ((tasks false).edit p).policy.allowances.get? m = (taskWord? m).or (p.policy.allowances.get? m) := by
  refine (Table.get?_insert _ _ _ _).trans ?_
  unfold taskWord?
  by_cases hplace : m = Primitives.blockInPlace.key
  · rw [if_pos hplace, if_pos hplace, Option.some_or]
  · rw [if_neg hplace, if_neg hplace]
    refine (Table.get?_insert _ _ _ _).trans ?_
    by_cases hpoll : m = Primitives.taskPoll.key
    · rw [if_pos hpoll, if_pos hpoll, Option.some_or]
    · rw [if_neg hpoll, if_neg hpoll, Option.none_or]
      rfl

theorem inOrder_defaults (xs : List (List PolicyCall)) :
    inOrder (defaults ++ xs.map ofCalls : List (Preset π)) = console :: xs.map ofCalls ++ [tasks false] := by
  have hdefaults : inOrder (defaults : List (Preset π)) = [console] ++ tasks false :: [] := rfl
  have hcalls : ∀ y ∈ xs.map (ofCalls (π := π)), y.priority = 0 := by
    intro y hy
    obtain ⟨calls, -, rfl⟩ := List.mem_map.1 hy
    rfl
  rw [inOrder, List.foldl_append, ← inOrder, hdefaults,
    foldl_place_before (List.forall_mem_singleton.2 (Int.le_refl 0)) hcalls (by decide : (0 : Int) < 10)]
  rfl

end Preset

open Preset

theorem foldl_adopt_ofCalls (p : Plan π) (xs : List (List PolicyCall)) :
    (xs.map ofCalls).foldl Plan.adopt p = xs.flatten.foldl play p := by
  rw [List.foldl_map, List.foldl_flatten]
  rfl

/-- In one round, the tasks' preset is applied after the caller's. -/
theorem adoptAll_defaults (p : Plan π) (xs : List (List PolicyCall)) :
    p.adoptAll (defaults ++ xs.map ofCalls) = (tasks false).edit (xs.flatten.foldl play (console.edit p)) := by
  rw [Plan.adoptAll, inOrder_defaults, List.foldl_append]
  show (tasks false).edit ((xs.map ofCalls).foldl Plan.adopt (console.edit p)) = _
  rw [foldl_adopt_ofCalls]

theorem foldl_adopt_defaults (p : Plan π) (xs : List (List PolicyCall)) :
    (defaults ++ xs.map ofCalls).foldl Plan.adopt p = xs.flatten.foldl play (defaults.foldl Plan.adopt p) := by
  rw [List.foldl_append, foldl_adopt_ofCalls]

/-- The defaults and the caller's presets, applied in one round, against the defaults first
    and the caller's after them. Both ways the same members block. If the defaults come
    first, the caller has the last word on every allowance; in the round the tasks' preset
    has it on its own members. So the two ways come to the same policy exactly if the
    caller's last word on each of these, if there is one, is what that preset says. -/
theorem defaults_override_iff (p : Plan π) (xs : List (List PolicyCall)) :
    let presets := defaults ++ xs.map ofCalls
    let round := (p.adoptAll presets).policy
    let inTurn := (presets.foldl Plan.adopt p).policy
    (∀ m, round.isBlocking m = inTurn.isBlocking m) ∧
      (∀ m, inTurn.allowances.get? m =
        (lastSaid xs.flatten m).getD ((defaults.foldl Plan.adopt p).policy.allowances.get? m)) ∧
      (∀ m, round.allowances.get? m = (taskWord? m).or (inTurn.allowances.get? m)) ∧
      (round.same inTurn = true ↔
        ∀ m a said, taskWord? m = some a → lastSaid xs.flatten m = some said → said = some a) := by
  intro presets round inTurn
  have hblocking : round.blocking = inTurn.blocking := by
    show (p.adoptAll presets).policy.blocking = (presets.foldl Plan.adopt p).policy.blocking
    rw [adoptAll_defaults, foldl_adopt_defaults]
    exact blocking_plays (p := console.edit p) (q := defaults.foldl Plan.adopt p) rfl xs.flatten
  have hinTurn : ∀ m, inTurn.allowances.get? m =
      (lastSaid xs.flatten m).getD ((defaults.foldl Plan.adopt p).policy.allowances.get? m) := by
    intro m
    show (presets.foldl Plan.adopt p).policy.allowances.get? m = _
    rw [foldl_adopt_defaults, allowances_plays]
  have hdefaults : ∀ m, (defaults.foldl Plan.adopt p).policy.allowances.get? m =
      (taskWord? m).or ((console.edit p).policy.allowances.get? m) := allowances_tasks (console.edit p)
  have hround : ∀ m, round.allowances.get? m = (taskWord? m).or (inTurn.allowances.get? m) := by
    intro m
    show (p.adoptAll presets).policy.allowances.get? m = _
    rw [adoptAll_defaults, allowances_tasks, allowances_plays, hinTurn, hdefaults]
    cases taskWord? m <;> rfl
  -- The tasks' word, put last, makes no difference to a member on which it was the last word.
  have hkept : ∀ m, round.allowances.get? m = inTurn.allowances.get? m ↔
      ∀ a said, taskWord? m = some a → lastSaid xs.flatten m = some said → said = some a := by
    intro m
    rw [hround, hinTurn, hdefaults]
    cases taskWord? m <;> cases lastSaid xs.flatten m <;> simp [eq_comm]
  refine ⟨fun m => congrArg (·.contains m) hblocking, hinTurn, hround, ?_⟩
  rw [Policy.same, hblocking, Table.same_iff.2 fun _ => rfl, Bool.true_and, Table.same_iff]
  exact forall_congr' hkept

/-- A caller forbids excursions of tasks to block; the default, which allows it, comes after. -/
theorem default_overrides_caller :
    let presets : List (Preset Unit) := defaults ++ [ofCalls [.allow Primitives.blockInPlace.key false]]
    let p : Plan Unit := { policy := .empty }
    (p.adoptAll presets).policy.allowances.get? Primitives.blockInPlace.key = some true ∧
      (presets.foldl Plan.adopt p).policy.allowances.get? Primitives.blockInPlace.key = some false := by
  decide

end StallGuard
