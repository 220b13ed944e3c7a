/-
  StallGuard.Names — sets of names shown in ascending order.

  Names are ordered by code point. `Names.ofList` sorts a list of names and drops
  repetitions; answers that list types or members, and rounds over several types, use it.
  - `mem_ofList`: nothing is lost and nothing added.
  - `sorted_ofList`: what comes out ascends strictly, so no name comes twice.
-/

namespace StallGuard.Names

/-- Puts a name in its place; a name that is there already stays once. -/
def insert (n : String) : List String → List String
  | [] => [n]
  | m :: r => if n < m then n :: m :: r else if n = m then m :: r else m :: insert n r

def ofList (l : List String) : List String := l.foldr insert []

theorem mem_insert {n a : String} {l : List String} : a ∈ insert n l ↔ a = n ∨ a ∈ l := by
  induction l with
  | nil => simp [insert]
  | cons m r ih =>
    unfold insert
    by_cases h : n < m
    · simp [h]
    · by_cases e : n = m
      · subst e; rw [if_neg h, if_pos rfl]; simp
      · simp only [h, e, if_false, List.mem_cons, ih]
        constructor
        · rintro (h | h | h) <;> simp [h]
        · rintro (h | h | h) <;> simp [h]

theorem mem_ofList {a : String} {l : List String} : a ∈ ofList l ↔ a ∈ l := by
  induction l with
  | nil => simp [ofList]
  | cons n r ih =>
    have : ofList (n :: r) = insert n (ofList r) := rfl
    rw [this, mem_insert, ih, List.mem_cons]

theorem sorted_insert {n : String} {l : List String} (h : l.Pairwise (· < ·)) :
    (insert n l).Pairwise (· < ·) := by
  induction l with
  | nil => simp [insert]
  | cons m r ih =>
    obtain ⟨hm, hr⟩ := List.pairwise_cons.1 h
    unfold insert
    by_cases hn : n < m
    · rw [if_pos hn]
      refine List.pairwise_cons.2 ⟨fun a ha => ?_, h⟩
      rcases List.mem_cons.1 ha with rfl | ha
      · exact hn
      · exact String.lt_trans hn (hm a ha)
    · by_cases e : n = m
      · rw [if_neg hn, if_pos e]; exact h
      · rw [if_neg hn, if_neg e]
        refine List.pairwise_cons.2 ⟨fun a ha => ?_, ih hr⟩
        rcases mem_insert.1 ha with rfl | ha
        · exact Std.lt_of_le_of_ne (Std.not_lt.1 hn) (Ne.symm e)
        · exact hm a ha

theorem sorted_ofList (l : List String) : (ofList l).Pairwise (· < ·) := by
  induction l with
  | nil => simp [ofList]
  | cons n r ih => exact sorted_insert ih

end StallGuard.Names
