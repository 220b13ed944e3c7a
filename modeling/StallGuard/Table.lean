/-
  StallGuard.Table — finite maps, kept in the order in which their keys first came in.

  A table is a list of entries with no key twice. `insert` overwrites in place or
  appends; `erase` drops the entry. Everything else in the library that is keyed
  (hooks, thread verdicts, targets, allowances) is a table, so what a key means after
  any run of writes is read off these facts:
  - `get?_insert`: the key written holds the new value and no other key changed.
  - `get?_erase`: the key erased holds nothing and no other key changed.
  - `size_insert`, `size_erase`: the size grows exactly when the key is new, and shrinks
    exactly when it was there.
-/

namespace StallGuard

/-- Entries by key, no key twice, in the order of first insertion. -/
structure Table (κ ν : Type) where
  entries : List (κ × ν)
  nodup : (entries.map Prod.fst).Nodup

namespace Table

variable {κ ν : Type}

def empty : Table κ ν := ⟨[], by simp⟩

instance : Inhabited (Table κ ν) := ⟨empty⟩

def keys (t : Table κ ν) : List κ := t.entries.map Prod.fst

def values (t : Table κ ν) : List ν := t.entries.map Prod.snd

def size (t : Table κ ν) : Nat := t.entries.length

@[simp] theorem size_empty : (empty : Table κ ν).size = 0 := rfl

variable [DecidableEq κ]

/-! ## Entries as lists -/

/-- The value of the first entry with this key. -/
def find (k : κ) : List (κ × ν) → Option ν
  | [] => none
  | (k', v) :: r => if k' = k then some v else find k r

/-- Overwrites the entry with this key where it stands, or appends one. -/
def put (k : κ) (v : ν) : List (κ × ν) → List (κ × ν)
  | [] => [(k, v)]
  | (k', v') :: r => if k' = k then (k, v) :: r else (k', v') :: put k v r

theorem keys_put (k : κ) (v : ν) (l : List (κ × ν)) :
    (put k v l).map Prod.fst = if k ∈ l.map Prod.fst then l.map Prod.fst else l.map Prod.fst ++ [k] := by
  induction l with
  | nil => simp [put]
  | cons e r ih =>
    obtain ⟨k', v'⟩ := e
    by_cases h : k' = k
    · simp [put, h]
    · have h' : ¬k = k' := fun e => h e.symm
      by_cases hr : k ∈ r.map Prod.fst <;> simp_all [put]

theorem find_put (k j : κ) (v : ν) (l : List (κ × ν)) :
    find j (put k v l) = if j = k then some v else find j l := by
  induction l with
  | nil =>
    by_cases h : j = k
    · simp [put, find, h]
    · have h' : ¬k = j := fun e => h e.symm
      simp [put, find, h, h']
  | cons e r ih =>
    obtain ⟨k', v'⟩ := e
    by_cases h : k' = k <;> by_cases hj : j = k <;> by_cases hk : k' = j <;> simp_all [put, find]

theorem find_filter (k j : κ) (l : List (κ × ν)) :
    find j (l.filter fun e => !decide (e.1 = k)) = if j = k then none else find j l := by
  induction l with
  | nil => simp [find]
  | cons e r ih =>
    obtain ⟨k', v'⟩ := e
    by_cases h : k' = k <;> by_cases hj : j = k <;> by_cases hk : k' = j <;> simp_all [find]

theorem find_eq_none {k : κ} {l : List (κ × ν)} : find k l = none ↔ k ∉ l.map Prod.fst := by
  induction l with
  | nil => simp [find]
  | cons e r ih =>
    obtain ⟨k', v'⟩ := e
    by_cases h : k' = k
    · simp [find, h]
    · have h' : ¬k = k' := fun e => h e.symm
      rw [find, if_neg h, ih]
      simp [h']

theorem put_of_absent {k : κ} {l : List (κ × ν)} (h : k ∉ l.map Prod.fst) (v : ν) : put k v l = l ++ [(k, v)] := by
  induction l with
  | nil => rfl
  | cons e r ih =>
    obtain ⟨hne, hr⟩ : k ≠ e.1 ∧ k ∉ r.map Prod.fst := by simpa using h
    rw [put, if_neg (Ne.symm hne), ih hr]
    rfl

theorem put_put (k : κ) (v w : ν) (l : List (κ × ν)) : put k w (put k v l) = put k w l := by
  induction l with
  | nil => simp [put]
  | cons e r ih =>
    obtain ⟨k', v'⟩ := e
    by_cases h : k' = k
    · simp [put, h]
    · simp [put, h, ih]

theorem put_same {k : κ} {v : ν} {l : List (κ × ν)} (h : find k l = some v) : put k v l = l := by
  induction l with
  | nil => simp [find] at h
  | cons e r ih =>
    obtain ⟨k', v'⟩ := e
    by_cases hk : k' = k
    · simp [find, hk] at h
      simp [put, hk, h]
    · simp [find, hk] at h
      simp [put, hk, ih h]

/-! ## The operations -/

def get? (t : Table κ ν) (k : κ) : Option ν := find k t.entries

def contains (t : Table κ ν) (k : κ) : Bool := (t.get? k).isSome

def insert (t : Table κ ν) (k : κ) (v : ν) : Table κ ν where
  entries := put k v t.entries
  nodup := by
    rw [keys_put]
    split
    · exact t.nodup
    · rename_i h
      refine List.nodup_append.2 ⟨t.nodup, by simp, ?_⟩
      intro a ha b hb
      simp only [List.mem_singleton] at hb
      exact fun e => h (hb ▸ e ▸ ha)

def erase (t : Table κ ν) (k : κ) : Table κ ν where
  entries := t.entries.filter fun e => !decide (e.1 = k)
  nodup := t.nodup.sublist (List.filter_sublist.map Prod.fst)

/-- Changes the value at `k`, if there is one. -/
def modify (t : Table κ ν) (k : κ) (f : ν → ν) : Table κ ν :=
  match t.get? k with
  | some v => t.insert k (f v)
  | none => t

/-- Writes the pairs in order; a later pair overwrites an earlier one. -/
def ofList (l : List (κ × ν)) : Table κ ν := l.foldl (fun t e => t.insert e.1 e.2) empty

/-- Two tables hold the same value at every key, whatever their orders. -/
def same [DecidableEq ν] (s t : Table κ ν) : Bool :=
  s.keys.all (fun k => decide (s.get? k = t.get? k)) && t.keys.all (fun k => decide (s.get? k = t.get? k))

@[simp] theorem get?_empty (k : κ) : (empty : Table κ ν).get? k = none := rfl

theorem get?_insert (t : Table κ ν) (k j : κ) (v : ν) :
    (t.insert k v).get? j = if j = k then some v else t.get? j :=
  find_put k j v t.entries

theorem get?_insert_of_absent {t : Table κ ν} {j k : κ} {u v : ν} (hk : t.get? k = none) (hj : t.get? j = some u) :
    (t.insert k v).get? j = some u := by
  have hne : j ≠ k := by
    rintro rfl
    rw [hk] at hj
    cases hj
  rw [get?_insert, if_neg hne, hj]

theorem insert_insert (t : Table κ ν) (k : κ) (v w : ν) : (t.insert k v).insert k w = t.insert k w := by
  simp only [insert, put_put]

theorem insert_same {t : Table κ ν} {k : κ} {v : ν} (h : t.get? k = some v) : t.insert k v = t := by
  simp only [insert, put_same h]

theorem modify_eq {t : Table κ ν} {k : κ} {v : ν} (h : t.get? k = some v) (f : ν → ν) :
    t.modify k f = t.insert k (f v) := by
  simp only [modify, h]

theorem modify_none {t : Table κ ν} {k : κ} (h : t.get? k = none) (f : ν → ν) : t.modify k f = t := by
  simp only [modify, h]

theorem get?_modify (t : Table κ ν) (k j : κ) (f : ν → ν) :
    (t.modify k f).get? j = if j = k then (t.get? k).map f else t.get? j := by
  cases h : t.get? k with
  | none =>
    rw [modify_none h]
    split
    · rename_i e; rw [e, h]; rfl
    · rfl
  | some v => rw [modify_eq h, get?_insert]; rfl

theorem get?_erase (t : Table κ ν) (k j : κ) :
    (t.erase k).get? j = if j = k then none else t.get? j :=
  find_filter k j t.entries

theorem erase_erase (t : Table κ ν) (k : κ) : (t.erase k).erase k = t.erase k := by
  simp [erase]

theorem get?_eq_none {t : Table κ ν} {k : κ} : t.get? k = none ↔ k ∉ t.keys := find_eq_none

theorem values_insert_of_absent {t : Table κ ν} {k : κ} (h : t.get? k = none) (v : ν) :
    (t.insert k v).values = t.values ++ [v] := by
  show (put k v t.entries).map Prod.snd = _
  rw [put_of_absent (get?_eq_none.1 h), List.map_append]
  rfl

theorem contains_iff {t : Table κ ν} {k : κ} : t.contains k = true ↔ k ∈ t.keys := by
  by_cases h : k ∈ t.keys
  · simp only [h, iff_true]
    cases hg : t.get? k with
    | none => exact absurd h (get?_eq_none.1 hg)
    | some v => simp [contains, hg]
  · have hg := get?_eq_none.2 h
    simp [contains, hg, h]

theorem contains_insert (t : Table κ ν) (k j : κ) (v : ν) :
    (t.insert k v).contains j = (decide (j = k) || t.contains j) := by
  unfold contains
  rw [get?_insert]
  by_cases h : j = k <;> simp [h]

theorem size_insert (t : Table κ ν) (k : κ) (v : ν) :
    (t.insert k v).size = if t.contains k then t.size else t.size + 1 := by
  have h := congrArg List.length (keys_put k v t.entries)
  simp only [List.length_map] at h
  show (put k v t.entries).length = _
  rw [h]
  by_cases hk : k ∈ t.keys
  · have : k ∈ t.entries.map Prod.fst := hk
    simp [contains_iff.2 hk, this, size]
  · have h' : k ∉ t.entries.map Prod.fst := hk
    have hc : t.contains k = false := by
      cases e : t.contains k with
      | false => rfl
      | true => exact absurd (contains_iff.1 e) hk
    simp [hc, h', size]

theorem length_filter_key {k : κ} {l : List (κ × ν)} (h : (l.map Prod.fst).Nodup) :
    l.length = (l.filter fun e => !decide (e.1 = k)).length + if k ∈ l.map Prod.fst then 1 else 0 := by
  induction l with
  | nil => rfl
  | cons e r ih =>
    obtain ⟨hne, hr⟩ := List.nodup_cons.1 h
    by_cases hk : e.1 = k
    · subst hk
      have hkeep : (r.filter fun e' => !decide (e'.1 = e.1)) = r := by
        refine List.filter_eq_self.2 fun e' he' => ?_
        have : e'.1 ≠ e.1 := fun heq => hne (heq ▸ List.mem_map_of_mem he')
        simp [this]
      simp [hkeep]
    · have hk' : ¬k = e.1 := fun heq => hk heq.symm
      simp only [List.filter_cons, hk, decide_false, Bool.not_false, if_true, List.length_cons, List.map_cons,
        List.mem_cons, hk', false_or]
      rw [ih hr]
      omega

theorem size_erase (t : Table κ ν) (k : κ) : t.size = (t.erase k).size + (t.contains k).toNat := by
  have h := length_filter_key (k := k) t.nodup
  show t.entries.length = (t.erase k).size + _
  rw [h]
  by_cases hk : k ∈ t.keys
  · have : k ∈ t.entries.map Prod.fst := hk
    rw [contains_iff.2 hk, if_pos this]
    rfl
  · have : k ∉ t.entries.map Prod.fst := hk
    rw [Bool.eq_false_iff.2 (mt contains_iff.1 hk), if_neg this]
    rfl

theorem same_iff [DecidableEq ν] {s t : Table κ ν} : s.same t = true ↔ ∀ k, s.get? k = t.get? k := by
  simp only [same, Bool.and_eq_true, List.all_eq_true, decide_eq_true_eq]
  refine ⟨fun ⟨hs, ht⟩ k => ?_, fun h => ⟨fun k _ => h k, fun k _ => h k⟩⟩
  by_cases ks : k ∈ s.keys
  · exact hs k ks
  · by_cases kt : k ∈ t.keys
    · exact ht k kt
    · rw [get?_eq_none.2 ks, get?_eq_none.2 kt]

end Table

end StallGuard
