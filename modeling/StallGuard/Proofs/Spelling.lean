/-
  StallGuard.Proofs.Spelling — all spellings of a type name come to one dotted name.

  A name has parts, and a spelling puts signs between and around them: slashes within an `L`
  and a `;` in a descriptor, slashes alone in a slashed name, pairs of colons in a path. A
  part holds none of these signs (`IsPart`), but it may be empty, and it may start with an
  `L`. Dotting a name takes three passes over the text, where a later pass could trip over
  what an earlier one left or made; so each is followed by itself.

  Proved:
  - `unwrap_descriptor`, `unwrap_plain`: a descriptor loses its wrapping, and a text without
    a `;` loses nothing, whatever it starts with.
  - `pass_join`, with `dotColons_join` and `dotSlashes_join`: a pass turns what its spelling
    puts between the parts into dots, and leaves the parts alone.
  - `no_pair_dotColons`, `pair_of_dotSlashes`: of any run of colons no pair is left, and
    dotting slashes makes no new one.
  - `spellings_agree`: the three spellings of a name give its parts with dots between, and
    no text at all keeps a slash or a pair of colons.
-/

import StallGuard.TypeName

namespace StallGuard.TypeName

/-- A text that can be a part of a name: no sign that belongs to a spelling stands in it. -/
def IsPart (s : String) : Prop := ':' ∉ s.toList ∧ '/' ∉ s.toList ∧ ';' ∉ s.toList

instance (s : String) : Decidable (IsPart s) := inferInstanceAs (Decidable (_ ∧ _))

/-! ## The wrapping of a descriptor -/

theorem unwrap_descriptor (cs : List Char) : unwrap ('L' :: (cs ++ [';'])) = cs := by
  rw [unwrap, List.getLast?_concat, if_pos rfl, List.dropLast_concat]

/-- A name that starts with an `L` is not a descriptor for that. -/
theorem unwrap_plain {cs : List Char} (h : ';' ∉ cs) : unwrap cs = cs := by
  unfold unwrap
  split
  · rename_i r
    have hlast : r.getLast? ≠ some ';' := fun e => h (List.mem_cons_of_mem _ (List.mem_of_getLast? e))
    rw [if_neg hlast]
  · rfl

/-! ## Pairs of colons -/

/-- A pass that goes through the parts and turns what stands between them into dots. -/
theorem pass_join {pass : List Char → List Char} {sep : List Char} (hnil : pass [] = [])
    (hsep : ∀ r, pass (sep ++ r) = '.' :: pass r) (parts : List (List Char))
    (hparts : ∀ p ∈ parts, ∀ r, pass (p ++ r) = p ++ pass r) :
    pass (sep.intercalate parts) = ['.'].intercalate parts := by
  match parts, hparts with
  | [], _ => exact hnil
  | [p], hparts =>
    have hp := hparts p List.mem_cons_self []
    rw [List.append_nil, hnil, List.append_nil] at hp
    rw [List.intercalate_singleton, List.intercalate_singleton, hp]
  | p :: q :: parts, hparts =>
    obtain ⟨hp, hrest⟩ := List.forall_mem_cons.1 hparts
    rw [List.intercalate_cons_cons, List.intercalate_cons_cons, List.append_assoc, List.append_assoc, hp, hsep,
      pass_join hnil hsep (q :: parts) hrest, List.singleton_append]

theorem dotColons_cons {c : Char} (h : ':' ≠ c) (r : List Char) : dotColons (c :: r) = c :: dotColons r := by
  rw [dotColons]
  intro _ hc _
  exact h hc.symm

theorem dotColons_append {l : List Char} (h : ':' ∉ l) (r : List Char) : dotColons (l ++ r) = l ++ dotColons r := by
  induction l with
  | nil => rfl
  | cons c l ih =>
    rw [List.mem_cons, not_or] at h
    rw [List.cons_append, dotColons_cons h.1, ih h.2, List.cons_append]

theorem dotColons_plain {l : List Char} (h : ':' ∉ l) : dotColons l = l := by
  have hnil := dotColons_append h []
  rwa [List.append_nil, dotColons, List.append_nil] at hnil

theorem dotColons_join {parts : List (List Char)} (h : ∀ p ∈ parts, ':' ∉ p) :
    dotColons ([':', ':'].intercalate parts) = ['.'].intercalate parts :=
  pass_join rfl (fun _ => rfl) parts fun p hp => dotColons_append (h p hp)

/-- A colon that a text starts with after the pass is one that stood there before. -/
theorem colon_of_dotColons {l : List Char} (h : [':'] <+: dotColons l) : [':'] <+: l := by
  unfold dotColons at h
  split at h
  · cases (List.cons_prefix_cons.1 h).1
  · obtain ⟨rfl, -⟩ := List.cons_prefix_cons.1 h
    exact List.cons_prefix_cons.2 ⟨rfl, List.nil_prefix⟩
  · exact h

/-- Pairs are taken from the left, so of an odd run its last colon stays, and it stays alone. -/
theorem no_pair_dotColons (l : List Char) : ¬[':', ':'] <:+: dotColons l := by
  fun_induction dotColons l with
  | case1 r ih =>
    rw [List.infix_cons_iff]
    rintro (hhead | hrest)
    · cases (List.cons_prefix_cons.1 hhead).1
    · exact ih hrest
  | case2 c r hpair ih =>
    rw [List.infix_cons_iff]
    rintro (hhead | hrest)
    · obtain ⟨rfl, hnext⟩ := List.cons_prefix_cons.1 hhead
      obtain ⟨r', rfl⟩ := colon_of_dotColons hnext
      exact hpair r' rfl rfl
    · exact ih hrest
  | case3 => exact fun h => nomatch List.infix_nil.1 h

/-! ## Slashes -/

theorem dotSlashes_append (l r : List Char) : dotSlashes (l ++ r) = dotSlashes l ++ dotSlashes r := List.map_append

theorem dotSlashes_plain {l : List Char} (h : '/' ∉ l) : dotSlashes l = l := by
  refine (List.map_congr_left fun c hc => ?_).trans (List.map_id l)
  have hne : c ≠ '/' := by
    rintro rfl
    exact h hc
  exact if_neg hne

theorem dotSlashes_join {parts : List (List Char)} (h : ∀ p ∈ parts, '/' ∉ p) :
    dotSlashes (['/'].intercalate parts) = ['.'].intercalate parts := by
  refine pass_join rfl (fun _ => rfl) parts fun p hp r => ?_
  rw [dotSlashes_append, dotSlashes_plain (h p hp)]

theorem no_slash_dotSlashes (l : List Char) : '/' ∉ dotSlashes l := by
  intro h
  obtain ⟨c, -, hc⟩ := List.mem_map.1 h
  by_cases e : c = '/'
  · rw [if_pos e] at hc
    cases hc
  · rw [if_neg e] at hc
    exact e hc

/-- What is made of a slash is no colon. -/
theorem pair_of_dotSlashes {l : List Char} (h : [':', ':'] <:+: dotSlashes l) : [':', ':'] <:+: l := by
  have hcolon : ∀ c, ':' = (if c = '/' then '.' else c) → c = ':' := by
    intro c hc
    by_cases e : c = '/'
    · rw [if_pos e] at hc
      cases hc
    · rw [if_neg e] at hc
      exact hc.symm
  obtain ⟨pair, hpair, hmap⟩ := List.infix_map_iff.1 h
  obtain ⟨a, rest, rfl, ha, hrest⟩ := List.map_eq_cons_iff.1 hmap.symm
  obtain ⟨b, rest', rfl, hb, hnil⟩ := List.map_eq_cons_iff.1 hrest
  obtain rfl := List.map_eq_nil_iff.1 hnil
  rwa [hcolon a ha.symm, hcolon b hb.symm] at hpair

/-! ## Dotted names -/

theorem not_mem_join {c : Char} {sep : List Char} {parts : List (List Char)} (hsep : c ∉ sep)
    (h : ∀ p ∈ parts, c ∉ p) : c ∉ sep.intercalate parts := by
  match parts, h with
  | [], _ => exact List.not_mem_nil
  | [p], h =>
    rw [List.intercalate_singleton]
    exact h p List.mem_cons_self
  | p :: q :: parts, h =>
    obtain ⟨hp, hrest⟩ := List.forall_mem_cons.1 h
    rw [List.intercalate_cons_cons, List.mem_append, List.mem_append]
    rintro ((hin | hin) | hin)
    · exact hp hin
    · exact hsep hin
    · exact not_mem_join hsep hrest hin

theorem dotted_slashed {raw : String} {parts : List (List Char)} (hraw : unwrap raw.toList = ['/'].intercalate parts)
    (hcolon : ∀ p ∈ parts, ':' ∉ p) (hslash : ∀ p ∈ parts, '/' ∉ p) :
    (dotted raw).toList = ['.'].intercalate parts := by
  rw [dotted, String.toList_ofList, hraw, dotColons_plain (not_mem_join (by decide) hcolon),
    dotSlashes_join hslash]

theorem dotted_path {raw : String} {parts : List (List Char)} (hraw : unwrap raw.toList = [':', ':'].intercalate parts)
    (hcolon : ∀ p ∈ parts, ':' ∉ p) (hslash : ∀ p ∈ parts, '/' ∉ p) :
    (dotted raw).toList = ['.'].intercalate parts := by
  rw [dotted, String.toList_ofList, hraw, dotColons_join hcolon,
    dotSlashes_plain (not_mem_join (by decide) hslash)]

/-- A descriptor, a slashed name and a path with the same parts, of which some may be empty,
    have one dotted form, the parts with dots between; and the dotted form of any text has
    neither a slash nor a pair of colons in it. -/
theorem spellings_agree :
    (∀ parts : List String, (∀ s ∈ parts, IsPart s) →
      dotted ("L" ++ "/".intercalate parts ++ ";") = ".".intercalate parts ∧
      dotted ("/".intercalate parts) = ".".intercalate parts ∧
      dotted ("::".intercalate parts) = ".".intercalate parts) ∧
    ∀ raw : String, '/' ∉ (dotted raw).toList ∧ ¬"::".toList <:+: (dotted raw).toList := by
  refine ⟨fun parts hparts => ?_, fun raw => ?_⟩
  · have htexts : ∀ p ∈ parts.map String.toList, ':' ∉ p ∧ '/' ∉ p ∧ ';' ∉ p := by
      intro p hp
      obtain ⟨s, hs, rfl⟩ := List.mem_map.1 hp
      exact hparts s hs
    have hcolon : ∀ p ∈ parts.map String.toList, ':' ∉ p := fun p hp => (htexts p hp).1
    have hslash : ∀ p ∈ parts.map String.toList, '/' ∉ p := fun p hp => (htexts p hp).2.1
    have hsemi : ∀ p ∈ parts.map String.toList, ';' ∉ p := fun p hp => (htexts p hp).2.2
    simp only [← String.toList_inj, String.toList_intercalate]
    refine ⟨dotted_slashed ?_ hcolon hslash, dotted_slashed ?_ hcolon hslash, dotted_path ?_ hcolon hslash⟩
    · rw [String.toList_append, String.toList_append, String.toList_intercalate]
      exact unwrap_descriptor _
    · rw [String.toList_intercalate]
      exact unwrap_plain (not_mem_join (by decide) hsemi)
    · rw [String.toList_intercalate]
      exact unwrap_plain (not_mem_join (by decide) hsemi)
  · rw [dotted, String.toList_ofList]
    exact ⟨no_slash_dotSlashes _, fun h => no_pair_dotColons _ (pair_of_dotSlashes h)⟩

example : dotted ":::/L;" = ".:.L;" := by decide

/-- Parts that start with an `L` or are empty, so that a path has four colons in a row. -/
theorem spellings_agree_on_an_empty_part :
    (∀ s ∈ ["Lib", "", "Lexer"], IsPart s) ∧
      dotted "LLib//Lexer;" = "Lib..Lexer" ∧ dotted "Lib//Lexer" = "Lib..Lexer" ∧
      dotted "Lib::::Lexer" = "Lib..Lexer" := by
  have hparts : ∀ s ∈ ["Lib", "", "Lexer"], IsPart s := by decide
  have hagree := spellings_agree.1 _ hparts
  have hdescriptor : "L" ++ "/".intercalate ["Lib", "", "Lexer"] ++ ";" = "LLib//Lexer;" := by decide
  have hslashed : "/".intercalate ["Lib", "", "Lexer"] = "Lib//Lexer" := by decide
  have hpath : "::".intercalate ["Lib", "", "Lexer"] = "Lib::::Lexer" := by decide
  have hdotted : ".".intercalate ["Lib", "", "Lexer"] = "Lib..Lexer" := by decide
  rw [hdescriptor, hslashed, hpath, hdotted] at hagree
  exact ⟨hparts, hagree⟩

end StallGuard.TypeName
