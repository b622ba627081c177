import QueryLoom.Proofs.QuotedTables

/-!
# Stable identifiers

An identifier is written as it is when it is written again. With quotes it stands between double
quotes from the first time on, and a name that stands between double quotes is only folded.

## Implementation notes

Two facts carry this: upper-casing leaves a text in upper case as it is, and it neither makes nor
loses a double quote at either end of a text. A single double quote is both ends at once; it is not
quoted, and becomes three.
-/

namespace QueryLoom

/-! ## Ends of an upper-cased text -/

namespace Text

/-- No character vanishes in upper case. -/
theorem upperForm_ne_nil (c : Char) : upperForm c ≠ [] := by
  have hexpansions : ∀ expansion ∈ caseExpansions, expansion.2 ≠ [] := by
    decide +kernel
  rw [upperForm_eq, ne_eq, List.map_eq_nil_iff]
  unfold upperCodes
  split
  · rename_i codes hfind
    exact hexpansions _ (List.mem_of_find?_eq_some hfind)
  · split <;> exact List.cons_ne_nil _ _

/-- A mark is its own upper-case form. -/
theorem upperForm_mark {mark : Char} (hmark : IsMark mark) : upperForm mark = [mark] :=
  upperForm_of_mem ((mem_upperForm_iff hmark).mpr rfl)

/-- An upper-case form has a mark at an end only if it is the mark. -/
theorem upperForm_head?_iff {mark c : Char} (hmark : IsMark mark) :
    (upperForm c).head? = some mark ↔ c = mark := by
  constructor
  · intro h
    exact (mem_upperForm_iff hmark).mp (List.mem_of_head? h)
  · rintro rfl
    rw [upperForm_mark hmark]
    rfl

theorem upperForm_getLast?_iff {mark c : Char} (hmark : IsMark mark) :
    (upperForm c).getLast? = some mark ↔ c = mark := by
  constructor
  · intro h
    exact (mem_upperForm_iff hmark).mp (List.mem_of_getLast? h)
  · rintro rfl
    rw [upperForm_mark hmark]
    rfl

variable {mark : Char} (hmark : IsMark mark) (text : String)

include hmark

theorem upperCase_head?_iff :
    (upperCase text).toList.head? = some mark ↔ text.toList.head? = some mark := by
  rw [toList_upperCase]
  cases text.toList with
  | nil => rfl
  | cons c rest =>
    rw [List.flatMap_cons, List.head?_append_of_ne_nil _ (upperForm_ne_nil c),
      upperForm_head?_iff hmark]
    simp

theorem upperCase_getLast?_iff :
    (upperCase text).toList.getLast? = some mark ↔ text.toList.getLast? = some mark := by
  rw [toList_upperCase]
  rcases List.eq_nil_or_concat' text.toList with hnil | ⟨front, c, hfront⟩
  · rw [hnil]
    rfl
  · rw [hfront, List.flatMap_append, List.flatMap_singleton,
      List.getLast?_append_of_ne_nil _ (upperForm_ne_nil c), upperForm_getLast?_iff hmark]
    simp

omit hmark in
theorem length_le_length_upperCase : text.length ≤ (upperCase text).length := by
  rw [← String.length_toList, ← String.length_toList, toList_upperCase]
  induction text.toList with
  | nil => exact Nat.le_refl 0
  | cons c rest ih =>
    have hform : 0 < (upperForm c).length := List.length_pos_iff.mpr (upperForm_ne_nil c)
    rw [List.flatMap_cons, List.length_append, List.length_cons]
    omega

end Text

/-! ## Names between double quotes -/

/-- A text starts and ends with double quotes, and not with one and the same. -/
structure IsBetweenQuotes (text : String) : Prop where
  head : text.toList.head? = some '"'
  last : text.toList.getLast? = some '"'
  length : 2 ≤ text.length

theorem isBetweenQuotes_quotedLabel (body : String) :
    IsBetweenQuotes (SelectItem.quotedLabel body) := by
  have hchars : (SelectItem.quotedLabel body).toList = '"' :: body.toList ++ ['"'] := by
    simp [SelectItem.quotedLabel]
  constructor
  · rw [hchars]
    rfl
  · rw [hchars, List.getLast?_concat]
  · simp only [SelectItem.quotedLabel, String.length_append]
    have hquote : "\"".length = 1 := rfl
    omega

/-- What starts with a double quote and has no second character is the double quote alone. -/
theorem eq_quote_of_head {text : String} (hhead : text.toList.head? = some '"')
    (hshort : text.length < 2) : text = "\"" := by
  rw [← String.length_toList] at hshort
  rw [← String.toList_inj]
  cases hchars : text.toList with
  | nil =>
    rw [hchars] at hhead
    exact absurd hhead (by decide)
  | cons first rest =>
    rw [hchars, List.length_cons] at hshort
    rw [hchars] at hhead
    obtain rfl : first = '"' := Option.some.inj hhead
    obtain rfl : rest = [] := List.length_eq_zero_iff.mp (by omega)
    rfl

theorem isQuoted_iff (text : String) : isQuoted text = true ↔ IsBetweenQuotes text := by
  have hlength : text.length = text.toList.length := String.length_toList.symm
  unfold isQuoted
  constructor
  · intro h
    split at h
    · rename_i rest hchars
      rw [beq_iff_eq] at h
      have hrest : rest ≠ [] := by
        rintro rfl
        exact absurd h (by decide)
      refine ⟨by rw [hchars]; rfl, ?_, ?_⟩
      · rw [hchars, List.getLast?_cons, h]
        rfl
      · rw [hlength, hchars, List.length_cons]
        have hpos : 0 < rest.length := List.length_pos_iff.mpr hrest
        omega
    · exact absurd h Bool.false_ne_true
  · rintro ⟨hhead, hlast, htwo⟩
    rw [hlength] at htwo
    cases hchars : text.toList with
    | nil =>
      rw [hchars] at hhead
      exact absurd hhead (by decide)
    | cons first rest =>
      rw [hchars] at hhead hlast htwo
      obtain rfl : first = '"' := Option.some.inj hhead
      cases rest with
      | nil => exact absurd htwo (by decide)
      | cons second rest =>
        rw [List.getLast?_cons_cons] at hlast
        exact beq_iff_eq.mpr hlast

namespace Conventions

variable (conventions : Conventions)

/-- Folding keeps a name between double quotes, and puts no other one there. -/
theorem isBetweenQuotes_folded (name : String) :
    IsBetweenQuotes (conventions.folded name) ↔ IsBetweenQuotes name := by
  have hmark : Text.IsMark '"' := by decide
  unfold folded
  split
  · constructor
    · rintro ⟨hhead, hlast, htwo⟩
      rw [Text.upperCase_head?_iff hmark] at hhead
      rw [Text.upperCase_getLast?_iff hmark] at hlast
      refine ⟨hhead, hlast, ?_⟩
      by_contra hshort
      -- the double quote alone stays alone
      rw [eq_quote_of_head hhead (Nat.lt_of_not_le hshort)] at htwo
      exact absurd htwo (by decide)
    · rintro ⟨hhead, hlast, htwo⟩
      exact ⟨(Text.upperCase_head?_iff hmark name).mpr hhead,
        (Text.upperCase_getLast?_iff hmark name).mpr hlast,
        Nat.le_trans htwo (Text.length_le_length_upperCase name)⟩
  · exact Iff.rfl

theorem folded_folded (name : String) :
    conventions.folded (conventions.folded name) = conventions.folded name := by
  unfold folded
  split
  · exact Text.upperCase_upperCase name
  · rfl

theorem folded_quotedLabel (body : String) :
    conventions.folded (SelectItem.quotedLabel body) =
      SelectItem.quotedLabel (conventions.folded body) := by
  unfold SelectItem.quotedLabel
  rw [folded_append, folded_append, folded_quote]

/-- A name between double quotes is only folded. -/
theorem identifier_of_isBetweenQuotes {name : String} (h : IsBetweenQuotes name) :
    conventions.identifier name = conventions.folded name := by
  have hfolded := (isQuoted_iff _).mpr ((conventions.isBetweenQuotes_folded name).mpr h)
  rw [identifier_eq, hfolded, Bool.not_true, Bool.and_false, if_neg Bool.false_ne_true]

/-- Every other name is quoted once, if names are quoted. -/
theorem identifier_of_not_isBetweenQuotes {name : String} (h : ¬ IsBetweenQuotes name)
    (hquoted : conventions.quoted = true) :
    conventions.identifier name = SelectItem.quotedLabel (conventions.folded name) := by
  have hfolded : isQuoted (conventions.folded name) = false := by
    rw [Bool.eq_false_iff, ne_eq, isQuoted_iff, isBetweenQuotes_folded]
    exact h
  rw [identifier_eq, hfolded, hquoted]
  rfl

theorem identifier_of_not_quoted (name : String) (h : conventions.quoted = false) :
    conventions.identifier name = conventions.folded name := by
  rw [identifier_eq, h, Bool.false_and, if_neg Bool.false_ne_true]

/-- Under all conventions an identifier is written as it is when it is written again. Where names
are quoted it stands between double quotes, and a name is put between them exactly if it does not
stand there already. -/
theorem identifier_idempotent (name : String) :
    conventions.identifier (conventions.identifier name) = conventions.identifier name ∧
      (conventions.quoted = true →
        IsBetweenQuotes (conventions.identifier name) ∧
        (¬ IsBetweenQuotes name →
          conventions.identifier name = SelectItem.quotedLabel (conventions.folded name))) ∧
      (IsBetweenQuotes name → conventions.identifier name = conventions.folded name) := by
  refine ⟨?_, ?_, conventions.identifier_of_isBetweenQuotes⟩
  · cases hquoted : conventions.quoted with
    | false =>
      rw [identifier_of_not_quoted _ _ hquoted, identifier_of_not_quoted _ _ hquoted,
        folded_folded]
    | true =>
      by_cases h : IsBetweenQuotes name
      · have hfolded := (conventions.isBetweenQuotes_folded name).mpr h
        rw [conventions.identifier_of_isBetweenQuotes h,
          conventions.identifier_of_isBetweenQuotes hfolded, folded_folded]
      · rw [conventions.identifier_of_not_isBetweenQuotes h hquoted,
          conventions.identifier_of_isBetweenQuotes (isBetweenQuotes_quotedLabel _),
          folded_quotedLabel, folded_folded]
  · intro hquoted
    refine ⟨?_, fun h => conventions.identifier_of_not_isBetweenQuotes h hquoted⟩
    by_cases h : IsBetweenQuotes name
    · rw [conventions.identifier_of_isBetweenQuotes h, isBetweenQuotes_folded]
      exact h
    · rw [conventions.identifier_of_not_isBetweenQuotes h hquoted]
      exact isBetweenQuotes_quotedLabel _

/-- A name whose upper case is longer, a name between double quotes, and the double quote alone. -/
theorem identifiers_idempotent :
    let conventions : Conventions := {}
    conventions.identifier "straße" = "\"STRASSE\"" ∧
      conventions.identifier "\"STRASSE\"" = "\"STRASSE\"" ∧
      conventions.identifier "\"Ab\"" = "\"AB\"" ∧
      IsBetweenQuotes (conventions.identifier "\"") ∧
      conventions.identifier "\"" = "\"\"\"" ∧
      conventions.identifier (conventions.identifier "\"") = conventions.identifier "\"" := by
  intro conventions
  have hquoted : IsBetweenQuotes "\"Ab\"" := ⟨by decide, by decide, by decide⟩
  have hfolded := (conventions.identifier_idempotent "\"Ab\"").2.2 hquoted
  have hstreet : conventions.identifier "straße" = "\"STRASSE\"" := by decide +kernel
  refine ⟨hstreet, ?_, ?_, ((conventions.identifier_idempotent "\"").2.1 rfl).1,
    by decide +kernel, (conventions.identifier_idempotent "\"").1⟩
  · rw [← hstreet]
    exact (conventions.identifier_idempotent "straße").1
  · rw [hfolded]
    decide +kernel

end Conventions

end QueryLoom
