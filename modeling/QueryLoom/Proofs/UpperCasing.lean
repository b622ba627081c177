import QueryLoom.Text.UpperCase

/-!
# Upper-casing, marks and repetition

Upper-casing neither makes nor loses a mark: a blank, a digit or a sign of punctuation that stands
in front of the letters in ASCII. A text in upper case is left as it is by another upper-casing.

## Implementation notes

What a run of the table maps to is compared with each other run as a whole, by the ends of both, and
by odd and even where capital and small letters alternate. A comparison letter by letter takes the
kernel twenty times as long.
-/

namespace QueryLoom.Text

/-- A character from the blank up to the ASCII letters. -/
def IsMark (c : Char) : Prop := ' '.toNat ≤ c.toNat ∧ c.toNat < 'A'.toNat

instance (c : Char) : Decidable (IsMark c) := inferInstanceAs (Decidable (_ ∧ _))

theorem upperCase_append (a b : String) : upperCase (a ++ b) = upperCase a ++ upperCase b := by
  rw [← String.toList_inj]
  simp only [toList_upperCase, String.toList_append, List.flatMap_append]

/-- Beyond ASCII nothing is mapped in front of the letters. -/
theorem le_of_mem_upperCodes {code upper : Nat} (h : 128 ≤ code) (hmem : upper ∈ upperCodes code) :
    'A'.toNat ≤ upper := by
  have hexpansions : ∀ expansion ∈ caseExpansions, ∀ upper ∈ expansion.2, 'A'.toNat ≤ upper := by
    decide +kernel
  have hruns : ∀ run ∈ caseRuns,
      run.last < 128 ∨ ('A'.toNat : Int) ≤ (run.first : Int) + run.shift := by
    decide +kernel
  have hletter : 'A'.toNat = 65 := rfl
  unfold upperCodes at hmem
  split at hmem
  · rename_i codes hfind
    exact hexpansions _ (List.mem_of_find?_eq_some hfind) upper hmem
  · split at hmem
    · rename_i run hfind
      have hcontains := List.find?_some hfind
      simp only [CaseRun.contains, Bool.and_eq_true, decide_eq_true_eq] at hcontains
      rw [List.mem_singleton] at hmem
      rcases hruns run (List.mem_of_find?_eq_some hfind) with hlast | hshift <;> omega
    · rw [List.mem_singleton] at hmem
      omega

/-- No character but a mark has that mark in its upper-case form. -/
theorem mem_upperForm_iff {mark c : Char} (hmark : IsMark mark) :
    mark ∈ upperForm c ↔ c = mark := by
  have hascii : ∀ code < 128, IsMark (Char.ofNat code).toUpper ∨ IsMark (Char.ofNat code) →
      (Char.ofNat code).toUpper = Char.ofNat code := by
    decide +kernel
  have hblank : ' '.toNat = 32 := rfl
  have hletter : 'A'.toNat = 65 := rfl
  unfold upperForm
  split
  · rename_i hc
    have hcode := hascii c.toNat hc
    rw [Char.ofNat_toNat] at hcode
    rw [List.mem_singleton]
    constructor
    · rintro rfl
      exact (hcode (.inl hmark)).symm
    · rintro rfl
      exact (hcode (.inr hmark)).symm
  · rename_i hc
    obtain ⟨hlow, hhigh⟩ := hmark
    refine iff_of_false ?_ ?_
    · intro h
      obtain ⟨code, hmem, rfl⟩ := List.mem_map.mp h
      have hupper := le_of_mem_upperCodes (Nat.le_of_not_lt hc) hmem
      -- what is no code point becomes the null character, which is no mark
      by_cases hvalid : code.isValidChar
      · have hcode : (Char.ofNat code).toNat = code := congrArg Char.toNat (dif_pos hvalid)
        omega
      · have hcode : (Char.ofNat code).toNat = 0 := congrArg Char.toNat (dif_neg hvalid)
        omega
    · rintro rfl
      omega

/-- A mark stands in an upper-cased text exactly if it stands in the text. -/
theorem mem_upperCase_iff {mark : Char} (hmark : IsMark mark) (text : String) :
    mark ∈ (upperCase text).toList ↔ mark ∈ text.toList := by
  rw [toList_upperCase, List.mem_flatMap]
  simp only [mem_upperForm_iff hmark, exists_eq_right]

/-! ## Upper-casing twice -/

/-- No code point from the first to the last is a member of a run; every second one of them counts
only, if they alternate. -/
def CaseRun.avoids (first last : Nat) (alternating : Bool) (run : CaseRun) : Bool :=
  Nat.blt last run.first || Nat.blt run.last first ||
    alternating && run.step == 2 && (first + run.first) % 2 == 1

/-- No code point from the first to the last has another upper-case form; every second one of them
counts only, if they alternate. -/
def keptByTables (first last : Nat) (alternating : Bool) : Bool :=
  caseRuns.all (CaseRun.avoids first last alternating) &&
    caseExpansions.all fun expansion => Nat.blt last expansion.1 || Nat.blt expansion.1 first

theorem upperCodes_of_keptByTables {first last code : Nat} {alternating : Bool}
    (h : keptByTables first last alternating = true) (hfirst : first ≤ code) (hlast : code ≤ last)
    (hparity : alternating = true → (code - first) % 2 = 0) : upperCodes code = [code] := by
  simp only [keptByTables, Bool.and_eq_true, List.all_eq_true] at h
  obtain ⟨hruns, hexpansions⟩ := h
  have hexpansion : caseExpansions.find? (·.1 == code) = none := by
    rw [List.find?_eq_none]
    intro expansion hmem
    have hout := hexpansions expansion hmem
    simp only [Bool.or_eq_true, Nat.blt_eq] at hout
    rw [beq_iff_eq]
    omega
  have hrun : caseRuns.find? (·.contains code) = none := by
    rw [List.find?_eq_none]
    intro run hmem hcontains
    have hout := hruns run hmem
    simp only [CaseRun.avoids, Bool.or_eq_true, Bool.and_eq_true, Nat.blt_eq, beq_iff_eq] at hout
    simp only [CaseRun.contains, Bool.and_eq_true, decide_eq_true_eq, beq_iff_eq] at hcontains
    rcases hout with (hbelow | habove) | ⟨⟨halternating, hstep⟩, hodd⟩
    · omega
    · omega
    · have heven := hparity halternating
      rw [hstep] at hcontains
      omega
  rw [upperCodes, hexpansion, hrun]

/-- An upper-case form is its own upper-case form. -/
theorem upperCodes_of_mem {code upper : Nat} (h : upper ∈ upperCodes code) :
    upperCodes upper = [upper] := by
  have hexpansions : (caseExpansions.all fun expansion =>
      expansion.2.all fun upper => keptByTables upper upper false) = true := by
    decide +kernel
  have hruns : (caseRuns.all fun run =>
      keptByTables (run.first + run.shift).toNat (run.last + run.shift).toNat
        (run.step == 2 || run.first == run.last)) = true := by
    decide +kernel
  have hshifts : ∀ run ∈ caseRuns, 0 ≤ (run.first : Int) + run.shift := by
    decide +kernel
  rw [List.all_eq_true] at hexpansions hruns
  unfold upperCodes at h
  split at h
  · rename_i codes hfind
    have hkept := hexpansions _ (List.mem_of_find?_eq_some hfind)
    rw [List.all_eq_true] at hkept
    exact upperCodes_of_keptByTables (hkept upper h) (Nat.le_refl _) (Nat.le_refl _) (by simp)
  · rename_i hexpansion
    split at h
    · rename_i run hfind
      have hmem := List.mem_of_find?_eq_some hfind
      have hshift := hshifts run hmem
      have hcontains := List.find?_some hfind
      simp only [CaseRun.contains, Bool.and_eq_true, decide_eq_true_eq, beq_iff_eq] at hcontains
      obtain rfl := List.mem_singleton.mp h
      refine upperCodes_of_keptByTables (hruns run hmem) (by omega) (by omega) ?_
      intro halternating
      rw [Bool.or_eq_true, beq_iff_eq, beq_iff_eq] at halternating
      rcases halternating with hstep | hone
      · rw [hstep] at hcontains
        omega
      · omega
    · rename_i hrun
      obtain rfl := List.mem_singleton.mp h
      rw [upperCodes, hexpansion, hrun]

/-- The tables hold the forms of all characters, those of ASCII included. -/
theorem upperForm_eq (c : Char) : upperForm c = (upperCodes c.toNat).map Char.ofNat := by
  unfold upperForm
  split
  · rename_i hascii
    rw [upperForm_ascii c.toNat hascii, Char.ofNat_toNat]
  · rfl

/-- A character of an upper-case form is its own upper-case form. -/
theorem upperForm_of_mem {c upper : Char} (h : upper ∈ upperForm c) : upperForm upper = [upper] := by
  rw [upperForm_eq] at h
  obtain ⟨code, hmem, rfl⟩ := List.mem_map.mp h
  -- what is no code point becomes the null character
  by_cases hvalid : code.isValidChar
  · have hcode : (Char.ofNat code).toNat = code := congrArg Char.toNat (dif_pos hvalid)
    rw [upperForm_eq, hcode, upperCodes_of_mem hmem]
    rfl
  · have hnull : Char.ofNat code = '\x00' := dif_neg hvalid
    rw [hnull]
    decide

/-- Upper-casing leaves a text in upper case as it is. -/
theorem upperCase_upperCase (text : String) : upperCase (upperCase text) = upperCase text := by
  rw [← String.toList_inj, toList_upperCase, toList_upperCase, List.flatMap_assoc]
  congr
  funext c
  calc (upperForm c).flatMap upperForm
    _ = (upperForm c).flatMap fun upper => [upper] := by
      rw [List.flatMap_def, List.flatMap_def,
        List.map_congr_left fun upper hupper => upperForm_of_mem hupper]
    _ = upperForm c := List.flatMap_singleton' _

end QueryLoom.Text
