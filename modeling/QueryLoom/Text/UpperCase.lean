import QueryLoom.Text.UpperCase.Table

/-!
# Full upper-casing

`upperCase` replaces every character of a text by its full upper-case form, independent of
locale and context. A form may be longer than its character: `ß` becomes `SS`.

## Implementation notes

ASCII letters are answered without the table; `upperForm_ascii` says that the table agrees.
-/

namespace QueryLoom.Text

/-- The upper-case code points of a code point, read off the tables. -/
def upperCodes (code : Nat) : List Nat :=
  match caseExpansions.find? (·.1 == code) with
  | some (_, codes) => codes
  | none =>
    match caseRuns.find? (·.contains code) with
    | some run => [(code + run.shift).toNat]
    | none => [code]

/-- The upper-case form of a character. -/
def upperForm (c : Char) : List Char :=
  if c.toNat < 128 then [c.toUpper] else (upperCodes c.toNat).map Char.ofNat

/-- The text with every character in its upper-case form. -/
def upperCase (text : String) : String :=
  String.ofList (text.toList.flatMap upperForm)

/-- On ASCII the tables and the case map of the core library agree. -/
theorem upperForm_ascii : ∀ code < 128, (upperCodes code).map Char.ofNat =
    [(Char.ofNat code).toUpper] := by
  decide +kernel

/-- Upper-casing acts character by character. -/
@[simp] theorem toList_upperCase (text : String) :
    (upperCase text).toList = text.toList.flatMap upperForm := by
  simp [upperCase]

end QueryLoom.Text
