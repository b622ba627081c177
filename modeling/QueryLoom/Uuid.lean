import QueryLoom.Text.Digits

/-!
# UUIDs

A UUID is 128 bits. It is read from four spellings and written in one, and its sixteen octets are
its bits from the most significant down.
-/

namespace QueryLoom

/-- A universally unique identifier. -/
structure Uuid where
  bits : BitVec 128
deriving DecidableEq

namespace Uuid

/-- The octets of a UUID, the most significant first. -/
def octets (uuid : Uuid) : List UInt8 :=
  (List.range 16).map fun i => UInt8.ofNat (uuid.bits.toNat / Nat.pow 256 (15 - i))

/-- There are sixteen octets. -/
@[simp] theorem length_octets (uuid : Uuid) : uuid.octets.length = 16 := by
  simp [octets]

/-- The written form: lower-case digits in groups of eight, four, four, four and twelve. -/
def render (uuid : Uuid) : String :=
  let digits := uuid.octets.flatMap (Text.hexByte false)
  let group (start length : Nat) := String.ofList ((digits.drop start).take length)
  "-".intercalate [group 0 8, group 8 4, group 12 4, group 16 4, group 20 12]

/-- The UUID of 32 hexadecimal digits. -/
def ofDigits? (digits : List Char) : Option Uuid := do
  let values ← digits.mapM Text.hexValue?
  if values.length = 32 then
    return ⟨BitVec.ofNat 128 (values.foldl (fun total value => 16 * total + value) 0)⟩
  else none

/-- The digits of the form with hyphens after the eighth, twelfth, sixteenth and twentieth. -/
def hyphenated? (text : List Char) : Option (List Char) :=
  let group (start length : Nat) := (text.drop start).take length
  if text.length = 36 && [8, 13, 18, 23].all (fun i => text[i]? == some '-') then
    some (group 0 8 ++ group 9 4 ++ group 14 4 ++ group 19 4 ++ group 24 12)
  else none

/-- The UUID that a text writes: 32 digits, or the hyphenated form, alone, in braces or after
`urn:uuid:`. -/
def parse? (text : String) : Option Uuid := do
  let cs := text.toList
  if cs.length = 32 then ofDigits? cs
  else if cs.length = 38 && cs.head? == some '\x7b' && cs.getLast? == some '\x7d' then
    ofDigits? (← hyphenated? ((cs.drop 1).take 36))
  else if cs.length = 45 && cs.take 9 == "urn:uuid:".toList then
    ofDigits? (← hyphenated? (cs.drop 9))
  else ofDigits? (← hyphenated? cs)

end Uuid

end QueryLoom
