/-!
# Digits

Fixed-width decimal and hexadecimal numerals, and the reading of a run of digits.
-/

namespace QueryLoom.Text

/-- The decimal numeral of a number, padded with zeros at the left to `width` digits. -/
def padded (width number : Nat) : String :=
  let digits := toString number
  String.ofList (List.replicate (width - digits.length) '0') ++ digits

/-- The digit for a value below sixteen, with capital letters on request. -/
def hexDigit (capital : Bool) (value : Nat) : Char :=
  if value < 10 then Char.ofNat (48 + value)
  else Char.ofNat ((if capital then 55 else 87) + value)

/-- The two hexadecimal digits of an octet. -/
def hexByte (capital : Bool) (octet : UInt8) : List Char :=
  [hexDigit capital (octet.toNat / 16), hexDigit capital (octet.toNat % 16)]

/-- The value of a hexadecimal digit of either case. -/
def hexValue? (c : Char) : Option Nat :=
  if c.isDigit then some (c.toNat - 48)
  else if 'a' ≤ c && c ≤ 'f' then some (c.toNat - 87)
  else if 'A' ≤ c && c ≤ 'F' then some (c.toNat - 55)
  else none

/-- The number written by decimal digits. -/
def decimalValue (digits : List Char) : Nat :=
  digits.foldl (fun value c => 10 * value + (c.toNat - 48)) 0

/-- Reads the longest run of at most `width` decimal digits, one at least. -/
def readDigits? (width : Nat) (text : List Char) : Option (List Char × List Char) :=
  match (text.take width).takeWhile Char.isDigit with
  | [] => none
  | digits => some (digits, text.drop digits.length)

/-- A hexadecimal digit reads back as its value. -/
theorem hexValue?_hexDigit : ∀ capital : Bool, ∀ value < 16,
    hexValue? (hexDigit capital value) = some value := by
  decide

end QueryLoom.Text
