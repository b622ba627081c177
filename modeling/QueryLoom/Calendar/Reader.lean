import QueryLoom.Calendar.DateTime
import QueryLoom.Text.Blank

/-!
# Reading dates and times

The reader accepts `YYYY-MM-DD`, and `YYYY-MM-DDTHH:MM:SS` with a fraction.

## Implementation notes

Blanks are allowed around every number. A year without a sign has at most four digits, any number
of them with one; the other numbers have one or two digits. Digits of a fraction beyond the ninth
are passed over.
-/

namespace QueryLoom.Calendar

open Text

/-- Reads a number of at most `width` digits, with blanks before and after it. -/
def readNumber? (width : Nat) (text : List Char) : Option (Nat × List Char) := do
  let (digits, rest) ← readDigits? width (skipBlanks text)
  return (decimalValue digits, skipBlanks rest)

/-- Reads a year. -/
def readYear? (text : List Char) : Option (Int × List Char) :=
  match skipBlanks text with
  | '-' :: rest => do
    let (digits, rest) ← readDigits? rest.length rest
    return (-decimalValue digits, skipBlanks rest)
  | '+' :: rest => do
    let (digits, rest) ← readDigits? rest.length rest
    return (decimalValue digits, skipBlanks rest)
  | rest => do
    let (digits, rest) ← readDigits? 4 rest
    return (decimalValue digits, skipBlanks rest)

/-- Reads one given character. -/
def expect? (c : Char) : List Char → Option (List Char)
  | [] => none
  | first :: rest => if first = c then some rest else none

/-- Reads a date at the start of a text. -/
def readDate? (text : List Char) : Option (Date × List Char) := do
  let (year, rest) ← readYear? text
  let (month, rest) ← readNumber? 2 (← expect? '-' rest)
  let (day, rest) ← readNumber? 2 (← expect? '-' rest)
  return (← Date.of? year month day, rest)

/-- Reads the fraction of a second, in nanoseconds; none is zero. -/
def readFraction? : List Char → Option (Nat × List Char)
  | '.' :: text => do
    let (digits, rest) ← readDigits? 9 text
    return (decimalValue digits * Nat.pow 10 (9 - digits.length), rest.dropWhile Char.isDigit)
  | text => some (0, text)

/-- Reads hour, minute, second and fraction. -/
def readTime? (text : List Char) : Option (Time × List Char) := do
  let (hour, rest) ← readNumber? 2 text
  let (minute, rest) ← readNumber? 2 (← expect? ':' rest)
  let (digits, rest) ← readDigits? 2 (skipBlanks (← expect? ':' rest))
  let (nanosecond, rest) ← readFraction? rest
  return (← Time.of? hour minute (decimalValue digits) nanosecond, skipBlanks rest)

end QueryLoom.Calendar

namespace QueryLoom

/-- The date that a whole text writes. -/
def Date.parse? (text : String) : Option Date := do
  let (date, rest) ← Calendar.readDate? text.toList
  if rest.isEmpty then return date else none

/-- The moment that a whole text writes. -/
def DateTime.parse? (text : String) : Option DateTime := do
  let (date, rest) ← Calendar.readDate? text.toList
  let (time, rest) ← Calendar.readTime? (← Calendar.expect? 'T' rest)
  if rest.isEmpty then return ⟨date, time⟩ else none

end QueryLoom
