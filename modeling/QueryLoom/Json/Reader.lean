import QueryLoom.Json
import QueryLoom.Decimal.Scaled
import QueryLoom.Text.Digits

/-!
# Reading JSON text

A reader of JSON texts: blanks are space, tab, line feed and carriage return, a text is one value,
and values nest at most 127 levels deep.

## Implementation notes

A numeral without fraction and exponent that fits in 64 bits is a whole number; `-0` is not, as
no whole number has a signed zero. Of any other numeral as many digits are kept as fit in 64 bits,
and the rest only moves the exponent. The fuel of the mutual readers is the length of the text.
-/

namespace QueryLoom.Json.Reader

/-- The text without the blanks at its start. -/
def skipSpace (text : List Char) : List Char :=
  text.dropWhile fun c => c == ' ' || c == '\t' || c == '\n' || c == '\r'

/-- The digits kept of a numeral and the power of ten that goes with them. -/
structure Significand where
  value : Nat
  exponent : Int

/-- Whether one more digit still fits in 64 bits. -/
def Significand.fits (s : Significand) (digit : Char) : Bool :=
  10 * s.value + (digit.toNat - 48) < UInt64.size

/-- Takes in digits in front of the point: from the first that does not fit, each counts as a
factor of ten. -/
def Significand.whole (s : Significand) : List Char → Significand
  | [] => s
  | c :: rest =>
    if s.fits c then Significand.whole { s with value := 10 * s.value + (c.toNat - 48) } rest
    else { s with exponent := s.exponent + (rest.length + 1) }

/-- Takes in digits behind the point: from the first that does not fit, all are passed over. -/
def Significand.fraction (s : Significand) : List Char → Significand
  | [] => s
  | c :: rest =>
    if s.fits c then
      Significand.fraction ⟨10 * s.value + (c.toNat - 48), s.exponent - 1⟩ rest
    else s

/-- The digits in front of the point: a single zero, or digits that do not start with one. -/
def integerDigits? (text : List Char) : Option (List Char × List Char) :=
  match text.takeWhile Char.isDigit with
  | [] => none
  | ['0'] => some (['0'], text.drop 1)
  | '0' :: _ => none
  | digits => some (digits, text.drop digits.length)

/-- The digits behind the point, at least one after a point; nothing without a point. -/
def fractionDigits? : List Char → Option (Option (List Char) × List Char)
  | '.' :: text =>
    match text.takeWhile Char.isDigit with
    | [] => none
    | digits => some (some digits, text.drop digits.length)
  | text => some (none, text)

/-- The power of ten behind an `e` or `E`; nothing without one. -/
def power? : List Char → Option (Option Int × List Char)
  | 'e' :: text | 'E' :: text =>
    let (negative, text) := match text with
      | '-' :: rest => (true, rest)
      | '+' :: rest => (false, rest)
      | rest => (false, rest)
    match text.takeWhile Char.isDigit with
    | [] => none
    | digits =>
      let power : Int := Text.decimalValue digits
      some (some (if negative then -power else power), text.drop digits.length)
  | text => some (none, text)

/-- Reads a numeral. -/
def number? (text : List Char) : Option (JsonNumber × List Char) := do
  let (negative, text) := match text with
    | '-' :: rest => (true, rest)
    | rest => (false, rest)
  let (integer, text) ← integerDigits? text
  let (fraction, text) ← fractionDigits? text
  let (power, text) ← power? text
  let value : Int := if negative then -Text.decimalValue integer else Text.decimalValue integer
  let fits :=
    if negative then Int64.minValue.toInt ≤ value && value < 0 else value < UInt64.size
  if fraction.isNone && power.isNone && fits then return (.whole value, text)
  else
    let kept := ((⟨0, 0⟩ : Significand).whole integer).fraction (fraction.getD [])
    let x ← Decimal.scaled? negative (UInt64.ofNat kept.value) (kept.exponent + power.getD 0)
    return (.real x, text)

/-- Reads the four hexadecimal digits of an escape. -/
def unit? : List Char → Option (Nat × List Char)
  | a :: b :: c :: d :: rest => do
    return (((← Text.hexValue? a) * 16 + (← Text.hexValue? b)) * 256 +
      (← Text.hexValue? c) * 16 + (← Text.hexValue? d), rest)
  | _ => none

/-- Reads what follows the `\u` of an escape: one unit, or a pair of surrogates. -/
def escapedUnit? (text : List Char) : Option (Char × List Char) := do
  let (high, rest) ← unit? text
  if 0xDC00 ≤ high && high ≤ 0xDFFF then none
  else if 0xD800 ≤ high && high ≤ 0xDBFF then
    match rest with
    | '\\' :: 'u' :: rest =>
      let (low, rest) ← unit? rest
      if 0xDC00 ≤ low && low ≤ 0xDFFF then
        return (Char.ofNat (0x10000 + (high - 0xD800) * 0x400 + (low - 0xDC00)), rest)
      else none
    | _ => none
  else return (Char.ofNat high, rest)

/-- The character that a one-letter escape stands for. -/
def escape? : Char → Option Char
  | '"' => some '"'
  | '\\' => some '\\'
  | '/' => some '/'
  | 'b' => some '\x08'
  | 'f' => some '\x0c'
  | 'n' => some '\n'
  | 'r' => some '\r'
  | 't' => some '\t'
  | _ => none

/-- Reads the rest of a string up to its closing quote; `read` holds what was read, reversed. -/
def string? : Nat → List Char → List Char → Option (String × List Char)
  | 0, _, _ => none
  | fuel + 1, read, text =>
    match text with
    | '"' :: rest => some (String.ofList read.reverse, rest)
    | '\\' :: 'u' :: rest => do
      let (c, rest) ← escapedUnit? rest
      string? fuel (c :: read) rest
    | '\\' :: letter :: rest => do
      string? fuel ((← escape? letter) :: read) rest
    | c :: rest => if c.toNat < 32 then none else string? fuel (c :: read) rest
    | [] => none

/-- Takes a given word off the start of a text. -/
def word? (word : String) (text : List Char) : Option (List Char) :=
  if word.toList.isPrefixOf text then some (text.drop word.length) else none

mutual
/-- Reads a value that may nest `levels` levels. -/
def value? (fuel levels : Nat) (text : List Char) : Option (Json × List Char) :=
  match fuel with
  | 0 => none
  | fuel + 1 =>
    match skipSpace text with
    | [] => none
    | 'n' :: rest => (word? "ull" rest).map (Json.null, ·)
    | 't' :: rest => (word? "rue" rest).map (Json.bool true, ·)
    | 'f' :: rest => (word? "alse" rest).map (Json.bool false, ·)
    | '"' :: rest => (string? (rest.length + 1) [] rest).map fun (s, rest) => (Json.string s, rest)
    | '[' :: rest =>
      match levels, skipSpace rest with
      | 0, _ => none
      | _ + 1, ']' :: rest => some (.array [], rest)
      | levels + 1, rest => (items? fuel levels rest).map fun (items, rest) => (.array items, rest)
    | '\x7b' :: rest =>
      match levels, skipSpace rest with
      | 0, _ => none
      | _ + 1, '\x7d' :: rest => some (.object [], rest)
      | levels + 1, rest =>
        (members? fuel levels rest).map fun (members, rest) => (.object members, rest)
    | rest => (number? rest).map fun (n, rest) => (.number n, rest)
termination_by structural fuel

/-- Reads the elements of an array and its closing bracket. -/
def items? (fuel levels : Nat) (text : List Char) : Option (List Json × List Char) :=
  match fuel with
  | 0 => none
  | fuel + 1 => do
    let (item, rest) ← value? fuel levels text
    match skipSpace rest with
    | ']' :: rest => return ([item], rest)
    | ',' :: rest =>
      let (items, rest) ← items? fuel levels rest
      return (item :: items, rest)
    | _ => none
termination_by structural fuel

/-- Reads the members of an object and its closing brace. -/
def members? (fuel levels : Nat) (text : List Char) : Option (List (String × Json) × List Char) :=
  match fuel with
  | 0 => none
  | fuel + 1 =>
    match skipSpace text with
    | '"' :: rest => do
      let (name, rest) ← string? (rest.length + 1) [] rest
      match skipSpace rest with
      | ':' :: rest =>
        let (value, rest) ← value? fuel levels rest
        match skipSpace rest with
        | '\x7d' :: rest => return ([(name, value)], rest)
        | ',' :: rest =>
          let (members, rest) ← members? fuel levels rest
          return ((name, value) :: members, rest)
        | _ => none
      | _ => none
    | _ => none
termination_by structural fuel
end

end QueryLoom.Json.Reader

namespace QueryLoom

/-- The value that a JSON text writes. -/
def Json.parse? (text : String) : Option Json := do
  let cs := text.toList
  let (json, rest) ← Json.Reader.value? (cs.length + 1) 127 cs
  if (Json.Reader.skipSpace rest).isEmpty then return json else none

end QueryLoom
