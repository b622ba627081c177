import QueryLoom.Decimal.Shortest

/-!
# Written numbers

The text of a double-precision number: its shortest decimal, written positionally or with an
exponent. A `Style` holds the decisions of one format.
-/

namespace QueryLoom.Decimal

/-- The decisions of one number format. -/
structure Style where
  tie : Tie
  /-- Whether a whole number is followed by `.0`. -/
  wholePoint : Bool
  /-- The places of the first digit, exclusive and inclusive, between which notation is
  positional; without bounds it always is. -/
  positional : Option (Int × Int)
deriving Repr, DecidableEq

/-- Positional notation of a decimal. -/
def positional (wholePoint : Bool) (d : Decimal) : String :=
  let digits := (toString d.digits).toList
  if 0 ≤ d.exponent then
    String.ofList (digits ++ List.replicate d.exponent.toNat '0') ++ if wholePoint then ".0" else ""
  else
    let places := (-d.exponent).toNat
    let full := List.replicate (places + 1 - digits.length) '0' ++ digits
    let whole := full.length - places
    String.ofList (full.take whole ++ '.' :: full.drop whole)

/-- Notation with one digit before the point and a power of ten behind it. -/
def scientific (d : Decimal) : String :=
  match (toString d.digits).toList with
  | [] => ""
  | first :: rest =>
    let power := toString (d.exponent + rest.length)
    String.ofList (first :: if rest.isEmpty then [] else '.' :: rest) ++ "e" ++ power

/-- Writes a decimal in a style. -/
def Style.write (style : Style) (d : Decimal) : String :=
  match style.positional with
  | none => d.positional style.wholePoint
  | some (low, high) =>
    let place := (toString d.digits).length + d.exponent
    if low < place && place ≤ high then d.positional style.wholePoint else d.scientific

/-- The text of a double-precision number in a style. -/
def Style.render (style : Style) (x : Float) : String :=
  let sign (negative : Bool) := if negative then "-" else ""
  match shape x with
  | .nan => "NaN"
  | .infinite negative => sign negative ++ "inf"
  | .zero negative => sign negative ++ if style.wholePoint then "0.0" else "0"
  | .finite negative size => sign negative ++ style.write (size.shortest style.tie)

/-- Always positional, without a point after a whole number; a tie goes up. -/
def plain : Style := ⟨.up, false, none⟩

/-- Positional while the point stands within the first sixteen digits or after at most four
zeros, with at least one digit after the point; a tie goes to the even neighbour. -/
def json : Style := ⟨.toEven, true, some (-5, 16)⟩

end QueryLoom.Decimal
