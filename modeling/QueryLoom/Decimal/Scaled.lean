/-!
# Scaled decimals

The double-precision number read from a decimal numeral with a significand of at most 64 bits: the
significand is rounded once, then multiplied or divided by a power of ten.

## Implementation notes

A power of ten beyond `10 ^ 308` has no double-precision form. A division takes such a power in
steps; a multiplication refuses it, unless the significand is zero.
-/

namespace QueryLoom.Decimal

/-- The double-precision number nearest to `10 ^ power`, for powers up to 308. -/
def powerOfTen (power : Nat) : Float :=
  Float.ofScientific 1 false power

/-- Divides by a power of ten in steps of `10 ^ 308`. A 64-bit significand is spent after two. -/
def divideByPower (x : Float) (power : Nat) : Float :=
  if power ≤ 308 then x / powerOfTen power
  else if power ≤ 616 then x / powerOfTen 308 / powerOfTen (power - 308)
  else 0

/-- The double-precision number read from `significand * 10 ^ exponent`, with a sign in front;
nothing if it is too large. -/
def scaled? (negative : Bool) (significand : UInt64) (exponent : Int) : Option Float :=
  let signed (x : Float) := if negative then -x else x
  let x := significand.toFloat
  match exponent with
  | .negSucc n => some (signed (divideByPower x (n + 1)))
  | .ofNat n =>
    if significand == 0 then some (signed 0)
    else if 308 < n then none
    else
      let product := x * powerOfTen n
      if product.isInf then none else some (signed product)

/-- The double-precision number nearest to a whole number of at most 64 bits. -/
def ofInt (n : Int) : Float :=
  if n < 0 then -(UInt64.ofNat n.natAbs).toFloat else (UInt64.ofNat n.natAbs).toFloat

end QueryLoom.Decimal
