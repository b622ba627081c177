/-!
# Shortest decimals

The decimal with the fewest digits that a binary floating-point number's own rounding interval
contains. Of the decimals with that many digits in the interval, the one nearest to the number is
taken; which of two equally near ones wins is a parameter.

## Implementation notes

A finite positive number is `m * 2 ^ q` with a whole significand. The reals that round to it are
measured in quarters of its last place: half a place up, and half a place down, or a quarter of a
place down where the spacing of the numbers changes. Comparisons are exact, on natural numbers.
-/

namespace QueryLoom

/-- The decimal `digits * 10 ^ exponent`. -/
structure Decimal where
  digits : Nat
  exponent : Int
deriving Repr, DecidableEq

namespace Decimal

/-- Which of two equally near decimals is chosen. -/
inductive Tie where
  | up
  | toEven
deriving Repr, DecidableEq

/-- A finite positive binary number `significand * 2 ^ exponent`. -/
structure Binary where
  significand : Nat
  exponent : Int
  /-- The number below lies only half as far away as the number above. -/
  narrowBelow : Bool
deriving Repr, DecidableEq

/-- `a * 2 ^ i` and `b * 10 ^ j` brought to a common denominator. -/
def align (a : Nat) (i : Int) (b : Nat) (j : Int) : Nat × Nat :=
  (a * Nat.pow 2 i.toNat * Nat.pow 10 (-j).toNat, b * Nat.pow 10 j.toNat * Nat.pow 2 (-i).toNat)

/-- Whether the decimal rounds to the binary number; the ends of the interval belong to it when
the significand is even. -/
def Binary.rounds (x : Binary) (d : Decimal) : Bool :=
  let closed := x.significand % 2 == 0
  let low := align (4 * x.significand - if x.narrowBelow then 1 else 2) (x.exponent - 2)
    d.digits d.exponent
  let high := align (4 * x.significand + 2) (x.exponent - 2) d.digits d.exponent
  (low.1 < low.2 || (closed && low.1 == low.2)) && (high.2 < high.1 || (closed && high.2 == high.1))

/-- The place of the first digit: the least `p` with the number below `10 ^ p`. -/
def Binary.magnitude (x : Binary) : Int :=
  let scaled :=
    x.significand * Nat.pow 2 x.exponent.toNat * Nat.pow 10 400 / Nat.pow 2 (-x.exponent).toNat
  ((toString scaled).length : Int) - 400

/-- The decimal on the grid of spacing `10 ^ place` that rounds to the number, if there is one:
one of the number's two neighbours on that grid. -/
def Binary.onGrid? (tie : Tie) (x : Binary) (place : Int) : Option Decimal :=
  let (value, unit) := align x.significand x.exponent 1 place
  let below := value / unit
  let lower : Decimal := ⟨below, place⟩
  let upper : Decimal := ⟨below + 1, place⟩
  let rest := 2 * (value % unit)
  let preferUpper := unit < rest || (rest == unit && (tie == .up || below % 2 == 1))
  match x.rounds lower, x.rounds upper with
  | true, true => some (if preferUpper then upper else lower)
  | true, false => some lower
  | false, true => some upper
  | false, false => none

/-- Moves trailing zeros of the digits into the exponent. -/
def trim : Nat → Decimal → Decimal
  | 0, d => d
  | fuel + 1, d =>
    if d.digits ≠ 0 && d.digits % 10 == 0 then trim fuel ⟨d.digits / 10, d.exponent + 1⟩
    else d

/-- The shortest decimal of a number: of grids of growing fineness, the first with a hit. Every
number has a hit among its first seventeen. -/
def Binary.shortest (tie : Tie) (x : Binary) : Decimal :=
  let magnitude := x.magnitude
  let hit := (List.range 17).findSome? fun n => x.onGrid? tie (magnitude - (n + 1 : Nat))
  trim 20 (hit.getD ⟨0, 0⟩)

/-- What a double-precision number is. -/
inductive Shape where
  | nan
  | infinite (negative : Bool)
  | zero (negative : Bool)
  | finite (negative : Bool) (size : Binary)
deriving Repr, DecidableEq

/-- The parts of a double-precision number, read off its bits. -/
def shape (x : Float) : Shape :=
  let bits := x.toBits.toNat
  let hidden := Nat.pow 2 52
  let negative := bits / Nat.pow 2 63 == 1
  let biased : Nat := bits / hidden % 2048
  let fraction : Nat := bits % hidden
  if biased == 2047 then if fraction == 0 then .infinite negative else .nan
  else if biased == 0 then
    if fraction == 0 then .zero negative else .finite negative ⟨fraction, -1074, false⟩
  else .finite negative ⟨hidden + fraction, (biased : Int) - 1075, fraction == 0 && 1 < biased⟩

end Decimal

end QueryLoom
