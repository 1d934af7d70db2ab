import Vetting.Number.Binary

/-!
# Rounding to a number of places

The exact value of the double is rounded to the grid of `10 ^ -places`, a tie going to the even
neighbour, and the double nearest to the result is taken.
-/

namespace Vetting.Number

/-- The quotient rounded to the nearest whole number, a tie to the even one. -/
def divideToEven (numerator denominator : Nat) : Nat :=
  let floor := numerator / denominator
  let twice := 2 * (numerator % denominator)
  if twice < denominator then floor
  else if denominator < twice then floor + 1
  else if floor % 2 == 0 then floor
  else floor + 1

/-- The double nearest to a decimal, with a sign. -/
def ofDecimal (negative : Bool) (digits : Nat) (exponent : Int) : Float :=
  let size := Float.ofScientific digits (exponent < 0) exponent.natAbs
  if negative then -size else size

/-- The number with that many decimal places; infinities and NaN stay as they are. -/
def rounded (x : Float) (places : Nat) : Float :=
  match Binary.ofFloat? x with
  | none => x
  | some b =>
    let numerator := b.mantissa * Nat.pow 2 b.exponent.toNat * Nat.pow 10 places
    let rounded := divideToEven numerator (Nat.pow 2 (-b.exponent).toNat)
    ofDecimal b.negative rounded (-places)

end Vetting.Number
