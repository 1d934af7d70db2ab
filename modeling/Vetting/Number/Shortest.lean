import Vetting.Number.Binary

/-!
# The shortest decimal that reads back

Between two neighbouring doubles lies an interval of numbers that round to the same double.  The decimal
with the fewest digits in that interval stands for the double; of two such decimals the nearer one, and
of two equally near ones the larger one.
-/

namespace Vetting.Number

/-- A positive decimal `0.d₁d₂…dₙ · 10 ^ point`, without zeros at either end. -/
structure Decimal where
  digits : List Char
  point : Int
deriving DecidableEq

namespace Decimal

/-- The digits of a natural number, most significant first. -/
def digitsOf (n : Nat) : List Char :=
  Nat.toDigits 10 n

/-- The decimal `n · 10 ^ exponent`. -/
def ofNat (n : Nat) (exponent : Int) : Decimal :=
  let written := digitsOf n
  { digits := (written.reverse.dropWhile (· == '0')).reverse
    point := written.length + exponent }

end Decimal

/-- The numbers that round to one double, as numerators over a common denominator. -/
structure RoundingInterval where
  low : Nat
  value : Nat
  high : Nat
  denominator : Nat
  /-- The two ends round to the double as well. -/
  closed : Bool

namespace RoundingInterval

/-- The interval around `mantissa · 2 ^ exponent`.  Below a power of two the doubles lie twice as dense. -/
def ofBinary (b : Binary) : RoundingInterval :=
  let below := if b.mantissa == Nat.pow 2 52 && b.exponent != -1074 then 1 else 2
  let scale := Nat.pow 2 b.exponent.toNat
  { low := (4 * b.mantissa - below) * scale
    value := 4 * b.mantissa * scale
    high := (4 * b.mantissa + 2) * scale
    denominator := 4 * Nat.pow 2 (-b.exponent).toNat
    closed := b.mantissa % 2 == 0 }

/-- The interval with every number multiplied by a power of ten. -/
def scaled (i : RoundingInterval) (power : Int) : RoundingInterval :=
  let up := Nat.pow 10 power.toNat
  { i with
    low := i.low * up
    value := i.value * up
    high := i.high * up
    denominator := i.denominator * Nat.pow 10 (-power).toNat }

/-- The natural number lies in the interval. -/
def covers (i : RoundingInterval) (n : Nat) : Bool :=
  let n := n * i.denominator
  if i.closed then i.low ≤ n && n ≤ i.high else i.low < n && n < i.high

/-- The whole number in the interval that is nearest to its value. -/
def nearestWhole? (i : RoundingInterval) : Option Nat :=
  let floor := i.value / i.denominator
  let rest := i.value % i.denominator
  let upper := if rest == 0 then floor else floor + 1
  match i.covers floor, i.covers upper with
  | true, true => some (if 2 * rest < i.denominator then floor else upper)
  | true, false => some floor
  | false, true => some upper
  | false, false => none

/-- The position of the point: the value lies in `[10 ^ (point - 1), 10 ^ point)`. -/
def point (i : RoundingInterval) : Int :=
  ((Decimal.digitsOf (i.value * Nat.pow 10 400 / i.denominator)).length : Int) - 400

/-- The first grid of `count`, `count + 1`, … digits that has a number in the interval, among `tries`
many grids. -/
def onGrid? (i : RoundingInterval) (point : Int) : (count tries : Nat) → Option Decimal
  | _, 0 => none
  | count, tries + 1 =>
    match (i.scaled (count - point)).nearestWhole? with
    | some n => some (Decimal.ofNat n (point - count))
    | none => onGrid? i point (count + 1) tries

end RoundingInterval

/-- The shortest decimal that reads back as the given positive number; seventeen digits always do. -/
def shortest (b : Binary) : Decimal :=
  let interval := RoundingInterval.ofBinary b
  (interval.onGrid? interval.point 1 17).getD ⟨[], 0⟩

end Vetting.Number
