/-!
# Doubles as exact numbers

Every finite double is a whole multiple of the smallest positive one, `2 ^ -1074`.  `Binary.units?` is that
multiple, so questions about integrality, truncation and remainders are settled in `Int`.
-/

namespace Vetting.Number

/-- A finite double: a sign, and `mantissa · 2 ^ exponent`. -/
structure Binary where
  negative : Bool
  mantissa : Nat
  exponent : Int

namespace Binary

/-- Reads the sign, the exponent and the fraction off the bits; infinities and NaN have none. -/
def ofFloat? (x : Float) : Option Binary :=
  let bits := x.toBits.toNat
  let negative := bits / Nat.pow 2 63 == 1
  let biased : Nat := bits / Nat.pow 2 52 % Nat.pow 2 11
  let fraction : Nat := bits % Nat.pow 2 52
  if biased == 2047 then none
  else if biased == 0 then some ⟨negative, fraction, -1074⟩
  else some ⟨negative, Nat.pow 2 52 + fraction, (biased : Int) - 1075⟩

/-- The exact value, counted in the smallest positive double. -/
def units (b : Binary) : Int :=
  let size := b.mantissa * Nat.pow 2 (b.exponent + 1074).toNat
  if b.negative then -(size : Int) else size

end Binary

/-- How many of the smallest positive doubles make up one. -/
def unitsPerOne : Nat := Nat.pow 2 1074

/-- The exact value of a finite double, counted in the smallest positive double. -/
def units? (x : Float) : Option Int :=
  (Binary.ofFloat? x).map Binary.units

/-- The double is a finite whole number. -/
def isWhole (x : Float) : Bool :=
  match units? x with
  | none => false
  | some units => units.tmod unitsPerOne == 0

/-- A finite double without its fraction. -/
def truncated? (x : Float) : Option Int :=
  (units? x).map fun units => units.tdiv unitsPerOne

/-- The remainder of a division that truncates, counted in the smallest positive double.  Nothing is left
of a division by zero, of an infinity, or with a NaN on either side; a finite number divided by an
infinity is left whole. -/
def remainderUnits? (x base : Float) : Option Int :=
  match units? x, units? base with
  | some whole, some part => if part = 0 then none else some (whole.tmod part)
  | some whole, none => if base.isNaN then none else some whole
  | none, _ => none

/-- The double is a whole multiple of `base`. -/
def isMultipleOf (x base : Float) : Bool :=
  remainderUnits? x base == some 0

/-- The two doubles leave the same remainder on division by `base`. -/
def sameRemainder (x y base : Float) : Bool :=
  match remainderUnits? x base, remainderUnits? y base with
  | some left, some right => left == right
  | _, _ => false

end Vetting.Number
