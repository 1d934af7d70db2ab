import Vetting.Number.Literal

/-!
# Numbers of a given width

Texts that stand for whole numbers, and for numbers of single precision.  Infinities and NaN have the names that
they have among the doubles.
-/

namespace Vetting.Number

/-- The whole number of a row of digits with an optional sign. -/
def readInteger? (text : String) : Option Int :=
  let (negative, digits) := splitSign text.toList
  if digits.isEmpty || !digits.all Char.isDigit then none
  else
    let size : Int := naturalOf digits
    some (if negative then -size else size)

/-- The number of single precision of a word, or the one nearest to a decimal literal. -/
def readSingle? (text : String) : Option Float :=
  let (negative, unsigned) := splitSign text.toList
  (readWord? text).or ((readUnsigned? unsigned).map fun (digits, exponent) =>
    let size := (Float32.ofScientific digits (exponent < 0) exponent.natAbs).toFloat
    if negative then -size else size)

end Vetting.Number
