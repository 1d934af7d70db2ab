import Vetting.Number.Shortest

/-!
# Numbers as text

Two written forms of a double.  `plain` never uses an exponent; `jsonText` always shows a fraction or an
exponent, and uses an exponent far from one.
-/

namespace Vetting.Number

/-- That many zeros. -/
def zeros (count : Nat) : List Char :=
  List.replicate count '0'

/-- The digits before the point, and the digits after it. -/
def Decimal.parts (d : Decimal) : List Char × List Char :=
  if d.point ≤ 0 then (['0'], zeros (-d.point).toNat ++ d.digits)
  else
    let whole := d.point.toNat
    (d.digits.take whole ++ zeros (whole - d.digits.length), d.digits.drop whole)

/-- The integer digits and the fraction digits of the shortest decimal of a finite double. -/
def Binary.parts (b : Binary) : List Char × List Char :=
  if b.mantissa = 0 then (['0'], []) else (shortest b).parts

/-- A minus sign for a negative number. -/
def Binary.sign (b : Binary) : List Char :=
  if b.negative then ['-'] else []

/-- Every digit of the shortest decimal, without an exponent; the point is left out of whole numbers. -/
def plain (x : Float) : String :=
  match Binary.ofFloat? x with
  | none => if x.isNaN then "NaN" else if x < 0 then "-Infinity" else "Infinity"
  | some b =>
    let (whole, fraction) := b.parts
    String.ofList (b.sign ++ whole ++ if fraction.isEmpty then [] else '.' :: fraction)

/-- How many digits stand after the point in the plain text. -/
def decimalPlaces (x : Float) : Nat :=
  match Binary.ofFloat? x with
  | none => 0
  | some b => b.parts.2.length

/-- An exponent with its sign. -/
def exponentText (exponent : Int) : List Char :=
  (if exponent < 0 then ['e', '-'] else ['e', '+']) ++ Decimal.digitsOf exponent.natAbs

/-- The text of a decimal in a document: positional from `0.00001` up to sixteen integer digits, and with
an exponent beyond. -/
def Decimal.jsonText (d : Decimal) : List Char :=
  if -5 < d.point ∧ d.point ≤ 16 then
    let (whole, fraction) := d.parts
    whole ++ '.' :: (if fraction.isEmpty then ['0'] else fraction)
  else
    match d.digits with
    | [] => []
    | first :: rest =>
      first :: (if rest.isEmpty then [] else '.' :: rest) ++ exponentText (d.point - 1)

/-- The text of a finite double in a document; a document has no text for the others. -/
def jsonText? (x : Float) : Option String :=
  (Binary.ofFloat? x).map fun b =>
    String.ofList (b.sign ++ if b.mantissa = 0 then ['0', '.', '0'] else (shortest b).jsonText)

end Vetting.Number
