import Vetting.Number.Rounding
import Vetting.Text.Alphabetic
import Vetting.Text.Blank

/-!
# Numeric literals

The grammar of numbers typed by people: decimal literals with an optional sign, fraction and exponent, the
word `Infinity`, and unsigned integers in base 16, 8 and 2.  An empty text stands for zero.  Doubles are read
more freely: infinities and NaN have names of their own there, in any case of letters.
-/

namespace Vetting.Number

open Vetting.Text

/-- The value of a digit in a base of at most sixteen. -/
def digitValue? (base : Nat) (c : Char) : Option Nat :=
  let value :=
    if c.isDigit then some (c.toNat - '0'.toNat)
    else if 'a' ≤ c ∧ c ≤ 'f' then some (c.toNat - 'a'.toNat + 10)
    else if 'A' ≤ c ∧ c ≤ 'F' then some (c.toNat - 'A'.toNat + 10)
    else none
  value.filter (· < base)

/-- The natural number that a row of digits stands for. -/
def naturalOf (digits : List Char) : Nat :=
  digits.foldl (fun total c => 10 * total + (c.toNat - '0'.toNat)) 0

/-- A sign, if there is one, and what follows it. -/
def splitSign : List Char → Bool × List Char
  | '-' :: rest => (true, rest)
  | '+' :: rest => (false, rest)
  | rest => (false, rest)

/-- The exponent after the mantissa: nothing at all, or the letter, an optional sign and digits. -/
def readExponent? : List Char → Option Int
  | [] => some 0
  | c :: rest =>
    if c = 'e' ∨ c = 'E' then
      let (negative, digits) := splitSign rest
      if digits.isEmpty || !digits.all Char.isDigit then none
      else if negative then some (-(naturalOf digits : Int)) else some (naturalOf digits)
    else none

/-- The number of a decimal literal without its sign, in digits and a power of ten. -/
def readUnsigned? (text : List Char) : Option (Nat × Int) :=
  let whole := text.takeWhile Char.isDigit
  let afterWhole := text.dropWhile Char.isDigit
  let (fraction, afterMantissa) :=
    match afterWhole with
    | '.' :: rest => (rest.takeWhile Char.isDigit, rest.dropWhile Char.isDigit)
    | rest => ([], rest)
  if whole.isEmpty && fraction.isEmpty then none
  else (readExponent? afterMantissa).map fun exponent =>
    (naturalOf (whole ++ fraction), exponent - fraction.length)

/-- The double nearest to a decimal literal with an optional sign. -/
def readDecimal? (text : List Char) : Option Float :=
  let (negative, unsigned) := splitSign text
  (readUnsigned? unsigned).map fun (digits, exponent) => ofDecimal negative digits exponent

/-- The number of a word with an optional sign. -/
def readWord? (text : String) : Option Float :=
  let (negative, word) := splitSign text.toList
  let lower := String.ofList (word.map Char.toLower)
  let size? : Option Float :=
    if lower = "inf" ∨ lower = "infinity" then some (1.0 / 0.0)
    else if lower = "nan" then some (0.0 / 0.0)
    else none
  size?.map fun size => if negative then -size else size

/-- The double of a word, or the one nearest to a decimal literal. -/
def readDouble? (text : String) : Option Float :=
  (readWord? text).or (readDecimal? text.toList)

/-- The base that a literal announces, and the digits after the announcement. -/
def announcedBase? : List Char → Option (Nat × List Char)
  | '0' :: mark :: digits =>
    if mark = 'x' ∨ mark = 'X' then some (16, digits)
    else if mark = 'o' ∨ mark = 'O' then some (8, digits)
    else if mark = 'b' ∨ mark = 'B' then some (2, digits)
    else none
  | _ => none

/-- The number of a row of digits in a base, rounded after every digit. -/
def readInBase? (base : Nat) (digits : List Char) : Option Float :=
  if digits.isEmpty then none
  else (digits.mapM (digitValue? base)).map fun values =>
    values.foldl (fun total value => total * Float.ofNat base + Float.ofNat value) 0

/-- The number that a trimmed literal stands for.  A letter other than that of an exponent rules out the words that
doubles have. -/
def readTrimmed? (text : List Char) : Option Float :=
  match announcedBase? text with
  | some (base, digits) => readInBase? base digits
  | none =>
    let (negative, unsigned) := splitSign text
    if unsigned = "Infinity".toList then
      some (if negative then -1.0 / 0.0 else 1.0 / 0.0)
    else if unsigned.any fun c => isAlphabetic c && c != 'e' && c != 'E' then none
    else readDouble? (String.ofList text)

/-- The number that a text stands for, blanks around it aside. -/
def readLiteral? (text : String) : Option Float :=
  match trimmed text.toList with
  | [] => some 0
  | literal => readTrimmed? literal

end Vetting.Number
