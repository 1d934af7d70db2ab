/-!
# Credit card numbers

A card number has twelve to nineteen digits, and its last digit is chosen so that a weighted sum of all
digits is a multiple of ten.
-/

namespace Vetting.CreditCard

/-- The digits of a text, spaces and dashes left out; none if another character is there. -/
def digits? (text : List Char) : Option (List Nat) :=
  (text.filter fun c => c != ' ' && c != '-').mapM fun c =>
    if c.isDigit then some (c.toNat - '0'.toNat) else none

/-- Twice a digit, less nine if that has two digits. -/
def doubled (digit : Nat) : Nat :=
  if 9 < digit * 2 then digit * 2 - 9 else digit * 2

/-- The sum of the digits, every second one doubled. -/
def weightedSum : List Nat → Nat
  | [] => 0
  | [digit] => digit
  | first :: second :: rest => first + doubled second + weightedSum rest

/-- The text is a card number; the sum is taken from its last digit on. -/
def isNumber (text : String) : Bool :=
  match digits? text.toList with
  | none => false
  | some digits =>
    12 ≤ digits.length && digits.length ≤ 19 && weightedSum digits.reverse % 10 == 0

end Vetting.CreditCard
