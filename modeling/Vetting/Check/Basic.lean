import Vetting.Address
import Vetting.Check.CreditCard
import Vetting.Check.Shapes
import Vetting.Instant.Timestamp
import Vetting.Number.Literal
import Vetting.Text.Casing
import Vetting.Value.Basic

/-!
# Plain checks

Checks that look at the value alone: types, signs, and shapes of texts.  Some offer a value in place of one
that they reject.
-/

namespace Vetting

/-- A check of the value alone. -/
inductive Check where
  | object
  | string
  | number
  | boolean
  | date
  | function
  | required
  | forbidden
  | integer
  | positive
  | negative
  | alphanumeric
  | token
  | mailAddress
  | guid
  | hexadecimal
  | hostName
  | isoDate
  | creditCard
  | lowercase
  | uppercase
  | trimmed
  | future
deriving DecidableEq

namespace Check

/-- The name of the rule that makes the check. -/
def name : Check → String
  | object => "object"
  | string => "string"
  | number => "number"
  | boolean => "boolean"
  | date => "date"
  | function => "func"
  | required => "required"
  | forbidden => "forbidden"
  | integer => "number.integer"
  | positive => "number.positive"
  | negative => "number.negative"
  | alphanumeric => "string.alphanum"
  | token => "string.token"
  | mailAddress => "string.email"
  | guid => "string.guid"
  | hexadecimal => "string.hex"
  | hostName => "string.hostname"
  | isoDate => "string.isoDate"
  | creditCard => "string.creditCard"
  | lowercase => "string.lowercase"
  | uppercase => "string.uppercase"
  | trimmed => "string.trim"
  | future => "date.greaterThanNow"

/-- The pattern that a text has to have, where a check is about nothing else. -/
def shape? : Check → Option Pattern
  | alphanumeric => some Shape.alphanumeric
  | token => some Shape.token
  | mailAddress => some Shape.mailAddress
  | guid => some Shape.guid
  | hexadecimal => some Shape.hexadecimal
  | isoDate => some Shape.isoDate
  | _ => none

/-- The text is the name or the address of a host. -/
def isHost (text : String) : Bool :=
  Shape.hostName.occursIn text || Address.isAddress text.toList

/-- A text passes the check. -/
def acceptsText (check : Check) (text : String) : Bool :=
  match check with
  | string => text != ""
  | hostName => isHost text
  | creditCard => CreditCard.isNumber text
  | lowercase => Text.toLower text == text
  | uppercase => Text.toUpper text == text
  | trimmed => Text.trim text == text
  | other => other.shape?.any fun shape => shape.occursIn text

/-- A number passes the check. -/
def acceptsNumber (check : Check) (n : Float) : Bool :=
  match check with
  | number => n.isFinite
  | integer => Number.isWhole n
  | positive => 0 < n
  | negative => n < 0
  | _ => false

/-- The value passes the check at that time. -/
def accepts (check : Check) (now : Instant) (value : Value) : Bool :=
  match check, value with
  | required, value => value.isPresent
  | forbidden, value => !value.isPresent
  | object, .object _ => true
  | boolean, .boolean _ => true
  | date, .date _ => true
  | function, .function _ _ => true
  | future, .date instant => instant.isAfter now
  | check, .string text => check.acceptsText text
  | check, .number n => check.acceptsNumber n
  | _, _ => false

/-- The truth value that a text names. -/
def booleanOf? (text : String) : Option Bool :=
  let word := Text.trim text
  if Text.sameIgnoringAsciiCase word "true" then some true
  else if Text.sameIgnoringAsciiCase word "false" then some false
  else none

/-- The instant that a text or a number of milliseconds stands for. -/
def instantOf? : Value → Option Instant
  | .string text => Instant.ofTimestamp? text
  | .number n => (Number.truncated? n).bind Instant.ofMilliseconds?
  | _ => none

/-- The value that the check offers in place of one that it has rejected. -/
def convert? (check : Check) (value : Value) : Option Value :=
  match check with
  | number => ((value.asString?.bind Number.readLiteral?).filter Float.isFinite).map .number
  | boolean => (value.asString?.bind booleanOf?).map .boolean
  | date => (instantOf? value).map .date
  | lowercase => value.asString?.map fun text => .string (Text.toLower text)
  | uppercase => value.asString?.map fun text => .string (Text.toUpper text)
  | trimmed => value.asString?.map fun text => .string (Text.trim text)
  | _ => none

end Check

end Vetting
