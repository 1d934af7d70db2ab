import Vetting.Json.Basic
import Vetting.Json.Token
import Vetting.Number.Literal

/-!
# Reading documents

The tokens of a document are read from left to right with a stack of the arrays and objects that are still
open.  Members of an object end up in the order of their names, the last one of a name winning.
-/

namespace Vetting.Json

/-- Arrays and objects may be this deep inside each other, less one. -/
def depthLimit : Nat := 128

/-- An array or object that is still open; what it holds so far is kept last first. -/
inductive Frame where
  | array (items : List Json)
  | object (members : List (String × Json)) (name : String)

/-- What the reader needs next. -/
inductive Expectation where
  | value
  /-- The first item of an array, or its end. -/
  | itemOrEnd
  /-- The first name of an object, or its end. -/
  | nameOrEnd (members : List (String × Json))
  | name (members : List (String × Json))
  | colon (members : List (String × Json)) (name : String)
  /-- A comma or the end of what is open, after a complete value. -/
  | afterValue (value : Json)

/-- The number of a word: no sign but a minus, no zero in front of another digit, and digits around a point. -/
def numberOfWord? (word : List Char) : Option Float :=
  let (negative, unsigned) :=
    match word with
    | '-' :: rest => (true, rest)
    | rest => (false, rest)
  let whole := unsigned.takeWhile Char.isDigit
  let afterWhole := unsigned.dropWhile Char.isDigit
  let wellWritten :=
    match whole, afterWhole with
    | [], _ => false
    | '0' :: _ :: _, _ => false
    | _, '.' :: rest => !(rest.takeWhile Char.isDigit).isEmpty
    | _, _ => true
  if wellWritten then
    (Number.readUnsigned? unsigned).bind fun (digits, exponent) =>
      let number := Number.ofDecimal negative digits exponent
      if number.isFinite then some number else none
  else none

/-- The value of a word. -/
def ofWord? (word : List Char) : Option Json :=
  if word = "null".toList then some .null
  else if word = "true".toList then some (.boolean true)
  else if word = "false".toList then some (.boolean false)
  else (numberOfWord? word).map .number

/-- An object with the given members, last first. -/
def closedObject (members : List (String × Json)) : Json :=
  .object (Members.sorted members.reverse)

/-- A value that consists of one token. -/
def ofToken? : Token → Option Json
  | .quoted text => some (.string text)
  | .word characters => ofWord? characters
  | _ => none

/-- Reads a token where a value may begin. -/
def beginValue? (open_ : List Frame) (token : Token) : Option (Expectation × List Frame) :=
  match token with
  | .openArray => if open_.length + 1 < depthLimit then some (.itemOrEnd, .array [] :: open_) else none
  | .openObject => if open_.length + 1 < depthLimit then some (.nameOrEnd [], open_) else none
  | token => (ofToken? token).map fun value => (.afterValue value, open_)

/-- Reads one token: what is needed then, and what is still open. -/
def step? (expectation : Expectation) (open_ : List Frame) (token : Token) :
    Option (Expectation × List Frame) :=
  match expectation, token with
  | .value, token => beginValue? open_ token
  | .itemOrEnd, .closeArray => some (.afterValue (.array []), open_.tail)
  | .itemOrEnd, token => beginValue? open_ token
  | .nameOrEnd members, .closeObject => some (.afterValue (closedObject members), open_)
  | .nameOrEnd members, .quoted name => some (.colon members name, open_)
  | .name members, .quoted name => some (.colon members name, open_)
  | .colon members name, .colon => some (.value, .object members name :: open_)
  | .afterValue value, token =>
    match open_, token with
    | .array items :: outer, .comma => some (.value, .array (value :: items) :: outer)
    | .array items :: outer, .closeArray => some (.afterValue (.array (value :: items).reverse), outer)
    | .object members name :: outer, .comma => some (.name ((name, value) :: members), outer)
    | .object members name :: outer, .closeObject =>
      some (.afterValue (closedObject ((name, value) :: members)), outer)
    | _, _ => none
  | _, _ => none

/-- The document whose remaining tokens are given. -/
def readFrom? : Expectation → List Frame → List Token → Option Json
  | .afterValue value, [], [] => some value
  | _, _, [] => none
  | expectation, open_, token :: rest => do
    let (next, stillOpen) ← step? expectation open_ token
    readFrom? next stillOpen rest

/-- The document of a text. -/
def read? (text : String) : Option Json := do
  readFrom? .value [] (← Token.scan? text)

end Vetting.Json
