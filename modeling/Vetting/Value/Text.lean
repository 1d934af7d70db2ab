import Vetting.Value.Encoding

/-!
# Values as text

The text of a value inside a message.  The items of an array stand between commas, absent and null ones as
nothing at all; an object is written as a document.
-/

namespace Vetting.Value

mutual

/-- The text of a value. -/
def text : Value → String
  | undefined => "undefined"
  | null => "null"
  | boolean flag => if flag then "true" else "false"
  | number n => Number.plain n
  | string content => content
  | date instant => instant.timestamp
  | array items => ",".intercalate (itemTexts items)
  | object members => (object members).toJson.text
  | function name _ => "[Function " ++ name ++ "]"

/-- The texts of the items of an array. -/
def itemTexts : List Value → List String
  | [] => []
  | item :: rest => (if item.kind = .undefined ∨ item.kind = .null then "" else text item) :: itemTexts rest

end

end Vetting.Value
