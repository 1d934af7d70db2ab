import Vetting.Members
import Vetting.Number.Text

/-!
# Documents

The tree of a document, and its compact text: no blanks, members in the order of the tree, and only the
characters escaped that must be.
-/

namespace Vetting

/-- A document. -/
inductive Json where
  | null
  | boolean (value : Bool)
  | number (value : Float)
  | string (text : String)
  | array (items : List Json)
  | object (members : List (String × Json))

namespace Json

/-- One digit in base sixteen. -/
def hexDigit (n : Nat) : Char :=
  Nat.digitChar (n % 16)

/-- A character inside a quoted text. -/
def escaped (c : Char) : List Char :=
  if c = '"' then ['\\', '"']
  else if c = '\\' then ['\\', '\\']
  else if c = '\n' then ['\\', 'n']
  else if c = '\r' then ['\\', 'r']
  else if c = '\t' then ['\\', 't']
  else if c.toNat = 0x8 then ['\\', 'b']
  else if c.toNat = 0xC then ['\\', 'f']
  else if c.toNat < 0x20 then ['\\', 'u', '0', '0', hexDigit (c.toNat / 16), hexDigit c.toNat]
  else [c]

/-- A text in quotes. -/
def quoted (text : String) : String :=
  String.ofList ('"' :: text.toList.flatMap escaped ++ ['"'])

mutual

/-- The compact text of a document. -/
def text : Json → String
  | null => "null"
  | boolean value => if value then "true" else "false"
  | number value => (Number.jsonText? value).getD "null"
  | string content => quoted content
  | array items => "[" ++ ",".intercalate (itemTexts items) ++ "]"
  | object members => "\x7b" ++ ",".intercalate (memberTexts members) ++ "\x7d"

/-- The texts of the items. -/
def itemTexts : List Json → List String
  | [] => []
  | item :: rest => text item :: itemTexts rest

/-- The texts of the members, each after its name. -/
def memberTexts : List (String × Json) → List String
  | [] => []
  | (name, member) :: rest => (quoted name ++ ":" ++ text member) :: memberTexts rest

end

end Json

end Vetting
