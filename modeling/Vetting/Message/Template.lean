import Vetting.Report.Basic
import Vetting.Value.Text

/-!
# Message templates

A template is text with placeholders in braces.  `label` stands for the place of the finding, any other
name for one of its particulars, with dots leading inside it.  What a placeholder is replaced by is not
searched again; a placeholder without a value, and a brace that is never closed, stay as they are.
-/

namespace Vetting.Message

/-- The value of a placeholder. -/
def placeholder? (finding : Finding) (name : String) : Option Value :=
  if name = "label" then some (.string finding.path.label)
  else match Text.cutAtFirst? '.' name.toList with
    | none => finding.context.get? name
    | some (head, rest) =>
      (finding.context.get? (String.ofList head)).map fun value => value.lookup (String.ofList rest)

/-- What a placeholder is replaced by. -/
def filled (finding : Finding) (name : List Char) : List Char :=
  match placeholder? finding (String.ofList name) with
  | some value => value.text.toList
  | none => '\x7b' :: name ++ ['\x7d']

/-- The message of a template, given the characters read since an open brace, last first. -/
def fillFrom (finding : Finding) : Option (List Char) → List Char → List Char
  | none, [] => []
  | some read, [] => '\x7b' :: read.reverse
  | none, c :: rest =>
    if c = '\x7b' then fillFrom finding (some []) rest else c :: fillFrom finding none rest
  | some read, c :: rest =>
    if c = '\x7d' then filled finding read.reverse ++ fillFrom finding none rest
    else fillFrom finding (some (c :: read)) rest

/-- The message of a template for a finding. -/
def render (template : String) (finding : Finding) : String :=
  String.ofList (fillFrom finding none template.toList)

/-- The text of a placeholder; the items of an array stand apart from each other. -/
def join (finding : Finding) (name separator : String) : String :=
  match placeholder? finding name with
  | some (.array items) => separator.intercalate (items.map Value.text)
  | some value => value.text
  | none => ""

end Vetting.Message
