import Vetting.Misuse
import Vetting.Value.Text

/-!
# Options as values

Options of rules are written as objects.  An absent or undefined entry leaves an option untouched, and a
list may be written without its brackets if it has one item.
-/

namespace Vetting.Options

/-- The entry under the first name that is there; undefined counts as nothing said. -/
def entry? (members : Members Value) (names : List String) : Option Value :=
  (names.findSome? fun name => members.get? name).filter Value.isPresent

/-- The items of a list, or the single item in its place. -/
def items : Value → List Value
  | .array items => items
  | single => [single]

/-- Reads all items, or says which one is at fault. -/
def readAll {α : Type} (part : Value → Option α) (fault : String → ArgumentFault) :
    List Value → Except ArgumentFault (List α)
  | [] => .ok []
  | item :: rest =>
    match part item with
    | none => .error (fault item.text)
    | some found => (readAll part fault rest).map (found :: ·)

/-- The members of the object that the options are written as. -/
def members (value : Value) : Except ArgumentFault (Members Value) :=
  match value.asMembers? with
  | some members => .ok members
  | none => .error .optionsNotObject

end Vetting.Options
