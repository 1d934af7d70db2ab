import Vetting.Value.Basic

/-!
# Deep equality

Numbers compare as numbers, so a NaN differs from itself and the two zeros are equal.  Objects are equal
when they have equally many members and every member of one equals the member of that name in the other.
-/

namespace Vetting.Value

mutual

/-- The two values are equal at every depth. -/
def same : Value → Value → Bool
  | undefined, undefined => true
  | null, null => true
  | boolean left, boolean right => left == right
  | number left, number right => left == right
  | string left, string right => left == right
  | date left, date right => left == right
  | array left, array right => sameItems left right
  | object left, object right => left.length == right.length && sameMembers left right
  | function leftName leftArity, function rightName rightArity =>
    leftName == rightName && leftArity == rightArity
  | _, _ => false

/-- The two lists have the same length and equal values at each place. -/
def sameItems : List Value → List Value → Bool
  | [], [] => true
  | left :: leftRest, right :: rightRest => same left right && sameItems leftRest rightRest
  | _, _ => false

/-- Every member of the first list equals the member of its name in the second. -/
def sameMembers : List (String × Value) → List (String × Value) → Bool
  | [], _ => true
  | (name, left) :: rest, others =>
    (match Members.get? others name with
      | some right => same left right
      | none => false) && sameMembers rest others

end

end Vetting.Value
