import Vetting.Instant.Timestamp
import Vetting.Json.Basic
import Vetting.Value.Basic

/-!
# Values as documents

A document has no place for absence, functions, infinities and NaN: they become null, and absent members
of an object are left out.  Dates become timestamps.  `toJson` puts the members of an object in the order of
their names, `toJsonInOrder` leaves them as they stand.
-/

namespace Vetting.Value

/-- A number of a document, or null for a number that has no place there. -/
def numberToJson (n : Float) : Json :=
  if n.isFinite then .number n else .null

mutual

/-- The document of a value, members in the order of their names. -/
def toJson : Value → Json
  | undefined => .null
  | null => .null
  | boolean flag => .boolean flag
  | number n => numberToJson n
  | string text => .string text
  | date instant => .string instant.timestamp
  | array items => .array (itemsToJson items)
  | object members => .object (membersToJson [] members)
  | function _ _ => .null

/-- The documents of the items. -/
def itemsToJson : List Value → List Json
  | [] => []
  | item :: rest => toJson item :: itemsToJson rest

/-- The documents of the members that are there, put among those already encoded. -/
def membersToJson (encoded : List (String × Json)) : List (String × Value) → List (String × Json)
  | [] => encoded
  | (name, member) :: rest =>
    membersToJson
      (if member.isPresent then Members.putSorted encoded name (toJson member) else encoded) rest

end

mutual

/-- The document of a value, members as they stand. -/
def toJsonInOrder : Value → Json
  | undefined | null | function _ _ => .null
  | boolean flag => .boolean flag
  | number n => numberToJson n
  | string text => .string text
  | date instant => .string instant.timestamp
  | array items => .array (itemsInOrder items)
  | object members => .object (membersInOrder members)

/-- The documents of the items. -/
def itemsInOrder : List Value → List Json
  | [] => []
  | item :: rest => toJsonInOrder item :: itemsInOrder rest

/-- The documents of the members that are there. -/
def membersInOrder : List (String × Value) → List (String × Json)
  | [] => []
  | (name, member) :: rest =>
    if member.isPresent then (name, toJsonInOrder member) :: membersInOrder rest
    else membersInOrder rest

end

mutual

/-- The value of a document. -/
def ofJson : Json → Value
  | .null => null
  | .boolean flag => boolean flag
  | .number n => number n
  | .string text => string text
  | .array items => array (itemsOfJson items)
  | .object members => object (membersOfJson members)

/-- The values of the items. -/
def itemsOfJson : List Json → List Value
  | [] => []
  | item :: rest => ofJson item :: itemsOfJson rest

/-- The values of the members. -/
def membersOfJson : List (String × Json) → List (String × Value)
  | [] => []
  | (name, member) :: rest => (name, ofJson member) :: membersOfJson rest

end

end Vetting.Value
