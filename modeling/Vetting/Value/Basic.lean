import Vetting.Instant.Basic
import Vetting.Members
import Vetting.Text.Pieces

/-!
# Loosely typed values

The values that are vetted: absent, null, scalars, dates, arrays, objects with ordered members, and
functions known by name and arity only.
-/

namespace Vetting

/-- A loosely typed value. -/
inductive Value where
  | undefined
  | null
  | boolean (flag : Bool)
  | number (n : Float)
  | string (text : String)
  | date (instant : Instant)
  | array (items : List Value)
  | object (members : List (String × Value))
  | function (name : String) (arity : Nat)
deriving Inhabited

/-- The kinds of values. -/
inductive Kind where
  | undefined
  | null
  | boolean
  | number
  | string
  | date
  | array
  | object
  | function
deriving DecidableEq

/-- The name of a kind. -/
def Kind.name : Kind → String
  | undefined => "undefined"
  | null => "null"
  | boolean => "boolean"
  | number => "number"
  | string => "string"
  | date => "date"
  | array => "array"
  | object => "object"
  | function => "function"

namespace Value

/-- The kind of a value. -/
def kind : Value → Kind
  | undefined => .undefined
  | null => .null
  | boolean _ => .boolean
  | number _ => .number
  | string _ => .string
  | date _ => .date
  | array _ => .array
  | object _ => .object
  | function _ _ => .function

/-- The value is there, even if it is null. -/
def isPresent (value : Value) : Bool :=
  value.kind != .undefined

def asBoolean? : Value → Option Bool
  | boolean flag => some flag
  | _ => none

def asNumber? : Value → Option Float
  | number n => some n
  | _ => none

def asString? : Value → Option String
  | string text => some text
  | _ => none

def asDate? : Value → Option Instant
  | date instant => some instant
  | _ => none

def asItems? : Value → Option (List Value)
  | array items => some items
  | _ => none

def asMembers? : Value → Option (Members Value)
  | object members => some members
  | _ => none

/-- The arity of a function. -/
def asArity? : Value → Option Nat
  | function _ arity => some arity
  | _ => none

/-- Only switches are read as such. -/
theorem asBoolean?_eq_some_iff {value : Value} {flag : Bool} : value.asBoolean? = some flag ↔ value = boolean flag := by
  cases value <;> simp [asBoolean?]

/-- Only texts are read as such. -/
theorem asString?_eq_some_iff {value : Value} {text : String} : value.asString? = some text ↔ value = string text := by
  cases value <;> simp [asString?]

/-- Only arrays have items. -/
theorem asItems?_eq_some_iff {value : Value} {items : List Value} :
    value.asItems? = some items ↔ value = array items := by
  cases value <;> simp [asItems?]

/-- Only objects have members. -/
theorem asMembers?_eq_some_iff {value : Value} {members : Members Value} :
    value.asMembers? = some members ↔ value = object members := by
  cases value <;> simp [asMembers?]

/-- An object made of entries; a repeated name keeps its first place and its last value. -/
def ofEntries (entries : List (String × Value)) : Value :=
  object (Members.ofList entries)

/-- The member of that name; undefined where there is none. -/
def get (value : Value) (name : String) : Value :=
  match value with
  | object members => (Members.get? members name).getD undefined
  | _ => undefined

/-- Follows the names between the dots of a path; empty names are passed over. -/
def lookup (value : Value) (path : String) : Value :=
  ((Text.piecesOf '.' path).filter (· != "")).foldl get value

/-- The array with one more item. -/
def push? (value item : Value) : Option Value :=
  value.asItems?.map fun items => array (items ++ [item])

/-- The object with a member put under a name. -/
def insert? (value : Value) (name : String) (member : Value) : Option Value :=
  value.asMembers?.map fun members => object (members.put name member)

/-- The number nearest to a whole number. -/
def ofInt (n : Int) : Value :=
  number (Float.ofInt n)

/-- The number nearest to a natural number. -/
def ofNat (n : Nat) : Value :=
  number (Float.ofNat n)

/-- A value that may be absent. -/
def ofOption : Option Value → Value
  | some value => value
  | none => undefined

end Value

end Vetting
