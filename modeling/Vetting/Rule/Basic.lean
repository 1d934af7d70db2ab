import Vetting.Argument.Basic
import Vetting.Check.Basic
import Vetting.Options.Address
import Vetting.Options.Reference
import Vetting.Rule.Declaration

/-!
# Rules

A rule as it stands in a schema.  A fresh rule knows nothing of its arguments; wiring fills it in and may
amend it once more when a sibling is wired.  `σ` stands for the schemas inside a rule.
-/

namespace Vetting

/-- What it means for a value to be listed. -/
inductive Listing where
  /-- A listed value passes at once, any other one fails. -/
  | valid
  /-- A listed value fails. -/
  | invalid
  /-- A listed value passes at once. -/
  | allow
deriving DecidableEq

/-- The name of the rule that lists values. -/
def Listing.name : Listing → String
  | valid => "valid"
  | invalid => "invalid"
  | allow => "allow"

/-- What is counted of a value. -/
inductive Measure where
  | items
  | characters
  | arity
deriving DecidableEq

namespace Measure

/-- The count, if the value has one. -/
def of? : Measure → Value → Option Nat
  | items, value => value.asItems?.map List.length
  | characters, value => value.asString?.map String.length
  | arity, value => value.asArity?

/-- The name of the count in a finding. -/
def name : Measure → String
  | items | characters => "length"
  | arity => "arity"

end Measure

/-- How a count is bounded. -/
inductive Bound where
  | min
  | max
  | exact
deriving DecidableEq

namespace Bound

/-- The name of the limit in a finding. -/
def name : Bound → String
  | min => "min"
  | max => "max"
  | exact => "expected"

/-- The count keeps to the limit. -/
def accepts (bound : Bound) (count limit : Nat) : Bool :=
  match bound with
  | min => limit ≤ count
  | max => count ≤ limit
  | exact => count == limit

/-- The name of the rule that bounds a count. -/
def ruleName : Bound → Measure → String
  | min, .items => "array.min"
  | max, .items => "array.max"
  | exact, .items => "array.length"
  | min, .characters => "string.min"
  | max, .characters => "string.max"
  | exact, .characters => "string.length"
  | min, .arity => "func.minArity"
  | max, .arity => "func.maxArity"
  | exact, .arity => "func.arity"

end Bound

/-- How a number is compared with a limit. -/
inductive Comparison where
  | min
  | max
  | greater
  | less
deriving DecidableEq

namespace Comparison

/-- The name of the limit in a finding. -/
def name : Comparison → String
  | min => "min"
  | max => "max"
  | greater => "greater"
  | less => "less"

/-- The number keeps to the limit. -/
def accepts (comparison : Comparison) (n limit : Float) : Bool :=
  match comparison with
  | min => limit ≤ n
  | max => n ≤ limit
  | greater => limit < n
  | less => n < limit

/-- The name of the rule that compares. -/
def ruleName : Comparison → String
  | min => "number.min"
  | max => "number.max"
  | greater => "number.greater"
  | less => "number.less"

end Comparison

/-- When two items of an array count as the same. -/
inductive Criterion where
  | equality
  /-- What lies at the end of a path inside the items is equal. -/
  | member (path : String)
  | comparator (comparator : Comparator)

/-- The earlier and the later item count as the same. -/
def Criterion.relates : Criterion → Value → Value → Bool
  | equality, earlier, later => earlier.same later
  | member path, earlier, later => (earlier.lookup path).same (later.lookup path)
  | comparator judge, earlier, later => judge.relation earlier later

/-- The members that an object may have. -/
structure KeyRule (σ : Type) where
  keys : List (String × σ)
  patterns : List Regex
  allowsUnknown : Bool
  operating : Bool

/-- The members of an object whose names have a pattern. -/
structure PatternRule (σ : Type) where
  match? : Option (Regex × σ)
  /-- A key map decides which members may be there. -/
  hasKeys : Bool
  allowsUnknown : Bool

/-- A rule with schemas of type `σ` inside. -/
inductive Rule (σ : Type) where
  | any
  | optional (enabled : Bool)
  | listing (kind : Listing) (set : ListedValues) (operating : Bool)
  | custom (predicate : Option Predicate)
  | standIn (value : Value) (operating : Bool)
  | alternatives (schemas : List σ)
  | furtherAlternatives
  | keys (rule : KeyRule σ)
  | pattern (rule : PatternRule σ)
  | allowUnknown
  | array (single sparse : Bool)
  | allowSparse
  | allowSingle
  | items (schema : Option σ)
  | ordered (schemas : List σ)
  | unique (criterion : Criterion)
  | length (measure : Measure) (bound : Bound) (limit : Nat)
  | number (comparison : Comparison) (limit : Float)
  | multiple (base : Float)
  | precision (places : Nat)
  | insensitive
  | regex (regex : Option Regex)
  | address (options : AddressOptions)
  | reference (options : ReferenceOptions)
  | check (test : Check)
  | declared (declaration : Declaration)

namespace Rule

variable {σ τ : Type}

/-- The name of a rule. -/
def name : Rule σ → String
  | any => "any"
  | optional _ => "optional"
  | listing kind _ _ => kind.name
  | custom _ => "custom"
  | standIn _ _ => "default"
  | alternatives _ => "alternatives"
  | furtherAlternatives => "alternatives.try"
  | keys _ => "object.keys"
  | pattern _ => "object.pattern"
  | allowUnknown => "object.unknown"
  | array _ _ => "array"
  | allowSparse => "array.sparse"
  | allowSingle => "array.single"
  | items _ => "array.items"
  | ordered _ => "array.ordered"
  | unique _ => "array.unique"
  | length measure bound _ => bound.ruleName measure
  | number comparison _ => comparison.ruleName
  | multiple _ => "number.multiple"
  | precision _ => "number.precision"
  | insensitive => "string.insensitive"
  | regex _ => "string.regex"
  | address _ => "string.ip"
  | reference _ => "string.uri"
  | check test => test.name
  | declared declaration => declaration.name

/-- Rules of a lower priority come first: a stand-in before what may end a validation early, and that
before all else. -/
def priority : Rule σ → Int
  | standIn _ _ => -1
  | optional _ | listing .valid _ _ | listing .allow _ _ => 0
  | declared declaration => declaration.priority
  | _ => 100

/-- The rule takes part in validations; the others only act on their siblings. -/
def operates : Rule σ → Bool
  | any | furtherAlternatives | allowUnknown | allowSparse | allowSingle | insensitive => false
  | listing _ _ operating | standIn _ operating => operating
  | keys rule => rule.operating
  | declared declaration => declaration.operates
  | _ => true

/-- The value in place of an absent one. -/
def standIn? : Rule σ → Option Value
  | standIn value _ => some value
  | declared declaration => declaration.standIn
  | _ => none

/-- The rule with other schemas inside. -/
def map (f : σ → τ) : Rule σ → Rule τ
  | any => any
  | optional enabled => optional enabled
  | listing kind set operating => listing kind set operating
  | custom predicate => custom predicate
  | standIn value operating => standIn value operating
  | alternatives schemas => alternatives (schemas.map f)
  | furtherAlternatives => furtherAlternatives
  | keys rule => keys { rule with keys := rule.keys.map fun (name, schema) => (name, f schema) }
  | pattern rule => pattern { rule with match? := rule.match?.map fun (names, schema) => (names, f schema) }
  | allowUnknown => allowUnknown
  | array single sparse => array single sparse
  | allowSparse => allowSparse
  | allowSingle => allowSingle
  | items schema => items (schema.map f)
  | ordered schemas => ordered (schemas.map f)
  | unique criterion => unique criterion
  | length measure bound limit => length measure bound limit
  | number comparison limit => number comparison limit
  | multiple base => multiple base
  | precision places => precision places
  | insensitive => insensitive
  | regex expression => regex expression
  | address options => address options
  | reference options => reference options
  | check test => check test
  | declared declaration => declared declaration

/-- A rule keeps its name when its schemas are translated. -/
@[simp] theorem name_map (f : σ → τ) (rule : Rule σ) : (rule.map f).name = rule.name := by
  cases rule <;> rfl

/-- A rule keeps its priority when its schemas are translated. -/
@[simp] theorem priority_map (f : σ → τ) (rule : Rule σ) : (rule.map f).priority = rule.priority := by
  cases rule with
  | listing kind => cases kind <;> rfl
  | _ => rfl

end Rule

end Vetting
