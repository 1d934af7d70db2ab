import Vetting.Regex.Basic
import Vetting.Run.Basic
import Vetting.ListedValues

/-!
# Arguments of rules

A rule is called with values, schemas, key maps, regular expressions, comparators and predicates.
Comparators and predicates are opaque, so two of them are the same only if they have one identity; schemas
are the same if they have one handle.
-/

namespace Vetting

/-- A relation between values that has an identity. -/
structure Comparator where
  identity : Nat
  relation : Relation

/-- What a predicate says of a value. -/
inductive Judgement where
  | accepted
  | refused (words : String)
  /-- The predicate broke down, perhaps with some words. -/
  | crashed (words : Option String)
deriving DecidableEq

/-- A test of a value, which may pause before it says anything. -/
structure Predicate where
  identity : Nat
  pauses : Value → Nat
  judge : Value → Judgement

/-- An argument of a rule, with schemas of type `σ`. -/
inductive Argument (σ : Type) where
  | value (content : Value)
  | schema (content : σ)
  | keys (content : List (String × σ))
  | regex (content : Regex)
  | comparator (content : Comparator)
  | predicate (content : Predicate)

/-- The arguments of one call. -/
abbrev Arguments (σ : Type) := List (Argument σ)

namespace Argument

variable {σ : Type}

def asValue? : Argument σ → Option Value
  | value found => some found
  | _ => none

def asSchema? : Argument σ → Option σ
  | schema found => some found
  | _ => none

def asKeys? : Argument σ → Option (Members σ)
  | keys found => some found
  | _ => none

def asRegex? : Argument σ → Option Regex
  | regex found => some found
  | _ => none

def asComparator? : Argument σ → Option Comparator
  | comparator found => some found
  | _ => none

def asPredicate? : Argument σ → Option Predicate
  | predicate found => some found
  | _ => none

variable [Identified σ]

/-- The names of a key map with the handles of its schemas. -/
def handles (keys : Members σ) : List (String × Handle) :=
  keys.map fun (name, entry) => (name, Identified.handle entry)

/-- The two arguments are the same: equal values, or things of one identity. -/
def same : Argument σ → Argument σ → Bool
  | value left, value right => left.same right
  | schema left, schema right => Identified.handle left == Identified.handle right
  | keys left, keys right => handles left == handles right
  | regex left, regex right => left.source == right.source
  | comparator left, comparator right => left.identity == right.identity
  | predicate left, predicate right => left.identity == right.identity
  | _, _ => false

end Argument

namespace Arguments

variable {σ : Type} [Identified σ]

/-- Equally many arguments, the same at each place. -/
def same : Arguments σ → Arguments σ → Bool
  | [], [] => true
  | left :: leftRest, right :: rightRest => left.same right && same leftRest rightRest
  | _, _ => false

end Arguments

end Vetting
