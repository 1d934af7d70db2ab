import Vetting.Rule.Basic
import Vetting.Rule.Siblings

/-!
# Amendments

What the wiring of one rule may do to another.  An amendment applies to rules of one sort only and leaves
the name and the priority of a rule as they are.
-/

namespace Vetting

/-- A rule together with the arguments that it was called with. -/
structure Instance (σ : Type) where
  rule : Rule σ
  arguments : Arguments σ

/-- A change to rules of one sort. -/
abbrev Amendment (σ : Type) := Rule σ → Option (Rule σ)

namespace Instance

variable {σ : Type}

/-- Two calls of one rule with the same arguments. -/
def same [Identified σ] (left right : Instance σ) : Bool :=
  left.rule.name == right.rule.name && left.arguments.same right.arguments

/-- Amends the rule and leaves the arguments. -/
def amend (amendment : Amendment σ) (entry : Instance σ) : Option (Instance σ) :=
  (amendment entry.rule).map fun rule => { entry with rule }

end Instance

namespace Amendment

variable {σ : Type}

/-- Turns `optional` off. -/
def disable : Amendment σ
  | .optional _ => some (.optional false)
  | _ => none

/-- Changes the values of a list of that kind. -/
def listing (kind : Listing) (change : ListedValues → ListedValues) : Amendment σ
  | .listing other set operating =>
    if other = kind then some (.listing other (change set) operating) else none
  | _ => none

/-- Changes every set of values that is open to changes. -/
def sets (change : ListedValues → ListedValues) : Amendment σ
  | .listing kind set operating => some (.listing kind (change set) operating)
  | .declared declaration =>
    if declaration.exposed then declaration.accepted.map fun set =>
      .declared { declaration with accepted := some (change set) }
    else none
  | _ => none

/-- Puts a value in place of the one that stands in for absence. -/
def standIn (value : Value) : Amendment σ
  | .standIn _ operating => some (.standIn value operating)
  | _ => none

/-- Adds further alternatives. -/
def alternatives (further : List σ) : Amendment σ
  | .alternatives schemas => some (.alternatives (schemas ++ further))
  | _ => none

/-- Adds keys and patterns to a key map. -/
def keys (keys : Members σ) (patterns : List Regex) : Amendment σ
  | .keys rule =>
    some (.keys { rule with
      keys := Members.putAll rule.keys keys
      patterns := rule.patterns ++ patterns })
  | _ => none

/-- Lets a key map allow unknown members, or forbids them. -/
def keysUnknown (allow : Bool) : Amendment σ
  | .keys rule => some (.keys { rule with allowsUnknown := allow })
  | _ => none

/-- Lets a pattern allow unknown members, or forbids them. -/
def patternUnknown (allow : Bool) : Amendment σ
  | .pattern rule => some (.pattern { rule with allowsUnknown := allow })
  | _ => none

/-- Lets an array have holes, or forbids them. -/
def sparse (allow : Bool) : Amendment σ
  | .array single _ => some (.array single allow)
  | _ => none

/-- Lets a single value stand for an array, or forbids it. -/
def single (allow : Bool) : Amendment σ
  | .array _ sparse => some (.array allow sparse)
  | _ => none

/-- Leaves a tag on a declared rule. -/
def mark (tag : String) : Amendment σ
  | .declared declaration => some (.declared (declaration.mark tag))
  | _ => none

end Amendment

namespace Siblings

variable {σ : Type}

/-- Amends every sibling that the amendment applies to. -/
def amendAll (siblings : Siblings (Instance σ)) (amendment : Amendment σ) : Siblings (Instance σ) :=
  siblings.all (Instance.amend amendment)

/-- Amends the last earlier sibling that the amendment applies to, if there is one. -/
def amendLast (siblings : Siblings (Instance σ)) (amendment : Amendment σ) : Siblings (Instance σ) :=
  (siblings.last? (Instance.amend amendment)).getD siblings

end Siblings

namespace Reach

variable {σ : Type}

/-- Reaches siblings and leaves a tag with them; nothing if there is nobody to reach. -/
def amend? (reach : Reach) (tag : String) (siblings : Siblings (Instance σ)) :
    Option (Siblings (Instance σ)) :=
  let everybody (amendment : Amendment σ) :=
    if siblings.applies (Instance.amend amendment) then some (siblings.amendAll amendment) else none
  match reach with
  | last => siblings.last? (Instance.amend (.mark tag))
  | first => siblings.first? (Instance.amend (.mark tag))
  | next => siblings.next? (Instance.amend (.mark tag))
  | all => everybody (.mark tag)
  | sets => everybody (.sets fun set => set.add [.string tag])
  | optional => siblings.next? (Instance.amend .disable)
  | alternatives => siblings.next? (Instance.amend (.alternatives []))
  | nobody => none

end Reach

end Vetting
