import Vetting.Value.Equality

/-!
# Sets of values

A set holds values and the relations by which a value counts as listed.  Deep equality is always one of
them; further ones can be added.
-/

namespace Vetting

/-- A relation between a listed value and a candidate. -/
abbrev Relation := Value → Value → Bool

/-- Listed values, with the relations that decide what counts as listed. -/
structure ListedValues where
  values : List Value
  relations : List Relation

namespace ListedValues

/-- The listed values under deep equality. -/
def ofList (values : List Value) : ListedValues :=
  ⟨values, [Value.same]⟩

/-- No value at all. -/
def empty : ListedValues :=
  ofList []

/-- Some relation of the set relates the two values. -/
def relates (set : ListedValues) (listed candidate : Value) : Bool :=
  set.relations.any fun relation => relation listed candidate

/-- The value counts as listed. -/
def contains (set : ListedValues) (candidate : Value) : Bool :=
  set.values.any fun listed => set.relates listed candidate

/-- Lists further values. -/
def add (set : ListedValues) (values : List Value) : ListedValues :=
  { set with values := set.values ++ values }

/-- Strikes every listed value that is related to one of the given ones. -/
def remove (set : ListedValues) (values : List Value) : ListedValues :=
  { set with
    values := set.values.filter fun listed => !values.any fun candidate => set.relates listed candidate }

/-- Lets one more relation decide. -/
def addRelation (set : ListedValues) (relation : Relation) : ListedValues :=
  { set with relations := set.relations ++ [relation] }

end ListedValues

end Vetting
