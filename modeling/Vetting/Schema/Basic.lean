import Vetting.Rule.Assembly
import Vetting.Ruleset.Basic

/-!
# Schemas

A schema is a row of calls.  Each call names a node of a ruleset and brings arguments, among which may be
further schemas.  The rules of a schema follow from its calls alone.
-/

namespace Vetting

/-- A call of a rule, with schemas of type `σ` among its arguments. -/
structure Call (σ : Type) where
  node : Node
  arguments : List (Argument σ)

/-- A schema.  Its handle tells it from every other one, even one of the same calls. -/
structure Schema where
  handle : Handle
  ruleset : Ruleset
  /-- The node in which the name of the next call is looked for. -/
  scope : Node
  /-- The calls, the last one first. -/
  newestFirst : List (Call Schema)
  /-- The first error of a call; there are no calls after it. -/
  error : Option SchemaFault

/-- The rules that the calls bring along; a call of a node without a rule brings none. -/
def Ruleset.instances {σ : Type} (ruleset : Ruleset) (calls : List (Call σ)) : List (Instance σ) :=
  calls.filterMap fun call =>
    (ruleset.blueprint? call.node).map fun blueprint => ⟨blueprint.fresh, call.arguments⟩

namespace Schema

instance : Identified Schema := ⟨handle⟩

/-- The two are one schema. -/
def same (left right : Schema) : Bool :=
  left.handle == right.handle

/-- The schema without calls. -/
def ofRuleset (handle : Handle) (ruleset : Ruleset) : Schema :=
  { handle, ruleset, scope := Ruleset.root, newestFirst := [], error := none }

/-- The calls in their order. -/
def calls (schema : Schema) : List (Call Schema) :=
  schema.newestFirst.reverse

/-- The schema carries no error. -/
def check (schema : Schema) : Except SchemaFault Unit :=
  match schema.error with
  | some error => .error error
  | none => .ok ()

/-- The rules that take part in validations. -/
def rules (schema : Schema) : Except SchemaFault (List (Instance Schema)) := do
  schema.check
  Instance.assemble (schema.ruleset.instances schema.calls)

/-- The schema with one more call. -/
def withCall (schema : Schema) (handle : Handle) (node : Node) (arguments : Arguments Schema) : Schema :=
  { schema with handle, scope := node, newestFirst := ⟨node, arguments⟩ :: schema.newestFirst }

/-- A further call comes last. -/
theorem calls_withCall (schema : Schema) (handle : Handle) (node : Node) (arguments : Arguments Schema) :
    (schema.withCall handle node arguments).calls = schema.calls ++ [⟨node, arguments⟩] :=
  List.reverse_cons

/-- The schema with an error, unless it has one already. -/
def withError (schema : Schema) (handle : Handle) (error : SchemaFault) : Schema :=
  { schema with handle, error := some (schema.error.getD error) }

/-- The qualified name of the scope. -/
def scopeName (schema : Schema) : String :=
  schema.ruleset.dottedName schema.scope

/-- The number of calls. -/
def size (schema : Schema) : Nat :=
  schema.newestFirst.length

end Schema

end Vetting
