import Vetting.Schema.Parts

/-!
# The workshop

Schemas are made in a workshop, which gives each new one a handle of its own.  The rules of a schema are settled
when it is opened, and the workshop keeps them, even if nothing has come of them.  No call can be made on a
schema any more whose rules are settled.
-/

namespace Vetting

/-- The rules of a schema, unless a call is at fault. -/
abbrev Settled := Except SchemaFault (List (Instance Schema))

/-- The identities that have been issued, and the rules that have been settled, under the handles of the schemas
that they are the rules of. -/
structure Workshop where
  issued : Nat
  settled : List (Handle × Settled)

/-- Work in a workshop. -/
abbrev Crafting := StateM Workshop

namespace Workshop

/-- Nothing has been made yet. -/
def fresh : Workshop :=
  ⟨0, []⟩

/-- A new identity. -/
def issue : Crafting Nat :=
  modifyGet fun workshop => (workshop.issued, { workshop with issued := workshop.issued + 1 })

/-- The rules of a schema as they have been settled. -/
def settled? (workshop : Workshop) (schema : Schema) : Option Settled :=
  workshop.settled.lookup schema.handle

/-- The schema has been opened. -/
def isOpened (workshop : Workshop) (schema : Schema) : Bool :=
  (workshop.settled? schema).isSome

/-- Keeps the rules of a schema. -/
def keep (workshop : Workshop) (schema : Schema) (rules : Settled) : Workshop :=
  { workshop with settled := (schema.handle, rules) :: workshop.settled }

end Workshop

namespace Schema

/-- A new schema without calls. -/
def root (ruleset : Ruleset) : Crafting Schema :=
  return ofRuleset (← Workshop.issue) ruleset

/-- A new schema with one more call, if the schema has no error and has not been opened, and the name is
known in its scope. -/
def tryCall (schema : Schema) (method : String) (arguments : Arguments Schema) :
    Crafting (Except SchemaFault Schema) := do
  match schema.error with
  | some error => return .error error
  | none =>
    if (← get).isOpened schema then return .error .frozen
    match schema.ruleset.lookUp schema.scope method with
    | none => return .error (.unknownRule method schema.scopeName)
    | some node => return .ok (schema.withCall (← Workshop.issue) node arguments)

/-- A new schema with one more call, or with the error of that call. -/
def call (schema : Schema) (method : String) (arguments : Arguments Schema) : Crafting Schema := do
  match ← schema.tryCall method arguments with
  | .ok next => return next
  | .error error => return schema.withError (← Workshop.issue) error

/-- Settles the rules of a schema, unless they are settled already. -/
def settle (schema : Schema) : Crafting Settled := do
  match (← get).settled? schema with
  | some rules => return rules
  | none =>
    let rules := schema.rules
    modify fun workshop => workshop.keep schema rules
    return rules

/-- The rules of a schema; asking for them opens it, unless it has an error. -/
def openRules (schema : Schema) : Crafting Settled :=
  match schema.error with
  | some error => return .error error
  | none => schema.settle

/-- The names of the rules of a schema. -/
def settledNames (schema : Schema) : Crafting (Except SchemaFault (List String)) := do
  return (← schema.openRules).map fun rules => rules.map fun entry => entry.rule.name

/-- Opens schemas one after the other. -/
def openAll : List Schema → Crafting Unit
  | [] => return ()
  | schema :: rest => do
    let _ ← schema.openRules
    openAll rest

/-- Opens those of the schema and of its parts that have the handles. -/
def openWithin (schema : Schema) (handles : List Handle) : Crafting Unit :=
  openAll (schema.family.filter fun part => handles.contains part.handle)

end Schema

end Vetting
