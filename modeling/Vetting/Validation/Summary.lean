import Vetting.Text.Quoted
import Vetting.Validation.Validator

/-!
# Summaries

Short texts that tell what a validator, a schema or a ruleset is made of.
-/

namespace Vetting

namespace Summary

/-- The name of a type with named fields in braces. -/
def record (name : String) (fields : List (String × String)) : String :=
  name ++ " \x7b " ++ ", ".intercalate (fields.map fun (field, text) => field ++ ": " ++ text) ++ " \x7d"

/-- Something that may be missing. -/
def optional : Option String → String
  | some text => "Some(" ++ text ++ ")"
  | none => "None"

/-- Items in brackets. -/
def list (items : List String) : String :=
  "[" ++ ", ".intercalate items ++ "]"

/-- A truth value. -/
def flag (value : Bool) : String :=
  if value then "true" else "false"

end Summary

open Vetting.Text

/-- The summary of an error. -/
def SchemaFault.summary : SchemaFault → String
  | frozen => "Frozen"
  | unknownRule name scope => Summary.record "UnknownRule" [("name", quoted name), ("scope", quoted scope)]
  | invalidArguments rule fault =>
    Summary.record "InvalidArguments" [("rule", quoted rule), ("reason", quoted fault.message)]

/-- The summary of a schema. -/
def Schema.summary (schema : Schema) : Crafting String := do
  let compiled := (← get).isOpened schema
  return Summary.record "Schema" [
    ("scope", quoted schema.scopeName),
    ("calls", toString schema.size),
    ("compiled", Summary.flag compiled),
    ("error", Summary.optional (schema.error.map SchemaFault.summary))]

/-- The summary of a ruleset. -/
def Ruleset.summary (ruleset : Ruleset) : String :=
  Summary.record "Ruleset" [("rules", Summary.list (ruleset.boundNames.map quoted))]

/-- The summary of a validator. -/
def Validator.summary (validator : Validator) : String :=
  Summary.record "Validator" [
    ("rules", toString validator.ruleset.size),
    ("language", Summary.optional (validator.language.map fun language => quoted language.name))]

end Vetting
