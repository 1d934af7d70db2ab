import Vetting.Message.English
import Vetting.Ruleset.Standard
import Vetting.Schema.Workshop
import Vetting.Validation.Engine

/-!
# Validators

A validator has the rules that schemas are made of and the language of messages.
-/

namespace Vetting

/-- Rules and a language. -/
structure Validator where
  ruleset : Ruleset
  language : Option Language

/-- How a validation is carried out. -/
structure Options where
  convert : Bool := true
  traced : Bool := false
  path : Path := []

namespace Validator

/-- The standard rules, in English. -/
def standard : Validator :=
  ⟨.standard, some .english⟩

/-- No rule and no language. -/
def empty : Validator :=
  ⟨.empty, none⟩

/-- Adds a rule under its names. -/
def add (validator : Validator) (names : Names) (blueprint : Blueprint) : Validator :=
  { validator with ruleset := validator.ruleset.add names blueprint }

/-- Adds a rule under its own name. -/
def addNamed (validator : Validator) (blueprint : Blueprint) : Validator :=
  { validator with ruleset := validator.ruleset.addNamed blueprint }

/-- Speaks another language. -/
def speaking (validator : Validator) (language : Language) : Validator :=
  { validator with language := some language }

/-- Speaks no language. -/
def silent (validator : Validator) : Validator :=
  { validator with language := none }

/-- A new schema without calls. -/
def root (validator : Validator) : Crafting Schema :=
  Schema.root validator.ruleset

/-- A new schema that accepts absent values, as far as there is a rule for it. -/
def schema (validator : Validator) : Crafting Schema := do
  let root ← validator.root
  if validator.ruleset.contains "optional" then root.call "optional" [] else return root

/-- The setting of a validation. -/
def setting (validator : Validator) (options : Options) (now : Instant) : Setting where
  convert := options.convert
  traced := options.traced
  language := validator.language
  now := now

/-- Validates a value at a place, however long it takes. -/
def vetAt (validator : Validator) (schema : Schema) (options : Options) (now : Instant) (path : Path)
    (value : Value) : Crafting (Except Misuse Outcome) := do
  let run := schema.vet (validator.setting options now) path value
  schema.openWithin run.opened
  return run.answer

/-- Validates a value, however long it takes. -/
def vet (validator : Validator) (schema : Schema) (options : Options) (now : Instant) (value : Value) :
    Crafting (Except Misuse Outcome) :=
  validator.vetAt schema options now options.path value

/-- Validates a value in a single turn. -/
def vetAtOnce (validator : Validator) (schema : Schema) (options : Options) (now : Instant)
    (value : Value) : Crafting (Except Misuse Outcome) := do
  let run := schema.vet (validator.setting options now) options.path value
  schema.openWithin run.poll.1
  return run.answerAtOnce?.getD (.error .suspended)

end Validator

/-- What an assertion says of a failure. -/
inductive Complaint where
  | report
  /-- Words in front of the report. -/
  | opening (words : String)
  /-- Words in place of the report. -/
  | instead (words : String)

/-- Why an assertion has failed. -/
inductive AssertionError where
  | invalid (report : Report)
  | usage (error : Misuse)
  | custom (words : String)

/-- The words for a failed assertion. -/
def AssertionError.message : AssertionError → String
  | invalid report => report.text
  | usage error => "Usage error: " ++ error.message
  | custom words => words

/-- What becomes of the report of a failure. -/
def Complaint.about (complaint : Complaint) (report : Report) : AssertionError :=
  match complaint with
  | .report => .invalid report
  | .opening words => .invalid (report.withOpening words)
  | .instead words => .custom words

/-- The accepted form of a value, found in a single turn. -/
def Validator.assert (validator : Validator) (schema : Schema) (now : Instant) (complaint : Complaint)
    (value : Value) : Crafting (Except AssertionError Value) := do
  match ← validator.vetAtOnce schema {} now value with
  | .error error => return .error (.usage error)
  | .ok ⟨_, some report⟩ => return .error (complaint.about report)
  | .ok ⟨accepted, none⟩ => return .ok accepted

end Vetting
