import Vetting.Schema.Basic
import Vetting.Validation.Judging

/-!
# Validating

The rules of a schema judge a value one after the other, each the value that the one before it has left.
Where conversion is on, a rule that turns a value down may offer another one and judge once more.

A stand-in that comes first settles everything for an absent value, and has no say about any other.
-/

namespace Vetting

/-- A rule judges a value, and then once more the one it offers instead.  The judgement comes with the value
that it is about. -/
def Rule.attempt (setting : Setting) (path : Path) (rule : Rule Checked) (value : Value) :
    Run (Value × Except Fault Verdict) :=
  (rule.judge setting path value).bind fun
    | .error (.invalid report) =>
      match if setting.convert then rule.convert? value else none with
      | some offered => (rule.judge setting path offered).bind fun verdict => .done (offered, verdict)
      | none => .done (value, .error (.invalid report))
    | verdict => .done (value, verdict)

/-- The rules judge a value one after the other. -/
def vetBy (setting : Setting) (path : Path) :
    List (Rule Checked) → Value → Run (Except Misuse Outcome)
  | [], value => .done (.ok (.pass value))
  | rule :: rest, value =>
    (rule.attempt setting path value).bind fun
      | (value, .ok .pass) => vetBy setting path rest value
      | (_, .ok (.replace next)) => vetBy setting path rest next
      | (value, .ok .abort) => .done (.ok (.pass value))
      | (_, .error (.usage error)) => .done (.error error)
      | (value, .error (.invalid report)) => .done (.ok (setting.failed value report))

/-- The rules judge a value, unless a stand-in comes first and the value is absent. -/
def vetWith (setting : Setting) (rules : List (Rule Checked)) (path : Path) (value : Value) :
    Run (Except Misuse Outcome) :=
  match rules with
  | [] => vetBy setting path [] value
  | first :: rest =>
    match first.standIn? with
    | none => vetBy setting path (first :: rest) value
    | some standIn => if value.isPresent then vetBy setting path rest value else .done (.ok (.pass standIn))

/-- What a schema comes to inside a validation, given its rules.  A schema without an error is opened before
anything else. -/
def Checked.ofRules (setting : Setting) (handle : Handle) (error : Option SchemaFault)
    (rules : Except SchemaFault (List (Instance Checked))) : Checked where
  handle := handle
  vet path value :=
    match error with
    | some error => .done (.error (.schema error))
    | none => .opening handle (match rules with
      | .error error => .done (.error (.schema error))
      | .ok rules => vetWith setting (rules.map Instance.rule) path value)

mutual

/-- What a schema comes to inside a validation. -/
def Schema.checked (setting : Setting) : Schema → Checked
  | ⟨handle, ruleset, _, newestFirst, error⟩ =>
    .ofRules setting handle error
      (Instance.assemble (ruleset.instances (checkedCalls setting newestFirst).reverse))

/-- The calls with what their schemas come to. -/
def checkedCalls (setting : Setting) : List (Call Schema) → List (Call Checked)
  | [] => []
  | ⟨node, arguments⟩ :: rest => ⟨node, checkedArguments setting arguments⟩ :: checkedCalls setting rest

/-- The arguments with what their schemas come to. -/
def checkedArguments (setting : Setting) : List (Argument Schema) → List (Argument Checked)
  | [] => []
  | argument :: rest => checkedArgument setting argument :: checkedArguments setting rest

/-- An argument with what its schemas come to. -/
def checkedArgument (setting : Setting) : Argument Schema → Argument Checked
  | .value value => .value value
  | .schema schema => .schema (Schema.checked setting schema)
  | .keys keys => .keys (checkedKeys setting keys)
  | .regex regex => .regex regex
  | .comparator comparator => .comparator comparator
  | .predicate predicate => .predicate predicate

/-- A key map with what its schemas come to. -/
def checkedKeys (setting : Setting) : List (String × Schema) → List (String × Checked)
  | [] => []
  | (name, schema) :: rest => (name, Schema.checked setting schema) :: checkedKeys setting rest

end

/-- Validates a value at a place. -/
def Schema.vet (schema : Schema) (setting : Setting) (path : Path) (value : Value) :
    Run (Except Misuse Outcome) :=
  (schema.checked setting).vet path value

end Vetting
