import Vetting.Misuse
import Vetting.Message.Language
import Vetting.Report.Basic
import Vetting.Run.Basic

/-!
# The setting of a validation

What stays the same all through a validation, and what comes out of it.
-/

namespace Vetting

/-- What stays the same all through a validation. -/
structure Setting where
  /-- Rules may offer other values, and composite rules write accepted values back. -/
  convert : Bool
  /-- Reports record where they arose. -/
  traced : Bool
  /-- The language of messages. -/
  language : Option Language
  now : Instant

/-- What comes out of a validation: a value, and a report if the value has failed. -/
structure Outcome where
  value : Value
  report : Option Report

namespace Outcome

/-- The value passes. -/
def pass (value : Value) : Outcome :=
  ⟨value, none⟩

/-- The value fails. -/
def fail (value : Value) (report : Report) : Outcome :=
  ⟨value, some report⟩

end Outcome

/-- The outcome of a failure: messages are added where they are missing. -/
def Setting.failed (setting : Setting) (value : Value) (report : Report) : Outcome :=
  let worded := match setting.language with
    | some language => report.attach language.format?
    | none => report
  .fail value (if setting.traced then worded.trace else worded)

/-- What a rule says of a value that it does not turn down. -/
inductive Verdict where
  | pass
  /-- The value passes in another form. -/
  | replace (value : Value)
  /-- The value passes, and no later rule sees it. -/
  | abort

/-- Why a rule turns a value down, or has nothing to say of it. -/
inductive Fault where
  | invalid (report : Report)
  | usage (error : Misuse)

/-- What is left of a schema inside a validation. -/
structure Checked where
  handle : Handle
  /-- Validates a value at a place. -/
  vet : Path → Value → Run (Except Misuse Outcome)

namespace Checked

instance : Identified Checked := ⟨handle⟩

/-- The accepted form of a value. -/
def accept (schema : Checked) (path : Path) (value : Value) : Run (Except Fault Value) :=
  (schema.vet path value).bind fun
    | .error error => .done (.error (.usage error))
    | .ok ⟨_, some report⟩ => .done (.error (.invalid report))
    | .ok ⟨accepted, none⟩ => .done (.ok accepted)

end Checked

end Vetting
