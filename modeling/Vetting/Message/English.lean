import Vetting.Message.Language

/-!
# English messages

Most rules are put into words by a template; four of them choose their words by what went wrong.
-/

namespace Vetting.Language

/-- The rules that are put into words by a template. -/
def englishTemplates : List (String × String) := [
  ("required", "\"{label}\" is required."),
  ("forbidden", "\"{label}\" is forbidden."),
  ("invalid", "\"{label}\" must not equal {value}."),
  ("alternatives", "\"{label}\" does not match any of the allowed alternatives."),
  ("object", "\"{label}\" must be an object."),
  ("object.keys", "\"{label}\" is not an object."),
  ("object.pattern", "\"{label}\" is not an object."),
  ("object.unknown", "\"{label}\" should not have \"{key}\"."),
  ("array", "\"{label}\" must be an array."),
  ("array.items", "\"{label}\" must be an array."),
  ("array.ordered", "\"{label}\" must have exactly {expected} ordered elements."),
  ("array.min", "\"{label}\" must have at least {min} elements."),
  ("array.max", "\"{label}\" may not have more than {max} elements."),
  ("array.length", "\"{label}\" must have exactly {expected} elements."),
  ("array.unique", "\"{label}\" must be unique but duplicate \"{violator.value}\" was found at index {violator.index}."),
  ("string", "\"{label}\" must be a string."),
  ("string.min", "\"{label}\" must be at least {min} characters long."),
  ("string.max", "\"{label}\" may not be more than {max} characters long."),
  ("string.length", "\"{label}\" must be exactly {expected} characters long."),
  ("string.creditCard", "\"{label}\" must be a credit card number."),
  ("string.regex", "\"{label}\" must match the RegEx {regEx}."),
  ("string.alphanum", "\"{label}\" must be exactly alpha-numeric."),
  ("string.token", "\"{label}\" must be a token ([0-9a-z_]+)."),
  ("string.email", "\"{label}\" must be a valid Email address."),
  ("string.guid", "\"{label}\" must be a GUID."),
  ("string.hex", "\"{label}\" must be hexadecimal."),
  ("string.hostname", "\"{label}\" must be a valid hostname."),
  ("string.lowercase", "\"{label}\" must be lower case."),
  ("string.uppercase", "\"{label}\" must be upper case."),
  ("string.trim", "\"{label}\" must be trimmed."),
  ("string.isoDate", "\"{label}\" must be a valid ISO date."),
  ("boolean", "\"{label}\" must be a boolean."),
  ("func", "\"{label}\" must be a function."),
  ("func.arity", "\"{label}\" must have exactly {expected} arguments."),
  ("func.minArity", "\"{label}\" must have at least {min} arguments."),
  ("func.maxArity", "\"{label}\" may not have more than {max} arguments."),
  ("number", "\"{label}\" must be a number."),
  ("number.integer", "\"{label}\" must be an integer."),
  ("number.min", "\"{label}\" must be greater than or equal to {min}."),
  ("number.max", "\"{label}\" must be less than or equal to {max}."),
  ("number.greater", "\"{label}\" must be greater than {greater}."),
  ("number.less", "\"{label}\" must be less than {less}."),
  ("number.negative", "\"{label}\" must be negative."),
  ("number.positive", "\"{label}\" must be positive."),
  ("number.multiple", "\"{label}\" must be a multiple of {multiple}."),
  ("number.precision", "\"{label}\" must have a max precision of {limit}."),
  ("date", "\"{label}\" must be an iso date."),
  ("date.greaterThanNow", "\"{label}\" must be a date in the future.")]

/-- The reason that a finding gives. -/
def reason? (finding : Finding) : Option String :=
  (Message.placeholder? finding "reason").map Value.text

/-- A predicate that was given by the user speaks for itself. -/
def customWording : Wording := fun finding =>
  match Message.placeholder? finding "message" with
  | some message => message.text
  | none => Message.render "\"{label}\" failed custom validation." finding

/-- A value that is not listed. -/
def validWording : Wording := fun finding =>
  match Message.placeholder? finding "allowed" with
  | some (.array []) => Message.render "\"{label}\" is not valid." finding
  | _ => Message.render "\"{label}\" is not valid and must be {allowed}." finding

/-- An address that was not accepted. -/
def ipWording : Wording := fun finding =>
  match reason? finding with
  | some "cidr-required" => Message.render "\"{label}\" must contain a valid CIDR." finding
  | some "cidr-not-allowed" => Message.render "\"{label}\" must not contain a CIDR." finding
  | _ =>
    Message.render "\"{label}\"" finding ++ " must be a valid "
      ++ Message.join finding "allowed" " or " ++ " address."

/-- A reference that was not accepted. -/
def uriWording : Wording := fun finding =>
  match reason? finding with
  | some "scheme-not-allowed" =>
    Message.render "\"{label}\"" finding ++ " scheme must be "
      ++ Message.join finding "allowed" " or " ++ "."
  | some "relative-not-allowed" => Message.render "\"{label}\" must be an absolute URL." finding
  | _ => Message.render "\"{label}\" must be a valid URL." finding

/-- The English language. -/
def english : Language :=
  let templated := englishTemplates.foldl
    (fun language (rule, template) => language.addTemplate rule template) (empty "en")
  ((((templated.addWording "custom" customWording).addWording "valid" validWording).addWording
    "string.ip" ipWording).addWording "string.uri" uriWording)

end Vetting.Language
