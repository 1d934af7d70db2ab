import Vetting.Ruleset.Basic

/-!
# The standard rules

The rules that every ordinary ruleset begins with, in the order of their registration.
-/

namespace Vetting.Ruleset

/-- A list without values. -/
def freshListing (kind : Listing) : Blueprint :=
  .listing kind .empty false

/-- The rules about values of any type. -/
def generalRules : List Blueprint := [
  .any, .optional false, .check .required, .check .forbidden,
  freshListing .valid, freshListing .invalid, freshListing .allow,
  .custom none, .standIn .undefined false,
  .alternatives [], .furtherAlternatives]

/-- The rules about objects. -/
def objectRules : List Blueprint := [
  .check .object, .keys ⟨[], [], false, false⟩, .pattern ⟨none, false, false⟩, .allowUnknown]

/-- The rules about arrays. -/
def arrayRules : List Blueprint := [
  .array false false, .allowSparse, .allowSingle, .items none, .ordered [],
  .length .items .min 0, .length .items .max 0, .length .items .exact 0, .unique .equality]

/-- The rules about texts. -/
def stringRules : List Blueprint := [
  .check .string, .insensitive,
  .length .characters .min 0, .length .characters .max 0, .length .characters .exact 0,
  .regex none, .check .alphanumeric, .check .token, .check .mailAddress, .check .guid,
  .check .hexadecimal, .check .hostName, .check .isoDate, .check .creditCard,
  .check .lowercase, .check .uppercase, .check .trimmed,
  .address .standard, .reference .standard]

/-- The rules about numbers. -/
def numberRules : List Blueprint := [
  .check .number, .check .integer,
  .number .min 0, .number .max 0, .number .greater 0, .number .less 0,
  .check .positive, .check .negative, .multiple 0, .precision 0]

/-- The rules about truth values, dates and functions. -/
def otherRules : List Blueprint := [
  .check .boolean, .check .date, .check .future, .check .function,
  .length .arity .exact 0, .length .arity .min 0, .length .arity .max 0]

/-- All standard rules. -/
def standardRules : List Blueprint :=
  generalRules ++ objectRules ++ arrayRules ++ stringRules ++ numberRules ++ otherRules

/-- The ruleset of the standard rules. -/
@[irreducible] def standard : Ruleset :=
  standardRules.foldl addNamed empty

/-- The standard ruleset has the standard rules, each under its name. -/
theorem standard_eq : standard = standardRules.foldl addNamed empty := by
  delta standard
  rfl

end Vetting.Ruleset
