/-!
# Mistakes in the use of the library

A schema can be built wrongly, and a validation can be asked for in the wrong way.  Neither says anything
about the value at hand: that is what a `Report` is for.
-/

namespace Vetting

/-- What is wrong with the arguments of a rule. -/
inductive ArgumentFault where
  | notValue (index : Nat)
  | notNumber (index : Nat)
  | notCount (index : Nat)
  | notFlag (index : Nat)
  | notSchema (index : Nat)
  | notPredicate
  | notKeys
  | notRegex
  | notCriterion
  | zeroBase
  | optionsNotObject
  | unknownVersion (name : String)
  | unknownCidr (name : String)
  | schemeNotText (scheme : String)
  | allowRelativeNotFlag
  /-- A declared rule complains in its own words. -/
  | complaint (words : String)
deriving DecidableEq

/-- The words for a fault. -/
def ArgumentFault.message : ArgumentFault → String
  | notValue index => "argument " ++ toString index ++ " must be a value"
  | notNumber index => "argument " ++ toString index ++ " must be a number"
  | notCount index => "argument " ++ toString index ++ " must be a non-negative integer"
  | notFlag index => "argument " ++ toString index ++ " must be a boolean"
  | notSchema index => "argument " ++ toString index ++ " must be a schema"
  | notPredicate => "argument 0 must be a predicate"
  | notKeys => "argument 0 must be a key map"
  | notRegex => "argument 0 must be a regex"
  | notCriterion => "argument 0 must be a key or a comparator"
  | zeroBase => "argument 0 must not be zero"
  | optionsNotObject => "options must be an object"
  | unknownVersion name => "unknown ip version " ++ name
  | unknownCidr name => "unknown cidr mode " ++ name
  | schemeNotText scheme => "scheme " ++ scheme ++ " must be a string"
  | allowRelativeNotFlag => "allowRelative must be a boolean"
  | complaint words => words

/-- Why a schema cannot be built or used. -/
inductive SchemaFault where
  /-- A call on a schema whose rules are settled already. -/
  | frozen
  | unknownRule (name scope : String)
  | invalidArguments (rule : String) (fault : ArgumentFault)
deriving DecidableEq

/-- The words for an error of a schema. -/
def SchemaFault.message : SchemaFault → String
  | frozen => "You cannot modify schemas after you start validating them"
  | unknownRule name scope => "Unknown rule '" ++ name ++ "' in scope '" ++ scope ++ "'"
  | invalidArguments rule fault => "Invalid arguments for '" ++ rule ++ "': " ++ fault.message

/-- Why a validation has no outcome. -/
inductive Misuse where
  | schema (error : SchemaFault)
  /-- The validation waits for something, though an answer was wanted at once. -/
  | suspended
deriving DecidableEq

/-- The words for an error of use. -/
def Misuse.message : Misuse → String
  | schema error => error.message
  | suspended => "Cannot validate asynchronous rules synchronously"

end Vetting
