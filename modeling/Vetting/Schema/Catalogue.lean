import Vetting.Schema.Workshop

/-!
# The catalogue of calls

A function for every standard rule, which makes the call with arguments of the right kinds.  The name of the
rule is looked for in the scope of the schema, as with any other call.
-/

namespace Vetting.Schema

/-- A call without arguments. -/
def callPlain (schema : Schema) (method : String) : Crafting Schema :=
  schema.call method []

/-- A call with values. -/
def callValues (schema : Schema) (method : String) (values : List Value) : Crafting Schema :=
  schema.call method (values.map .value)

/-- A call with schemas. -/
def callSchemas (schema : Schema) (method : String) (schemas : List Schema) : Crafting Schema :=
  schema.call method (schemas.map .schema)

/-! ## Values of any type -/

/-- Any value. -/
def any (schema : Schema) : Crafting Schema :=
  schema.callPlain "any"

/-- An absent value passes at once. -/
def optional (schema : Schema) : Crafting Schema :=
  schema.callPlain "optional"

/-- The value must not be absent. -/
def required (schema : Schema) : Crafting Schema :=
  schema.callPlain "required"

/-- The value must be absent. -/
def forbidden (schema : Schema) : Crafting Schema :=
  schema.callPlain "forbidden"

/-- An object. -/
def object (schema : Schema) : Crafting Schema :=
  schema.callPlain "object"

/-- An array. -/
def array (schema : Schema) : Crafting Schema :=
  schema.callPlain "array"

/-- A text that is not empty. -/
def string (schema : Schema) : Crafting Schema :=
  schema.callPlain "string"

/-- A finite number. -/
def number (schema : Schema) : Crafting Schema :=
  schema.callPlain "number"

/-- A truth value. -/
def boolean (schema : Schema) : Crafting Schema :=
  schema.callPlain "boolean"

/-- A date. -/
def date (schema : Schema) : Crafting Schema :=
  schema.callPlain "date"

/-- A function. -/
def func (schema : Schema) : Crafting Schema :=
  schema.callPlain "func"

/-- One of the values. -/
def valid (schema : Schema) (values : List Value) : Crafting Schema :=
  schema.callValues "valid" values

/-- None of the values. -/
def invalid (schema : Schema) (values : List Value) : Crafting Schema :=
  schema.callValues "invalid" values

/-- One of the values passes at once. -/
def allow (schema : Schema) (values : List Value) : Crafting Schema :=
  schema.callValues "allow" values

/-- The value in place of an absent one. -/
def default (schema : Schema) (value : Value) : Crafting Schema :=
  schema.callValues "default" [value]

/-- A value that the predicate accepts. -/
def custom (schema : Schema) (predicate : Predicate) : Crafting Schema :=
  schema.call "custom" [.predicate predicate]

/-- A value that one of the schemas accepts. -/
def alternatives (schema : Schema) (schemas : List Schema) : Crafting Schema :=
  schema.callSchemas "alternatives" schemas

/-- Further alternatives. -/
def furtherAlternatives (schema : Schema) (schemas : List Schema) : Crafting Schema :=
  schema.callSchemas "try" schemas

/-! ## Limits -/

/-- At least so much. -/
def min (schema : Schema) (limit : Value) : Crafting Schema :=
  schema.callValues "min" [limit]

/-- At most so much. -/
def max (schema : Schema) (limit : Value) : Crafting Schema :=
  schema.callValues "max" [limit]

/-- Exactly so long. -/
def length (schema : Schema) (limit : Value) : Crafting Schema :=
  schema.callValues "length" [limit]

/-- More than the limit. -/
def greater (schema : Schema) (limit : Value) : Crafting Schema :=
  schema.callValues "greater" [limit]

/-- Less than the limit. -/
def less (schema : Schema) (limit : Value) : Crafting Schema :=
  schema.callValues "less" [limit]

/-- A multiple of the limit. -/
def multiple (schema : Schema) (limit : Value) : Crafting Schema :=
  schema.callValues "multiple" [limit]

/-- At most so many digits after the point. -/
def precision (schema : Schema) (limit : Value) : Crafting Schema :=
  schema.callValues "precision" [limit]

/-- Exactly so many parameters. -/
def arity (schema : Schema) (limit : Value) : Crafting Schema :=
  schema.callValues "arity" [limit]

/-- At least so many parameters. -/
def minArity (schema : Schema) (limit : Value) : Crafting Schema :=
  schema.callValues "minArity" [limit]

/-- At most so many parameters. -/
def maxArity (schema : Schema) (limit : Value) : Crafting Schema :=
  schema.callValues "maxArity" [limit]

/-! ## Objects -/

/-- Members that their schemas accept, and no others. -/
def keys (schema : Schema) (keys : List (String × Schema)) : Crafting Schema :=
  schema.call "keys" [.keys (Members.ofList keys)]

/-- Members whose names have a pattern. -/
def pattern (schema : Schema) (names : Regex) (members : Schema) : Crafting Schema :=
  schema.call "pattern" [.regex names, .schema members]

/-- Unknown members are allowed. -/
def unknown (schema : Schema) : Crafting Schema :=
  schema.callPlain "unknown"

/-- Unknown members are allowed or forbidden. -/
def unknownIf (schema : Schema) (allow : Bool) : Crafting Schema :=
  schema.callValues "unknown" [.boolean allow]

/-! ## Arrays -/

/-- Items that the schema accepts. -/
def items (schema each : Schema) : Crafting Schema :=
  schema.call "items" [.schema each]

/-- An item for each schema. -/
def ordered (schema : Schema) (schemas : List Schema) : Crafting Schema :=
  schema.callSchemas "ordered" schemas

/-- No two equal items. -/
def unique (schema : Schema) : Crafting Schema :=
  schema.callPlain "unique"

/-- No two items that are equal at the end of a path. -/
def uniqueAt (schema : Schema) (path : String) : Crafting Schema :=
  schema.callValues "unique" [.string path]

/-- No two items that the comparator relates. -/
def uniqueUnder (schema : Schema) (comparator : Comparator) : Crafting Schema :=
  schema.call "unique" [.comparator comparator]

/-- The array may have holes. -/
def sparse (schema : Schema) : Crafting Schema :=
  schema.callPlain "sparse"

/-- A single value may stand for an array. -/
def single (schema : Schema) : Crafting Schema :=
  schema.callPlain "single"

/-! ## Texts -/

/-- A text in which the expression occurs. -/
def regex (schema : Schema) (regex : Regex) : Crafting Schema :=
  schema.call "regex" [.regex regex]

/-- An address. -/
def ip (schema : Schema) : Crafting Schema :=
  schema.callPlain "ip"

/-- A wanted address. -/
def ipAmong (schema : Schema) (options : AddressOptions) : Crafting Schema :=
  schema.callValues "ip" [options.toValue]

/-- A reference. -/
def uri (schema : Schema) : Crafting Schema :=
  schema.callPlain "uri"

/-- A wanted reference. -/
def uriAmong (schema : Schema) (options : ReferenceOptions) : Crafting Schema :=
  schema.callValues "uri" [options.toValue]

/-- Letters and digits. -/
def alphanum (schema : Schema) : Crafting Schema :=
  schema.callPlain "alphanum"

/-- Letters, digits and underscores. -/
def token (schema : Schema) : Crafting Schema :=
  schema.callPlain "token"

/-- A mail address. -/
def email (schema : Schema) : Crafting Schema :=
  schema.callPlain "email"

/-- An identifier of thirty-two digits in base sixteen. -/
def guid (schema : Schema) : Crafting Schema :=
  schema.callPlain "guid"

/-- Digits in base sixteen. -/
def hex (schema : Schema) : Crafting Schema :=
  schema.callPlain "hex"

/-- The name or the address of a host. -/
def hostname (schema : Schema) : Crafting Schema :=
  schema.callPlain "hostname"

/-- No upper case. -/
def lowercase (schema : Schema) : Crafting Schema :=
  schema.callPlain "lowercase"

/-- No lower case. -/
def uppercase (schema : Schema) : Crafting Schema :=
  schema.callPlain "uppercase"

/-- No blanks at either end. -/
def trim (schema : Schema) : Crafting Schema :=
  schema.callPlain "trim"

/-- A date in the international format. -/
def isoDate (schema : Schema) : Crafting Schema :=
  schema.callPlain "isoDate"

/-- A card number. -/
def creditCard (schema : Schema) : Crafting Schema :=
  schema.callPlain "creditCard"

/-- The case of letters does not count in lists of values. -/
def insensitive (schema : Schema) : Crafting Schema :=
  schema.callPlain "insensitive"

/-! ## Numbers and dates -/

/-- A whole number. -/
def integer (schema : Schema) : Crafting Schema :=
  schema.callPlain "integer"

/-- More than zero. -/
def positive (schema : Schema) : Crafting Schema :=
  schema.callPlain "positive"

/-- Less than zero. -/
def negative (schema : Schema) : Crafting Schema :=
  schema.callPlain "negative"

/-- Later than now. -/
def greaterThanNow (schema : Schema) : Crafting Schema :=
  schema.callPlain "greaterThanNow"

end Vetting.Schema
