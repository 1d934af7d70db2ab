import Vetting.Number.Rounding
import Vetting.Rule.Basic
import Vetting.Run.Join
import Vetting.Validation.Setting

/-!
# Judging

What a rule says of a value at a place, and what it offers in place of a value that it has turned down.
-/

namespace Vetting

/-- A run that brings the verdict of a rule. -/
abbrev Judging := Run (Except Fault Verdict)

namespace Judging

/-- The verdict is known at once. -/
def say (verdict : Verdict) : Judging :=
  .done (.ok verdict)

/-- The rule turns the value down. -/
def fail (path : Path) (rule : String) (particulars : Context) : Judging :=
  .done (.error (.invalid (.ofRule rule path particulars)))

/-- The value passes, or the rule turns it down. -/
def ofBool (passes : Bool) (path : Path) (rule : String) (particulars : Context) : Judging :=
  if passes then say .pass else fail path rule particulars

/-- All parts of a value have to be accepted; where conversion is on, the value is made anew of the accepted
parts. -/
def ofParts (setting : Setting) (parts : List (Run (Except Fault Value)))
    (rebuild : List Value → Value) : Judging :=
  (Run.allPass parts).bind fun
    | .error fault => .done (.error fault)
    | .ok accepted => say (if setting.convert then .replace (rebuild accepted) else .pass)

end Judging

/-! ## Values of any type -/

/-- Judges by a list of values. -/
def Listing.judge (kind : Listing) (set : ListedValues) (path : Path) (value : Value) : Judging :=
  let listed := set.contains value
  match kind with
  | valid => if listed then .say .abort else .fail path kind.name [("allowed", .array set.values)]
  | invalid => .ofBool (!listed) path kind.name [("value", value)]
  | allow => .say (if listed then .abort else .pass)

/-- The words for a judgement that does not accept. -/
def Judgement.refusal? : Judgement → Option String
  | accepted => none
  | refused words => some words
  | crashed words => some ("Failed with error " ++ words.getD "unknown panic")

/-- Judges by a predicate, whose words are the message of the finding. -/
def Predicate.toJudging (predicate : Predicate) (path : Path) (value : Value) : Judging :=
  .pausing (predicate.pauses value) <| match (predicate.judge value).refusal? with
    | none => Judging.say .pass
    | some words =>
      .done (.error (.invalid
        ((Report.ofRule "custom" path [("message", .string words)]).attach fun _ => some words)))

/-- Judges by the first schema that accepts the value. -/
def judgeAlternatives (schemas : List Checked) (path : Path) (value : Value) : Judging :=
  (Run.firstPass (schemas.map fun schema => schema.accept path value)).bind fun
    | some (.ok accepted) => Judging.say (.replace accepted)
    | some (.error fault) => .done (.error fault)
    | none => Judging.fail path "alternatives" []

/-- What a declared rule answers. -/
def Answer.toJudging : Answer → Judging
  | pass => .say .pass
  | abort => .say .abort
  | replace value => .say (.replace value)
  | suspended => .done (.error (.usage .suspended))
  | frozen => .done (.error (.usage (.schema .frozen)))

/-- Judges by a declared rule. -/
def Declaration.judge (declaration : Declaration) (path : Path) (value : Value) : Judging :=
  .pausing declaration.pauses <|
    if declaration.accepts value then declaration.answer.toJudging
    else Judging.fail path declaration.name
      [("got", value), ("marks", .array (declaration.marks.map .string))]

/-! ## Objects -/

/-- Puts the accepted members that are there in place of the old ones. -/
def writeBack (members accepted : Members Value) : Members Value :=
  accepted.foldl (fun members (name, value) =>
    if value.isPresent then members.put name value else members) members

/-- A member that has no place in the object. -/
def judgeUnknown (path : Path) (name : String) : Judging :=
  .fail path "object.unknown" [("key", .string name)]

/-- Judges members by schemas of their own. -/
def judgeMembers (setting : Setting) (path : Path) (members : Members Value)
    (schemas : Members Checked) : Judging :=
  .ofParts setting
    (schemas.map fun (name, schema) =>
      schema.accept (path.key name) ((members.get? name).getD .undefined))
    fun accepted => .object (writeBack members (schemas.names.zip accepted))

/-- A key map or one of its patterns names the member. -/
def KeyRule.knows {σ : Type} (rule : KeyRule σ) (name : String) : Bool :=
  Members.has rule.keys name || rule.patterns.any fun pattern => pattern.occursIn name

/-- The first member that no key and no pattern names, unless such members are allowed. -/
def KeyRule.stranger? {σ : Type} (rule : KeyRule σ) (members : Members Value) : Option String :=
  if rule.allowsUnknown then none else members.names.find? fun name => !rule.knows name

/-- Judges an object by its key map. -/
def KeyRule.judge (rule : KeyRule Checked) (setting : Setting) (path : Path) (value : Value) : Judging :=
  match value.asMembers? with
  | none => .fail path "object.keys" []
  | some members =>
    match rule.stranger? members with
    | some name => judgeUnknown path name
    | none => judgeMembers setting path members rule.keys

/-- Judges the members of an object whose names have a pattern; without a key map beside it, the pattern
decides which members may be there. -/
def PatternRule.judge (rule : PatternRule Checked) (setting : Setting) (path : Path) (value : Value) :
    Judging :=
  match rule.match? with
  | none => .say .pass
  | some (pattern, schema) =>
    match value.asMembers? with
    | none => .fail path "object.pattern" []
    | some members =>
      let stranger? :=
        if rule.hasKeys || rule.allowsUnknown then none
        else members.names.find? fun name => !pattern.occursIn name
      match stranger? with
      | some name => judgeUnknown path name
      | none =>
        judgeMembers setting path members
          ((members.names.filter pattern.occursIn).map fun name => (name, schema))

/-! ## Arrays -/

/-- Judges items by schemas of their own. -/
def judgeItems (setting : Setting) (path : Path) (items : List (Value × Checked)) : Judging :=
  .ofParts setting
    (items.zipIdx.map fun ((item, schema), place) => schema.accept (path.index place) item)
    .array

/-- Judges an array by its type alone. -/
def judgeArray (sparse : Bool) (path : Path) (value : Value) : Judging :=
  .ofBool (value.asItems?.any fun items => sparse || items.all Value.isPresent) path "array" []

/-- Judges all items by one schema. -/
def judgeEach (setting : Setting) (schema : Checked) (path : Path) (value : Value) : Judging :=
  match value.asItems? with
  | none => .fail path "array" []
  | some items => judgeItems setting path (items.map fun item => (item, schema))

/-- Judges each item by the schema at its place. -/
def judgeOrdered (setting : Setting) (schemas : List Checked) (path : Path) (value : Value) : Judging :=
  match value.asItems? with
  | none => .fail path "array" []
  | some items =>
    if items.length = schemas.length then judgeItems setting path (items.zip schemas)
    else .fail path "array.ordered"
      [("length", .ofNat items.length), ("expected", .ofNat schemas.length)]

/-- The first item that counts as the same as an earlier one, with its place. -/
def Criterion.duplicate? (criterion : Criterion) (items : List Value) : Option (Nat × Value) :=
  (items.zipIdx.find? fun (item, place) =>
    (items.take place).any fun earlier => criterion.relates earlier item).map fun (item, place) =>
      (place, item)

/-- Judges an array by the items that occur twice. -/
def Criterion.judge (criterion : Criterion) (path : Path) (value : Value) : Judging :=
  match value.asItems? with
  | none => .fail path "array" []
  | some items =>
    match criterion.duplicate? items with
    | none => .say .pass
    | some (place, item) =>
      .fail path "array.unique"
        [("violator", .ofEntries [("value", item), ("index", .ofNat place)])]

/-! ## Counts, numbers and texts -/

/-- Judges by a count. -/
def judgeLength (measure : Measure) (bound : Bound) (limit : Nat) (path : Path) (value : Value) :
    Judging :=
  match measure.of? value with
  | none => .fail path (bound.ruleName measure) []
  | some count =>
    .ofBool (bound.accepts count limit) path (bound.ruleName measure)
      [(measure.name, .ofNat count), (bound.name, .ofNat limit)]

/-- Judges a number by a limit. -/
def Comparison.judge (comparison : Comparison) (limit : Float) (path : Path) (value : Value) : Judging :=
  .ofBool (value.asNumber?.any fun n => comparison.accepts n limit) path comparison.ruleName
    [(comparison.name, .number limit)]

/-- Judges a number by a divisor. -/
def judgeMultiple (base : Float) (path : Path) (value : Value) : Judging :=
  .ofBool (value.asNumber?.any fun n => Number.isMultipleOf n base) path "number.multiple"
    [("multiple", .number base)]

/-- Judges a number by the digits after its point. -/
def judgePrecision (limit : Nat) (path : Path) (value : Value) : Judging :=
  match value.asNumber? with
  | none => .fail path "number" []
  | some n =>
    let places := Number.decimalPlaces n
    .ofBool (places ≤ limit) path "number.precision"
      [("precision", .ofNat places), ("limit", .ofNat limit)]

/-- Judges a text by a regular expression. -/
def Regex.judge (regex : Regex) (path : Path) (value : Value) : Judging :=
  .ofBool (value.asString?.any regex.occursIn) path "string.regex" [("regEx", .string regex.source)]

/-- Judges a text as an address. -/
def AddressOptions.judge (options : AddressOptions) (path : Path) (value : Value) : Judging :=
  let fault? := match value.asString? with
    | some text => options.fault? text
    | none => some .notMatched
  match fault? with
  | none => .say .pass
  | some fault =>
    .fail path "string.ip" [("reason", .string fault.name), ("allowed", options.versionNames)]

/-- Judges a text as a reference. -/
def ReferenceOptions.judge (options : ReferenceOptions) (path : Path) (value : Value) : Judging :=
  let fault? := match value.asString? with
    | some text => options.fault? text
    | none => some .invalid
  match fault? with
  | none => .say .pass
  | some fault =>
    .fail path "string.uri" [("reason", .string fault.name), ("allowed", options.schemeNames)]

namespace Rule

/-- What the rule says of a value at a place. -/
def judge (setting : Setting) (path : Path) (value : Value) : Rule Checked → Judging
  | any | standIn _ _ | furtherAlternatives | allowUnknown | allowSparse | allowSingle | insensitive =>
    .say .pass
  | optional enabled => .say (if enabled && !value.isPresent then .abort else .pass)
  | listing kind set _ => kind.judge set path value
  | custom none | items none | regex none => .say .pass
  | custom (some predicate) => predicate.toJudging path value
  | alternatives schemas => judgeAlternatives schemas path value
  | keys rule => rule.judge setting path value
  | pattern rule => rule.judge setting path value
  | array _ sparse => judgeArray sparse path value
  | items (some schema) => judgeEach setting schema path value
  | ordered schemas => judgeOrdered setting schemas path value
  | unique criterion => criterion.judge path value
  | length measure bound limit => judgeLength measure bound limit path value
  | number comparison limit => comparison.judge limit path value
  | multiple base => judgeMultiple base path value
  | precision places => judgePrecision places path value
  | regex (some expression) => expression.judge path value
  | address options => options.judge path value
  | reference options => options.judge path value
  | check test => .ofBool (test.accepts setting.now value) path test.name []
  | declared declaration => declaration.judge path value

/-- The value that the rule offers in place of one that it has turned down. -/
def convert? {σ : Type} (value : Value) : Rule σ → Option Value
  | array single _ => if single && value.asItems?.isNone then some (.array [value]) else none
  | precision places =>
    (value.asNumber?.filter Float.isFinite).map fun n => .number (Number.rounded n places)
  | check test => test.convert? value
  | declared declaration => declaration.offer
  | _ => none

end Rule

end Vetting
