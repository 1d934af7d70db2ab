import Vetting.Argument.Reading
import Vetting.Rule.Amendment
import Vetting.Text.Casing

/-!
# Wiring

Wiring fills a fresh rule in from its arguments and lets it act on its siblings.  Of several rules that
gather the same thing the first one gathers for all: `valid`, `invalid`, `allow`, `default` and
`object.keys` hand what they have to an earlier rule of their sort, and only a first one operates.
-/

namespace Vetting

variable {σ : Type}

/-- Two texts that differ in the case of letters at most. -/
def sameIgnoringCase : Relation
  | .string left, .string right => Text.toLower left == Text.toLower right
  | _, _ => false

/-- Lets a declared rule reach its siblings; the tag of a rule bears the number of earlier siblings. -/
def reachSiblings (siblings : Siblings (Instance σ)) : List (Reach × String) →
    List Bool × Siblings (Instance σ)
  | [] => ([], siblings)
  | (reach, tag) :: rest =>
    let tag := tag ++ "@" ++ toString siblings.before.length
    let reached := reach.amend? tag siblings
    let (found, siblings) := reachSiblings (reached.getD siblings) rest
    (reached.isSome :: found, siblings)

namespace Rule

/-- Hands the change to the first earlier sibling that takes it, else keeps it to itself. -/
def gather (siblings : Siblings (Instance σ)) (amendment : Amendment σ) (own wired : Rule σ) :
    Rule σ × Siblings (Instance σ) :=
  match siblings.first? (Instance.amend amendment) with
  | some siblings => (own, siblings)
  | none => (wired, siblings)

/-- Wires a list of values; a list of invalid ones strikes them from all valid and allowed ones. -/
def wireListing (kind : Listing) (set : ListedValues) (values : List Value)
    (siblings : Siblings (Instance σ)) : Rule σ × Siblings (Instance σ) :=
  let strike (struck : Listing) (siblings : Siblings (Instance σ)) :=
    siblings.amendAll (.listing struck fun set => set.remove values)
  let siblings := if kind = .invalid then strike .allow (strike .valid siblings) else siblings
  gather siblings (.listing kind fun set => set.add values) (listing kind set false)
    (listing kind (set.add values) true)

/-- Wires a key map. -/
def wireKeys (rule : KeyRule σ) (entries : Members σ) (siblings : Siblings (Instance σ)) :
    Rule σ × Siblings (Instance σ) :=
  gather siblings (.keys entries rule.patterns) (keys { rule with patterns := [] })
    (keys { rule with keys := Members.putAll rule.keys entries, operating := true })

/-- Wires a pattern of names; all key maps learn of the names. -/
def wirePattern (rule : PatternRule σ) (expression : Regex) (schema : σ)
    (siblings : Siblings (Instance σ)) : Rule σ × Siblings (Instance σ) :=
  let amendment : Amendment σ := .keys [] [expression]
  (pattern { rule with
    match? := some (expression, schema)
    hasKeys := siblings.applies (Instance.amend amendment) }, siblings.amendAll amendment)

/-- The criterion that the first argument stands for. -/
def criterion? (arguments : Arguments σ) : Except ArgumentFault Criterion :=
  match arguments.head? with
  | none => .ok .equality
  | some (.value (.string path)) => .ok (.member path)
  | some (.comparator comparator) => .ok (.comparator comparator)
  | some _ => .error .notCriterion

/-- The options that the first argument stands for, if it is a value. -/
def options? {α : Type} (arguments : Arguments σ) (ofValue? : Value → Except ArgumentFault α)
    (standard : α) : Except ArgumentFault α :=
  match arguments.head? with
  | some (.value options) => ofValue? options
  | _ => .ok standard

/-- Wires a rule between its siblings. -/
def wire (own : Rule σ) (arguments : Arguments σ) (siblings : Siblings (Instance σ)) :
    Except ArgumentFault (Rule σ × Siblings (Instance σ)) :=
  match own with
  | any => .ok (any, siblings)
  | optional _ => .ok (optional true, siblings)
  | listing kind set _ => do
    return wireListing kind set (← arguments.values) siblings
  | custom _ => do
    return (custom (some (← arguments.predicate)), siblings)
  | standIn old _ => do
    let value ← arguments.value 0
    return gather siblings (.standIn value) (standIn old false) (standIn value true)
  | alternatives _ => do
    return (alternatives (← arguments.schemas), siblings)
  | furtherAlternatives => do
    return (furtherAlternatives, siblings.amendLast (.alternatives (← arguments.schemas)))
  | keys rule => do
    return wireKeys rule (← arguments.keys) siblings
  | pattern rule => do
    let expression ← arguments.regex
    return wirePattern rule expression (← arguments.schema 1) siblings
  | allowUnknown => do
    let allow ← arguments.flag 0
    return (allowUnknown,
      (siblings.amendLast (.keysUnknown allow)).amendLast (.patternUnknown allow))
  | array single sparse => .ok (array single sparse, siblings)
  | allowSparse => do
    return (allowSparse, siblings.amendLast (.sparse (← arguments.flag 0)))
  | allowSingle => do
    return (allowSingle, siblings.amendLast (.single (← arguments.flag 0)))
  | items _ => do
    return (items (some (← arguments.schema 0)), siblings)
  | ordered _ => do
    return (ordered (← arguments.schemas), siblings)
  | unique _ => do
    return (unique (← criterion? arguments), siblings)
  | length measure bound _ => do
    return (length measure bound (← arguments.count 0), siblings)
  | number comparison _ => do
    return (number comparison (← arguments.number 0), siblings)
  | multiple _ => do
    let base ← arguments.number 0
    if base == 0 then .error .zeroBase
    return (multiple base, siblings)
  | precision _ => do
    return (precision (← arguments.count 0), siblings)
  | insensitive =>
    .ok (insensitive, siblings.amendAll (.sets fun set => set.addRelation sameIgnoringCase))
  | regex _ => do
    return (regex (some (← arguments.regex)), siblings)
  | address options => do
    return (address (← options? arguments AddressOptions.ofValue? options), siblings)
  | reference options => do
    return (reference (← options? arguments ReferenceOptions.ofValue? options), siblings)
  | check .required => .ok (check .required, siblings.amendAll .disable)
  | check test => .ok (check test, siblings)
  | declared declaration =>
    let (found, siblings) := reachSiblings siblings declaration.reaches
    match declaration.complaint with
    | some words => .error (.complaint words)
    | none => .ok (declared { declaration with found }, siblings)

end Rule

end Vetting
