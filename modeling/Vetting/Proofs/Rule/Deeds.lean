import Vetting.Proofs.Rule.Identity

/-!
# What wiring does, as data

All that a standard rule does when it is wired can be read off its arguments: which changes it makes, and
whether it makes them to all siblings, to the last earlier one that can be changed like that, or to the first
one, to whom it hands over what it has.  Wiring carries this out (`Rule.wire_eq_perform`).
-/

namespace Vetting

variable {σ : Type}

/-- A change that a standard rule makes to others. -/
inductive Change (σ : Type) where
  | disable
  | add (kind : Listing) (values : List Value)
  | strike (kind : Listing) (values : List Value)
  | relate (relation : Relation)
  | standIn (value : Value)
  | alternatives (further : List σ)
  | keys (entries : Members σ) (patterns : List Regex)
  | keysUnknown (allow : Bool)
  | patternUnknown (allow : Bool)
  | sparse (allow : Bool)
  | single (allow : Bool)

/-- The amendment that makes the change. -/
def Change.amendment : Change σ → Amendment σ
  | disable => .disable
  | add kind values => .listing kind fun set => set.add values
  | strike kind values => .listing kind fun set => set.remove values
  | relate relation => .sets fun set => set.addRelation relation
  | standIn value => .standIn value
  | alternatives further => .alternatives further
  | keys entries patterns => .keys entries patterns
  | keysUnknown allow => .keysUnknown allow
  | patternUnknown allow => .patternUnknown allow
  | sparse allow => .sparse allow
  | single allow => .single allow

/-- The rule can be changed like that. -/
def Change.aims {τ : Type} : Change σ → Rule τ → Bool
  | disable, .optional _ | relate _, .listing _ _ _ | standIn _, .standIn _ _
  | alternatives _, .alternatives _ | keys _ _, .keys _ | keysUnknown _, .keys _
  | patternUnknown _, .pattern _ | sparse _, .array _ _ | single _, .array _ _ => true
  | add kind _, .listing other _ _ | strike kind _, .listing other _ _ => other = kind
  | _, _ => false

namespace Change

/-- Which rules can be changed is told by the calls they come from. -/
@[simp] theorem aims_unwired (change : Change σ) {τ : Type} (rule : Rule τ) :
    change.aims rule.unwired = change.aims rule := by
  cases change <;> cases rule <;> rfl

/-- A standard rule is changed exactly if it can be. -/
theorem isSome_amendment (change : Change σ) {rule : Rule σ}
    (standard : ∀ declaration, rule ≠ .declared declaration) :
    (change.amendment rule).isSome = change.aims rule := by
  cases rule with
  | listing other set operating =>
      cases change with
      | add kind values | strike kind values =>
          by_cases same : other = kind <;> simp [amendment, Amendment.listing, aims, same]
      | _ => rfl
  | declared declaration => exact absurd rfl (standard declaration)
  | _ => cases change <;> rfl

/-- A change leaves the call that a rule comes from. -/
theorem keeps (change : Change σ) : Keeps Rule.unwired change.amendment := by
  cases change with
  | disable => exact Amendment.keeps_disable
  | add kind values | strike kind values => exact Amendment.keeps_listing _ _
  | relate relation => exact Amendment.keeps_sets _
  | standIn value => exact Amendment.keeps_standIn value
  | alternatives further => exact Amendment.keeps_alternatives further
  | keys entries patterns => exact Amendment.keeps_keys entries patterns
  | keysUnknown allow => exact Amendment.keeps_keysUnknown allow
  | patternUnknown allow => exact Amendment.keeps_patternUnknown allow
  | sparse allow => exact Amendment.keeps_sparse allow
  | single allow => exact Amendment.keeps_single allow

end Change

/-- What a rule does when it is wired. -/
structure Deed (σ : Type) where
  /-- Made to every sibling. -/
  everywhere : List (Change σ)
  /-- Made to the last earlier sibling that they apply to. -/
  backwards : List (Change σ)
  /-- Made to the first earlier sibling that it applies to, which then acts for both. -/
  handedOver : Option (Change σ)
  /-- The wired rule: whether somebody acts for it, and whether there is a key map. -/
  own : Bool → Bool → Rule σ

/-- The instance after a change, if it can be changed like that. -/
def Instance.changed (entry : Instance σ) (change : Change σ) : Instance σ :=
  (entry.amend change.amendment).getD entry

/-- The instance after several changes. -/
def Instance.changedBy (changes : List (Change σ)) (entry : Instance σ) : Instance σ :=
  changes.foldl changed entry

/-- The entries after a change to the first one that can be changed like that. -/
def firstChanged? (entries : List (Instance σ)) (change : Change σ) : Option (List (Instance σ)) :=
  amendFirst? (Instance.amend change.amendment) entries

/-- The entries after a change to the last one that can be changed like that, if there is one. -/
def lastChanged (entries : List (Instance σ)) (change : Change σ) : List (Instance σ) :=
  (amendLast? (Instance.amend change.amendment) entries).getD entries

/-- No changes leave all entries as they are. -/
theorem Instance.map_changedBy_nil (entries : List (Instance σ)) : entries.map (changedBy []) = entries :=
  List.map_id'' (fun _ => rfl) entries

/-- Changes to all siblings, one after the other, change each sibling by all of them. -/
theorem foldl_amendAll (changes : List (Change σ)) (siblings : Siblings (Instance σ)) :
    changes.foldl (fun siblings change => siblings.amendAll change.amendment) siblings =
      siblings.map (Instance.changedBy changes) := by
  induction changes generalizing siblings with
  | nil => simp only [List.foldl_nil, Siblings.map, Instance.map_changedBy_nil]
  | cons change rest ih =>
      rw [List.foldl_cons, ih]
      simp only [Siblings.map, Siblings.amendAll, Siblings.all, amendAll, List.map_map, Function.comp_def]
      rfl

/-- Changes to the last earlier sibling, one after the other, do not touch the later ones. -/
theorem foldl_amendLast (changes : List (Change σ)) (siblings : Siblings (Instance σ)) :
    changes.foldl (fun siblings change => siblings.amendLast change.amendment) siblings =
      ⟨changes.foldl lastChanged siblings.before, siblings.after⟩ := by
  induction changes generalizing siblings with
  | nil => rfl
  | cons change rest ih =>
      rw [List.foldl_cons, List.foldl_cons, ih]
      unfold Siblings.amendLast Siblings.last? lastChanged
      cases amendLast? (Instance.amend change.amendment) siblings.before <;> rfl

namespace Deed

/-- What becomes of each sibling. -/
def onEach (deed : Deed σ) : Instance σ → Instance σ :=
  Instance.changedBy deed.everywhere

/-- What becomes of the earlier siblings, before anything is handed over. -/
def onEarlier (deed : Deed σ) (before : List (Instance σ)) : List (Instance σ) :=
  deed.backwards.foldl lastChanged (before.map deed.onEach)

/-- What becomes of the earlier siblings, and whether one of them acts for the rule. -/
def onBefore (deed : Deed σ) (before : List (Instance σ)) : Bool × List (Instance σ) :=
  match deed.handedOver.bind (firstChanged? (deed.onEarlier before)) with
  | some taken => (true, taken)
  | none => (false, deed.onEarlier before)

/-- Some sibling is a key map. -/
def knowsKeys (siblings : Siblings (Instance σ)) : Bool :=
  siblings.applies (Instance.amend (.keys [] []))

/-- Carries the deed out. -/
def perform (deed : Deed σ) (siblings : Siblings (Instance σ)) : Rule σ × Siblings (Instance σ) :=
  (deed.own (deed.onBefore siblings.before).1 (knowsKeys siblings),
    ⟨(deed.onBefore siblings.before).2, siblings.after.map deed.onEach⟩)

/-- A rule that keeps to itself. -/
def alone (rule : Rule σ) : Deed σ :=
  ⟨[], [], none, fun _ _ => rule⟩

/-- A rule that changes others and does no more. -/
def modifying (everywhere backwards : List (Change σ)) (rule : Rule σ) : Deed σ :=
  ⟨everywhere, backwards, none, fun _ _ => rule⟩

/-- A rule that hands over what it has, or keeps it if nobody takes it. -/
def gathering (everywhere : List (Change σ)) (change : Change σ) (idle wired : Rule σ) : Deed σ :=
  ⟨everywhere, [], some change, fun taken _ => if taken then idle else wired⟩

/-- Nothing becomes of siblings that are told nothing. -/
theorem map_onEach_of_silent {deed : Deed σ} (silent : deed.everywhere = []) (entries : List (Instance σ)) :
    entries.map deed.onEach = entries := by
  rw [onEach, silent, Instance.map_changedBy_nil]

/-- What is handed over goes to the first one that takes it, after what every sibling is told. -/
theorem onBefore_gathering (everywhere : List (Change σ)) (change : Change σ) (idle wired : Rule σ)
    (before : List (Instance σ)) :
    (gathering everywhere change idle wired).onBefore before =
      match firstChanged? (before.map (Instance.changedBy everywhere)) change with
      | some taken => (true, taken)
      | none => (false, before.map (Instance.changedBy everywhere)) :=
  rfl

/-- A rule that keeps to itself leaves its siblings as they are. -/
theorem perform_alone (rule : Rule σ) (siblings : Siblings (Instance σ)) :
    (alone rule).perform siblings = (rule, siblings) := by
  simp only [perform, onBefore, onEarlier, map_onEach_of_silent (show (alone rule).everywhere = [] from rfl)]
  rfl

/-- A rule that changes others and does no more is carried out change by change. -/
theorem perform_modifying (everywhere backwards : List (Change σ)) (rule : Rule σ)
    (siblings : Siblings (Instance σ)) :
    (modifying everywhere backwards rule).perform siblings =
      (rule, backwards.foldl (fun siblings change => siblings.amendLast change.amendment)
        (everywhere.foldl (fun siblings change => siblings.amendAll change.amendment) siblings)) := by
  rw [foldl_amendLast, foldl_amendAll]
  rfl

/-- A rule that hands over what it has gathers it after the changes to all siblings. -/
theorem perform_gathering (everywhere : List (Change σ)) (change : Change σ) (idle wired : Rule σ)
    (siblings : Siblings (Instance σ)) :
    (gathering everywhere change idle wired).perform siblings =
      Rule.gather (everywhere.foldl (fun siblings change => siblings.amendAll change.amendment) siblings)
        change.amendment idle wired := by
  rw [foldl_amendAll, perform, onBefore_gathering]
  simp only [Rule.gather, Siblings.first?, Siblings.map, firstChanged?]
  cases amendFirst? (Instance.amend change.amendment) (siblings.before.map (Instance.changedBy everywhere)) <;> rfl

end Deed

namespace Rule

/-- What a list of invalid values does to valid and allowed ones. -/
def strikes (kind : Listing) (values : List Value) : List (Change σ) :=
  if kind = .invalid then [.strike .valid values, .strike .allow values] else []

/-- What a rule does when it is wired; a declared rule is not told of here. -/
def deed (own : Rule σ) (arguments : Arguments σ) : Except ArgumentFault (Deed σ) :=
  match own with
  | any => .ok (.alone any)
  | optional _ => .ok (.alone (optional true))
  | listing kind set _ => arguments.values.map fun values =>
    .gathering (strikes kind values) (.add kind values) (listing kind set false)
      (listing kind (set.add values) true)
  | custom _ => arguments.predicate.map fun predicate => .alone (custom (some predicate))
  | standIn old _ => (arguments.value 0).map fun value =>
    .gathering [] (.standIn value) (standIn old false) (standIn value true)
  | alternatives _ => arguments.schemas.map fun schemas => .alone (alternatives schemas)
  | furtherAlternatives => arguments.schemas.map fun further =>
    .modifying [] [.alternatives further] furtherAlternatives
  | keys rule => arguments.keys.map fun entries =>
    .gathering [] (.keys entries rule.patterns) (keys { rule with patterns := [] })
      (keys { rule with keys := Members.putAll rule.keys entries, operating := true })
  | pattern rule => do
    let expression ← arguments.regex
    let schema ← arguments.schema 1
    return ⟨[.keys [] [expression]], [], none, fun _ hasKeys =>
      pattern { rule with match? := some (expression, schema), hasKeys }⟩
  | allowUnknown => (arguments.flag 0).map fun allow =>
    .modifying [] [.keysUnknown allow, .patternUnknown allow] allowUnknown
  | array single sparse => .ok (.alone (array single sparse))
  | allowSparse => (arguments.flag 0).map fun allow =>
    .modifying [] [.sparse allow] allowSparse
  | allowSingle => (arguments.flag 0).map fun allow =>
    .modifying [] [.single allow] allowSingle
  | items _ => (arguments.schema 0).map fun schema => .alone (items (some schema))
  | ordered _ => arguments.schemas.map fun schemas => .alone (ordered schemas)
  | unique _ => (criterion? arguments).map fun criterion => .alone (unique criterion)
  | length measure bound _ => (arguments.count 0).map fun limit => .alone (length measure bound limit)
  | number comparison _ => (arguments.number 0).map fun limit => .alone (number comparison limit)
  | multiple _ => do
    let base ← arguments.number 0
    if base == 0 then .error .zeroBase
    return .alone (multiple base)
  | precision _ => (arguments.count 0).map fun places => .alone (precision places)
  | insensitive =>
    .ok (.modifying [.relate sameIgnoringCase] [] insensitive)
  | regex _ => arguments.regex.map fun expression => .alone (regex (some expression))
  | address options =>
    (options? arguments AddressOptions.ofValue? options).map fun found => .alone (address found)
  | reference options =>
    (options? arguments ReferenceOptions.ofValue? options).map fun found => .alone (reference found)
  | check .required => .ok (.modifying [.disable] [] (check .required))
  | check test => .ok (.alone (check test))
  | declared declaration => .ok (.alone (declared declaration))

/-- The rule neither changes others nor hands anything over. -/
def isAlone : Rule σ → Bool
  | listing _ _ _ | standIn _ _ | furtherAlternatives | keys _ | pattern _ | allowUnknown | allowSparse
  | allowSingle | insensitive | check .required => false
  | _ => true

/-- The deeds of the rules, whatever their arguments are. -/
inductive Does : Rule σ → Deed σ → Prop
  | alone {own rule : Rule σ} (alone : own.isAlone = true) (kind : rule.unwired = own.unwired) :
      Does own (.alone rule)
  | listing (kind : Listing) (set : ListedValues) (operating : Bool) (values : List Value) :
      Does (listing kind set operating) (.gathering (strikes kind values) (.add kind values)
        (listing kind set false) (listing kind (set.add values) true))
  | standIn (old value : Value) (operating : Bool) :
      Does (standIn old operating) (.gathering [] (.standIn value) (standIn old false) (standIn value true))
  | furtherAlternatives (further : List σ) :
      Does furtherAlternatives (.modifying [] [.alternatives further] furtherAlternatives)
  | keys (rule : KeyRule σ) (entries : Members σ) :
      Does (keys rule) (.gathering [] (.keys entries rule.patterns) (keys { rule with patterns := [] })
        (keys { rule with keys := Members.putAll rule.keys entries, operating := true }))
  | pattern (rule : PatternRule σ) (expression : Regex) (schema : σ) :
      Does (pattern rule) ⟨[.keys [] [expression]], [], none, fun _ hasKeys =>
        pattern { rule with match? := some (expression, schema), hasKeys }⟩
  | allowUnknown (allow : Bool) :
      Does allowUnknown (.modifying [] [.keysUnknown allow, .patternUnknown allow] allowUnknown)
  | allowSparse (allow : Bool) : Does allowSparse (.modifying [] [.sparse allow] allowSparse)
  | allowSingle (allow : Bool) : Does allowSingle (.modifying [] [.single allow] allowSingle)
  | insensitive : Does insensitive (.modifying [.relate sameIgnoringCase] [] insensitive)
  | required : Does (check .required) (.modifying [.disable] [] (check .required))

/-- What is made of a reading comes from a reading that went well. -/
theorem exists_of_map_eq_ok {ε α β : Type} {reading : Except ε α} {f : α → β} {made : β}
    (found : reading.map f = .ok made) : ∃ content, reading = .ok content ∧ f content = made := by
  cases reading with
  | error failure => cases found
  | ok content => exact ⟨content, rfl, Except.ok.inj found⟩

/-- A deed is one of those that the rule may have. -/
theorem does_of_deed {own : Rule σ} {arguments : Arguments σ} {deed : Deed σ}
    (found : own.deed arguments = .ok deed) : own.Does deed := by
  cases own with
  | any | optional enabled | array single sparse | declared declaration =>
      obtain rfl := Except.ok.inj found
      exact .alone rfl rfl
  | check test =>
      by_cases required : test = .required
      · subst required
        obtain rfl := Except.ok.inj found
        exact .required
      · rw [Rule.deed] at found
        · obtain rfl := Except.ok.inj found
          refine .alone ?_ rfl
          unfold isAlone
          split <;> simp_all
        · exact required
  | insensitive =>
      obtain rfl := Except.ok.inj found
      exact .insensitive
  | listing kind set operating =>
      obtain ⟨values, -, rfl⟩ := exists_of_map_eq_ok found
      exact .listing kind set operating values
  | standIn old operating =>
      obtain ⟨value, -, rfl⟩ := exists_of_map_eq_ok found
      exact .standIn old value operating
  | furtherAlternatives =>
      obtain ⟨further, -, rfl⟩ := exists_of_map_eq_ok found
      exact .furtherAlternatives further
  | keys rule =>
      obtain ⟨entries, -, rfl⟩ := exists_of_map_eq_ok found
      exact .keys rule entries
  | pattern rule =>
      obtain ⟨expression, -, next⟩ := exists_of_bind_eq_ok found
      obtain ⟨schema, -, rfl⟩ := exists_of_read_eq_ok next
      exact .pattern rule expression schema
  | allowUnknown =>
      obtain ⟨allow, -, rfl⟩ := exists_of_map_eq_ok found
      exact .allowUnknown allow
  | allowSparse =>
      obtain ⟨allow, -, rfl⟩ := exists_of_map_eq_ok found
      exact .allowSparse allow
  | allowSingle =>
      obtain ⟨allow, -, rfl⟩ := exists_of_map_eq_ok found
      exact .allowSingle allow
  | multiple _ =>
      obtain ⟨base, -, next⟩ := exists_of_bind_eq_ok found
      by_cases zero : (base == 0) = true
      · rw [if_pos zero] at next
        cases next
      · rw [if_neg zero] at next
        obtain rfl := Except.ok.inj next
        exact .alone rfl rfl
  | custom _ | alternatives _ | items _ | ordered _ | unique _ | length _ _ _ | number _ _ | precision _
  | regex _ | address _ | reference _ =>
      obtain ⟨content, -, rfl⟩ := exists_of_map_eq_ok found
      exact .alone rfl rfl

/-- The rule hands over what it has. -/
def gathers : Rule σ → Bool
  | listing _ _ _ | standIn _ _ | keys _ => true
  | _ => false

@[simp] theorem gathers_unwired (own : Rule σ) : own.unwired.gathers = own.gathers := by
  cases own <;> rfl

/-- A key map that has not been wired does not operate. -/
def Asleep (own : Rule σ) : Prop :=
  ∀ rule, own = keys rule → rule.operating = false

namespace Does

variable {own : Rule σ} {deed : Deed σ} {change : Change σ}

/-- Wiring makes no other call of a rule. -/
theorem unwired_own (does : own.Does deed) (taken hasKeys : Bool) :
    (deed.own taken hasKeys).unwired = own.unwired := by
  cases does with
  | alone alone kind => exact kind
  | listing kind set operating values => cases taken <;> rfl
  | standIn old value operating => cases taken <;> rfl
  | keys rule entries => cases taken <;> rfl
  | _ => rfl

/-- A deed hands something over exactly if the rule is of a sort that does. -/
theorem isSome_handedOver (does : own.Does deed) : deed.handedOver.isSome = own.gathers := by
  cases does with
  | alone alone kind => cases own <;> first | rfl | cases alone
  | _ => rfl

/-- A rule hands over to its own sort. -/
theorem aims_of_handedOver (does : own.Does deed) (given : deed.handedOver = some change) {τ : Type}
    (other : Rule τ) : change.aims other = true ↔ other.unwired = own.unwired := by
  cases does with
  | listing kind set operating values =>
      obtain rfl := Option.some.inj given
      cases other <;> simp [Change.aims, unwired]
  | standIn old value operating | keys rule entries =>
      obtain rfl := Option.some.inj given
      cases other <;> simp [Change.aims, unwired]
  | _ => cases given

/-- A rule that keeps what it has operates. -/
theorem operates_of_kept (does : own.Does deed) (given : deed.handedOver = some change) (hasKeys : Bool) :
    (deed.own false hasKeys).operates = true := by
  cases does with
  | listing kind set operating values => rfl
  | standIn old value operating => rfl
  | keys rule entries => rfl
  | _ => cases given

/-- A rule that has handed over what it had does not operate. -/
theorem operates_of_taken (does : own.Does deed) (asleep : own.Asleep)
    (given : deed.handedOver = some change) (hasKeys : Bool) : (deed.own true hasKeys).operates = false := by
  cases does with
  | listing kind set operating values => rfl
  | standIn old value operating => rfl
  | keys rule entries => exact asleep rule rfl
  | _ => cases given

/-- Only a pattern asks whether there is a key map. -/
theorem own_eq (does : own.Does deed) (other : ∀ rule, own ≠ Rule.pattern rule) (taken first second : Bool) :
    deed.own taken first = deed.own taken second := by
  cases does with
  | pattern rule expression schema => exact absurd rfl (other rule)
  | _ => rfl

end Does

/-- Whether a key map is there does not depend on what it would be given. -/
theorem applies_keys (siblings : Siblings (Instance σ)) (entries : Members σ) (patterns : List Regex) :
    siblings.applies (Instance.amend (.keys entries patterns)) = Deed.knowsKeys siblings := by
  have same : ∀ entry : Instance σ, (entry.amend (.keys entries patterns)).isSome =
      (entry.amend (.keys [] [])).isSome := by
    rintro ⟨rule, arguments⟩
    cases rule <;> rfl
  simp only [Deed.knowsKeys, Siblings.applies, same]

/-- A rule that is read off its arguments is wired as the deed that they stand for is carried out. -/
theorem wired_eq_perform {ε α : Type} {siblings : Siblings (Instance σ)}
    {wired : α → Rule σ × Siblings (Instance σ)} {deed : α → Deed σ} (reading : Except ε α)
    (same : ∀ content, (deed content).perform siblings = wired content) :
    (reading.bind fun content => .ok (wired content)) =
      (reading.map deed).map fun deed => deed.perform siblings := by
  cases reading with
  | error fault => rfl
  | ok content => exact congrArg Except.ok (same content).symm

/-- **Wiring.**  Wiring a standard rule carries out what can be read off its arguments. -/
theorem wire_eq_perform {own : Rule σ} (standard : ∀ declaration, own ≠ declared declaration)
    (arguments : Arguments σ) (siblings : Siblings (Instance σ)) :
    own.wire arguments siblings = (own.deed arguments).map fun deed => deed.perform siblings := by
  cases own with
  | any | optional enabled | array single sparse =>
      exact congrArg Except.ok (Deed.perform_alone _ siblings).symm
  | insensitive =>
      exact congrArg Except.ok (Deed.perform_modifying [.relate sameIgnoringCase] [] insensitive siblings).symm
  | check test =>
      by_cases required : test = .required
      · subst required
        exact congrArg Except.ok (Deed.perform_modifying [.disable] [] (check .required) siblings).symm
      · rw [wire, deed]
        · exact congrArg Except.ok (Deed.perform_alone _ siblings).symm
        · exact required
        · exact required
  | listing kind set operating =>
      refine wired_eq_perform arguments.values fun values => ?_
      rw [Deed.perform_gathering, wireListing_eq]
      cases kind <;> rfl
  | standIn old operating =>
      exact wired_eq_perform (arguments.value 0) fun value => Deed.perform_gathering _ _ _ _ siblings
  | keys rule => exact wired_eq_perform arguments.keys fun entries => Deed.perform_gathering _ _ _ _ siblings
  | pattern rule =>
      rw [wire, deed]
      cases arguments.regex with
      | error fault => rfl
      | ok expression =>
          cases arguments.schema 1 with
          | error fault => rfl
          | ok schema =>
              refine congrArg Except.ok ?_
              rw [wirePattern, applies_keys]
              rfl
  | furtherAlternatives =>
      exact wired_eq_perform arguments.schemas fun further => Deed.perform_modifying _ _ _ siblings
  | allowUnknown | allowSparse | allowSingle =>
      exact wired_eq_perform (arguments.flag 0) fun allow => Deed.perform_modifying _ _ _ siblings
  | multiple _ =>
      rw [wire, deed]
      cases arguments.number 0 with
      | error fault => rfl
      | ok base =>
          by_cases zero : (base == 0) = true
          · simp only [bind, Except.bind, zero, ↓reduceIte]
            rfl
          · simp only [bind, Except.bind, zero]
            exact congrArg Except.ok (Deed.perform_alone _ siblings).symm
  | custom _ => exact wired_eq_perform arguments.predicate fun _ => Deed.perform_alone _ siblings
  | alternatives _ | ordered _ => exact wired_eq_perform arguments.schemas fun _ => Deed.perform_alone _ siblings
  | items _ => exact wired_eq_perform (arguments.schema 0) fun _ => Deed.perform_alone _ siblings
  | unique _ => exact wired_eq_perform (criterion? arguments) fun _ => Deed.perform_alone _ siblings
  | length _ _ _ | precision _ =>
      exact wired_eq_perform (arguments.count 0) fun _ => Deed.perform_alone _ siblings
  | number _ _ => exact wired_eq_perform (arguments.number 0) fun _ => Deed.perform_alone _ siblings
  | regex _ => exact wired_eq_perform arguments.regex fun _ => Deed.perform_alone _ siblings
  | address options =>
      exact wired_eq_perform (options? arguments AddressOptions.ofValue? options) fun _ =>
        Deed.perform_alone _ siblings
  | reference options =>
      exact wired_eq_perform (options? arguments ReferenceOptions.ofValue? options) fun _ =>
        Deed.perform_alone _ siblings
  | declared declaration => exact absurd rfl (standard declaration)

end Rule

end Vetting
