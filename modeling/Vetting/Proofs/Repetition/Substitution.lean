import Vetting.Proofs.Repetition.Verdicts
import Vetting.Proofs.Rule.AlikeArguments

/-!
# Arguments that are alike make rules that judge alike

Calls with arguments that are alike do alike when they are wired (`Instance.Alike.exists_deed`), so assemblies of such
calls come about together, entry by entry alike (`Instance.assemble_of_alike`), and let the same values pass
(`Instance.admits_of_alike`).  Only a stand-in has to be given the very same arguments, for its value comes to light.
-/

namespace Vetting

variable {σ : Type}

/-! ## Sets of values -/

/-- The relation does not tell values apart that are alike. -/
def Respects (relation : Relation) : Prop :=
  ∀ ⦃left right first second : Value⦄, left.Alike right → first.Alike second →
    relation left first = relation right second

/-- Deep equality respects values that are alike. -/
theorem respects_same : Respects Value.same :=
  fun _ _ _ _ one two => one.same_eq two

/-- So does the comparison of texts that ignores case. -/
theorem respects_sameIgnoringCase : Respects sameIgnoringCase := by
  intro left right first second one two
  have kinds := one.kind_eq
  have further := two.kind_eq
  cases left with
  | string text =>
      rw [one.eq_string]
      cases first with
      | string other => rw [two.eq_string]
      | _ =>
          cases second <;> cases further
          all_goals rfl
  | _ =>
      cases right <;> cases kinds
      all_goals rfl

/-- The sets list values that are alike, under the same relations, which respect that. -/
structure ListedValues.Alike (left right : ListedValues) : Prop where
  values : List.Forall₂ Value.Alike left.values right.values
  relations : left.relations = right.relations
  respects : ∀ relation ∈ left.relations, Respects relation

namespace ListedValues.Alike

variable {left right : ListedValues} {values others : List Value}

/-- The empty set is like itself. -/
theorem empty : ListedValues.empty.Alike .empty where
  values := .nil
  relations := rfl
  respects relation member := by
    rw [List.mem_singleton.mp member]
    exact respects_same

/-- Values that are alike are related to candidates that are alike in both sets or in none. -/
theorem relates_eq (alike : left.Alike right) {listed other first second : Value} (one : listed.Alike other)
    (two : first.Alike second) : left.relates listed first = right.relates other second := by
  rw [relates, relates, ← alike.relations, Bool.eq_iff_iff, List.any_eq_true, List.any_eq_true]
  refine exists_congr fun relation => and_congr_right fun member => ?_
  rw [alike.respects relation member one two]

/-- Both sets contain a value, or neither does. -/
theorem contains_eq (alike : left.Alike right) (candidate : Value) :
    left.contains candidate = right.contains candidate :=
  any_forall₂ alike.values fun _ _ one => alike.relates_eq one (.refl candidate)

/-- Further values that are alike may be listed in both. -/
theorem add (alike : left.Alike right) (all : List.Forall₂ Value.Alike values others) :
    (left.add values).Alike (right.add others) where
  values := List.rel_append alike.values all
  relations := alike.relations
  respects := alike.respects

/-- Values that are alike may be struck from both. -/
theorem remove (alike : left.Alike right) (all : List.Forall₂ Value.Alike values others) :
    (left.remove values).Alike (right.remove others) where
  values := by
    refine List.rel_filter (fun listed other one => ?_) alike.values
    have struck := any_forall₂ all fun _ _ two => alike.relates_eq one two
    simp only [struck]
  relations := alike.relations
  respects := alike.respects

/-- A relation that respects what is alike may be added to both. -/
theorem addRelation (alike : left.Alike right) {relation : Relation} (respects : Respects relation) :
    (left.addRelation relation).Alike (right.addRelation relation) where
  values := alike.values
  relations := congrArg (· ++ [relation]) alike.relations
  respects other member := by
    rcases List.mem_append.mp member with old | new
    · exact alike.respects other old
    · rw [List.mem_singleton.mp new]
      exact respects

end ListedValues.Alike

/-! ## Rules and changes -/

/-- The rule may have a list of values. -/
def Rule.lists {τ : Type} : Rule τ → Bool
  | listing _ _ _ | declared _ => true
  | _ => false

@[simp] theorem Rule.lists_unwired {τ : Type} (rule : Rule τ) : rule.unwired.lists = rule.lists := by
  cases rule <;> rfl

/-- The rules are the same, but for values that are listed and numbers that are compared with others. -/
inductive Rule.Alike : Rule σ → Rule σ → Prop where
  | refl (rule : Rule σ) (plain : rule.lists = false) : Alike rule rule
  | listing (kind : Listing) (operating : Bool) {left right : ListedValues} (alike : left.Alike right) :
      Alike (.listing kind left operating) (.listing kind right operating)
  | number (comparison : Comparison) {left right : Float} (equal : (left == right) = true) :
      Alike (.number comparison left) (.number comparison right)
  | multiple {left right : Float} (equal : (left == right) = true) : Alike (.multiple left) (.multiple right)

/-- The change is one of lists of values. -/
def Change.lists : Change σ → Bool
  | add _ _ | strike _ _ | relate _ => true
  | _ => false

/-- The changes are the same, but for values that are listed or struck. -/
inductive Change.Alike : Change σ → Change σ → Prop where
  | refl (change : Change σ) (plain : change.lists = false) : Alike change change
  | add (kind : Listing) {values others : List Value} (all : List.Forall₂ Value.Alike values others) :
      Alike (.add kind values) (.add kind others)
  | strike (kind : Listing) {values others : List Value} (all : List.Forall₂ Value.Alike values others) :
      Alike (.strike kind values) (.strike kind others)
  | relate {relation : Relation} (respects : Respects relation) : Alike (.relate relation) (.relate relation)

namespace Rule.Alike

variable {left right : Rule σ}

/-- Rules that are alike come from calls of one rule. -/
theorem unwired_eq (alike : left.Alike right) : left.unwired = right.unwired := by
  cases alike <;> rfl

/-- Rules that are alike operate both, or neither does. -/
theorem operates_eq (alike : left.Alike right) : left.operates = right.operates := by
  cases alike <;> rfl

/-- The same value stands in for both. -/
theorem standIn?_eq (alike : left.Alike right) : left.standIn? = right.standIn? := by
  cases alike <;> rfl

/-- A rule that has not been wired is like itself. -/
theorem of_fresh {rule : Rule σ} (fresh : rule = rule.unwired.fresh)
    (standard : ∀ declaration, rule ≠ .declared declaration) : rule.Alike rule := by
  cases rule with
  | listing kind set operating =>
      rw [fresh]
      exact .listing kind false .empty
  | declared declaration => exact absurd rfl (standard declaration)
  | _ => exact .refl _ rfl

/-- Rules that are alike judge alike. -/
theorem judgesAlike (alike : left.Alike right) (translate : σ → Checked) :
    (left.map translate).JudgesAlike (right.map translate) where
  agree setting path value := by
    cases alike with
    | refl => exact .of_eq rfl
    | listing kind operating alike => exact kind.agree_judge path (alike.contains_eq value)
    | @number comparison limit other equal =>
        have accepts : ∀ n, comparison.accepts n limit = comparison.accepts n other := by
          intro n
          obtain ⟨below, above⟩ := Number.le_congr equal n
          obtain ⟨less, greater⟩ := Number.lt_congr equal n
          cases comparison <;> simp only [Comparison.accepts, below, above, less, greater]
        exact agree_ofBool path (by simp only [accepts])
    | @multiple base other equal =>
        have divides : ∀ n, Number.isMultipleOf n base = Number.isMultipleOf n other := by
          intro n
          simp only [Number.isMultipleOf, Number.remainderUnits?, Number.units?_congr equal, Number.isNaN_congr equal]
        exact agree_ofBool path (by simp only [divides])
  convert?_eq value := by
    cases alike <;> rfl

end Rule.Alike

namespace Change

/-- Only changes of lists of values are made to rules that have them. -/
theorem amendment_eq_none {change : Change σ} {rule : Rule σ} (one : change.lists = !rule.lists)
    (standard : ∀ declaration, rule ≠ .declared declaration) : change.amendment rule = none := by
  rw [← Option.not_isSome_iff_eq_none, change.isSome_amendment standard]
  cases change <;> cases rule <;> first | exact Bool.false_ne_true | cases one

/-- Changes that are alike make rules that are alike of rules that are, or can be made to neither. -/
theorem Alike.amend {change other : Change σ} (changes : change.Alike other) {left right : Rule σ}
    (rules : left.Alike right) (standard : ∀ declaration, left ≠ .declared declaration) :
    Option.Rel Rule.Alike (change.amendment left) (other.amendment right) := by
  -- Changes of lists can be made to lists only, and other changes not to them.
  cases rules with
  | refl _ plain =>
      cases listed : change.lists with
      | true =>
          have also : other.lists = change.lists := by cases changes <;> rfl
          rw [amendment_eq_none (by rw [listed, plain]; rfl) standard,
            amendment_eq_none (by rw [also, listed, plain]; rfl) standard]
          exact .none
      | false =>
          cases changes with
          | refl =>
              cases made : change.amendment left with
              | none => exact .none
              | some next =>
                  refine .some (.refl next ?_)
                  rw [← Rule.lists_unwired, change.keeps made, Rule.lists_unwired, plain]
          | _ => cases listed
  | listing kind operating sets =>
      have untouched : ∀ {plain : Change σ} {set : ListedValues}, plain.lists = false →
          plain.amendment (.listing kind set operating) = none :=
        fun unlisted => amendment_eq_none unlisted fun _ same => nomatch same
      cases changes with
      | refl _ plain =>
          rw [untouched plain, untouched plain]
          exact .none
      | add known all =>
          simp only [amendment, Amendment.listing]
          split
          · exact .some (.listing kind operating (sets.add all))
          · exact .none
      | strike known all =>
          simp only [amendment, Amendment.listing]
          split
          · exact .some (.listing kind operating (sets.remove all))
          · exact .none
      | relate respects => exact .some (.listing kind operating (sets.addRelation respects))
  | number | multiple =>
      cases change <;> cases changes <;> exact .none

end Change

/-! ## Deeds -/

/-- The deeds are the same, but for values that are listed or struck and numbers that others are compared with. -/
structure Deed.Alike (left right : Deed σ) : Prop where
  everywhere : List.Forall₂ Change.Alike left.everywhere right.everywhere
  backwards : List.Forall₂ Change.Alike left.backwards right.backwards
  handedOver : Option.Rel Change.Alike left.handedOver right.handedOver
  own : ∀ taken hasKeys, (left.own taken hasKeys).Alike (right.own taken hasKeys)

namespace Deed.Alike

/-- Rules that keep to themselves do alike if they are alike. -/
theorem alone {left right : Rule σ} (alike : left.Alike right) : (Deed.alone left).Alike (.alone right) where
  everywhere := .nil
  backwards := .nil
  handedOver := .none
  own _ _ := alike

/-- The deed of a rule that has no list of values is like itself. -/
theorem of_does {own : Rule σ} {deed : Deed σ} (does : own.Does deed) (plain : own.lists = false) :
    deed.Alike deed where
  everywhere := by
    cases does with
    | listing => cases plain
    | pattern => exact .cons (.refl _ rfl) .nil
    | insensitive => exact .cons (.relate respects_sameIgnoringCase) .nil
    | required => exact .cons (.refl _ rfl) .nil
    | _ => exact .nil
  backwards := by
    cases does with
    | furtherAlternatives | allowSparse | allowSingle => exact .cons (.refl _ rfl) .nil
    | allowUnknown => exact .cons (.refl _ rfl) (.cons (.refl _ rfl) .nil)
    | _ => exact .nil
  handedOver := by
    cases does with
    | listing => cases plain
    | standIn | keys => exact .some (.refl _ rfl)
    | _ => exact .none
  own taken hasKeys := by
    refine .refl _ ?_
    rw [← Rule.lists_unwired, does.unwired_own, Rule.lists_unwired, plain]

end Deed.Alike

namespace Rule

variable {left right : Arguments σ} {deed : Deed σ}

/-- Lists of values that are alike do alike. -/
theorem exists_deed_listing (alike : List.Forall₂ Argument.Alike left right) {kind : Listing}
    {set other : ListedValues} {operating : Bool} (sets : set.Alike other)
    (found : (listing kind set operating).deed left = .ok deed) :
    ∃ next, (listing kind other operating).deed right = .ok next ∧ deed.Alike next := by
  obtain ⟨values, read, rfl⟩ := exists_of_map_eq_ok found
  obtain ⟨others, also, all⟩ := Arguments.values_of_alike alike read
  refine ⟨.gathering (strikes kind others) (.add kind others) (listing kind other false)
    (listing kind (other.add others) true), by rw [deed, also]; rfl, ?_, .nil, .some (.add kind all), ?_⟩
  · simp only [Deed.gathering, strikes]
    split
    · exact .cons (.strike _ all) (.cons (.strike _ all) .nil)
    · exact .nil
  · intro taken hasKeys
    cases taken with
    | true => exact .listing kind false sets
    | false => exact .listing kind true (sets.add all)

/-- Numbers to compare with that are equal are compared with alike. -/
theorem exists_deed_number (alike : List.Forall₂ Argument.Alike left right) {comparison : Comparison}
    {limit other : Float} (found : (number comparison limit).deed left = .ok deed) :
    ∃ next, (number comparison other).deed right = .ok next ∧ deed.Alike next := by
  obtain ⟨n, read, rfl⟩ := exists_of_map_eq_ok found
  obtain ⟨m, also, equal⟩ := Arguments.number_of_alike alike read
  exact ⟨.alone (number comparison m), by rw [deed, also]; rfl, .alone (.number comparison equal)⟩

/-- Numbers to divide by that are equal divide alike. -/
theorem exists_deed_multiple (alike : List.Forall₂ Argument.Alike left right) {base other : Float}
    (found : (multiple base).deed left = .ok deed) :
    ∃ next, (multiple other).deed right = .ok next ∧ deed.Alike next := by
  obtain ⟨n, read, next⟩ := exists_of_bind_eq_ok found
  obtain ⟨m, also, equal⟩ := Arguments.number_of_alike alike read
  cases zero : n == 0 with
  | true =>
      rw [zero] at next
      cases next
  | false =>
      rw [zero] at next
      obtain rfl := Except.ok.inj next
      refine ⟨.alone (multiple m), ?_, .alone (.multiple equal)⟩
      rw [Number.beq_congr equal] at zero
      rw [Rule.deed, also]
      change (if (m == 0) = true then _ else _) = _
      rw [zero]
      rfl

/-- Any other rule does the same, as long as a stand-in is given the very same arguments. -/
theorem deed_of_alike (alike : List.Forall₂ Argument.Alike left right) {own : Rule σ} (plain : own.lists = false)
    (identical : own.standIn?.isSome = true → left = right)
    (numbers : ∀ comparison limit, own ≠ number comparison limit)
    (multiples : ∀ base, own ≠ multiple base) (found : own.deed left = .ok deed) : own.deed right = .ok deed := by
  have things : ∀ {α : Type} {part : Argument σ → Option α}, (∀ value, part (.value value) = none) →
      ∀ index fault, left.read index part fault = right.read index part fault :=
    fun noValue => Arguments.read_eq_of_alike alike noValue
  have schemas : left.schemas = right.schemas :=
    Arguments.readAll_eq_of_alike alike (fun _ => rfl) .notSchema 0
  -- What is no value is read alike, and of values no more than a switch, a count, a path or options.
  cases own with
  | listing | declared => cases plain
  | number comparison limit => exact absurd rfl (numbers comparison limit)
  | multiple base => exact absurd rfl (multiples base)
  | standIn => rwa [identical rfl] at found
  | any | optional | array | insensitive => exact found
  | check test => cases test <;> exact found
  | custom =>
      rw [Rule.deed, Arguments.predicate, things fun _ => rfl] at found
      exact found
  | keys =>
      rw [Rule.deed, Arguments.keys, things fun _ => rfl] at found
      exact found
  | regex =>
      rw [Rule.deed, Arguments.regex, things fun _ => rfl] at found
      exact found
  | items =>
      rw [Rule.deed, Arguments.schema, things fun _ => rfl] at found
      exact found
  | pattern =>
      rw [Rule.deed, Arguments.regex, Arguments.schema, things fun _ => rfl, things fun _ => rfl] at found
      exact found
  | alternatives | furtherAlternatives | ordered =>
      rw [Rule.deed, schemas] at found
      exact found
  | allowUnknown | allowSparse | allowSingle =>
      rw [Rule.deed, Arguments.flag_of_alike alike] at found
      exact found
  | unique =>
      rw [Rule.deed, criterion?_of_alike alike] at found
      exact found
  | length | precision =>
      obtain ⟨limit, read, rfl⟩ := exists_of_map_eq_ok found
      rw [Rule.deed, Arguments.count_of_alike alike read]
      rfl
  | address =>
      obtain ⟨options, read, rfl⟩ := exists_of_map_eq_ok found
      rw [Rule.deed, options?_of_alike AddressOptions.ofValue?_of_alike alike read]
      rfl
  | reference =>
      obtain ⟨options, read, rfl⟩ := exists_of_map_eq_ok found
      rw [Rule.deed, options?_of_alike ReferenceOptions.ofValue?_of_alike alike read]
      rfl

end Rule

/-! ## Instances -/

/-- Whether a rule has a value that stands in is told by the call that it comes from. -/
theorem Rule.isSome_standIn?_unwired (rule : Rule σ) : rule.unwired.standIn?.isSome = rule.standIn?.isSome := by
  cases rule <;> rfl

/-- Two standard instances with rules that are alike, and so are the arguments; those of a stand-in are the very
same. -/
structure Instance.Alike (left right : Instance σ) : Prop where
  standard : left.IsStandard
  arguments : List.Forall₂ Argument.Alike left.arguments right.arguments
  rule : left.rule.Alike right.rule
  identical : left.rule.standIn?.isSome = true → left.arguments = right.arguments

namespace Instance.Alike

variable {left right : Instance σ} {deed : Deed σ} {change other : Change σ}

/-- An instance that has not been wired is like itself. -/
theorem of_fresh {entry : Instance σ} (fresh : entry.IsFresh) (standard : entry.IsStandard) : entry.Alike entry where
  standard := standard
  arguments := Arguments.alike_refl entry.arguments
  rule := .of_fresh fresh standard.ne_declared
  identical _ := rfl

/-- Of instances that are alike the second one is standard as well. -/
theorem standard_right (alike : left.Alike right) : right.IsStandard := by
  rw [IsStandard, ← alike.rule.unwired_eq]
  exact alike.standard

/-- Instances that are alike do alike. -/
theorem exists_deed (alike : left.Alike right) (found : left.deed = .ok deed) :
    ∃ next, right.deed = .ok next ∧ deed.Alike next := by
  obtain ⟨own, arguments⟩ := left
  obtain ⟨next, others⟩ := right
  obtain ⟨-, all, rules, identical⟩ := alike
  cases rules with
  | listing kind operating sets => exact Rule.exists_deed_listing all sets found
  | number comparison equal => exact Rule.exists_deed_number all found
  | multiple equal => exact Rule.exists_deed_multiple all found
  | refl _ plain =>
      have same (numbers : ∀ comparison limit, own ≠ .number comparison limit)
          (multiples : ∀ base, own ≠ .multiple base) :
          ∃ next, own.deed others = .ok next ∧ deed.Alike next :=
        ⟨deed, Rule.deed_of_alike all plain identical numbers multiples found,
          .of_does (Rule.does_of_deed found) plain⟩
      cases own with
      | number comparison limit => exact Rule.exists_deed_number all found
      | multiple base => exact Rule.exists_deed_multiple all found
      | _ => exact same (fun _ _ other => nomatch other) fun _ other => nomatch other

/-- Changes that are alike make instances that are alike of instances that are, or can be made to neither. -/
theorem amend (alike : left.Alike right) (changes : change.Alike other) :
    Option.Rel Instance.Alike (left.amend change.amendment) (right.amend other.amendment) := by
  have rules := changes.amend alike.rule alike.standard.ne_declared
  rw [Instance.amend, Instance.amend]
  generalize made : change.amendment left.rule = one at rules
  generalize other.amendment right.rule = two at rules
  cases rules with
  | none => exact .none
  | some both =>
      have call := change.keeps made
      refine .some ⟨?_, alike.arguments, both, fun stands => alike.identical ?_⟩
      · rw [IsStandard, call]
        exact alike.standard
      · rwa [← Rule.isSome_standIn?_unwired, ← call, Rule.isSome_standIn?_unwired]

/-- After changes that are alike instances are alike as before. -/
theorem changedBy {changes others : List (Change σ)} (all : List.Forall₂ Change.Alike changes others)
    (alike : left.Alike right) : (left.changedBy changes).Alike (right.changedBy others) := by
  unfold Instance.changedBy
  induction all generalizing left right with
  | nil => exact alike
  | cons head _ ih =>
      refine ih ?_
      have both := alike.amend head
      rw [Instance.changed, Instance.changed]
      generalize left.amend _ = one at both
      generalize right.amend _ = two at both
      cases both with
      | none => exact alike
      | some next => exact next

section Lists

variable {first second : List (Instance σ)}

/-- A change to the first instance that takes it is made in both lists or in neither. -/
theorem firstChanged? (changes : change.Alike other) (all : List.Forall₂ Instance.Alike first second) :
    Option.Rel (List.Forall₂ Instance.Alike) (firstChanged? first change) (firstChanged? second other) := by
  unfold Vetting.firstChanged?
  induction all with
  | nil => exact .none
  | @cons left right _ _ head rest ih =>
      have both := head.amend changes
      rw [amendFirst?, amendFirst?]
      generalize left.amend _ = one at both
      generalize right.amend _ = two at both
      cases both with
      | none => exact Lookalikes.rel_map ih fun _ _ more => .cons head more
      | some next => exact .some (.cons next rest)

/-- After a change to the last instance that takes it two lists are alike as before. -/
theorem lastChanged (changes : change.Alike other) (all : List.Forall₂ Instance.Alike first second) :
    List.Forall₂ Instance.Alike (lastChanged first change) (lastChanged second other) := by
  have reached : Option.Rel (List.Forall₂ Instance.Alike) (amendLast? (Instance.amend change.amendment) first)
      (amendLast? (Instance.amend other.amendment) second) := by
    induction all with
    | nil => exact .none
    | @cons left right firstRest secondRest head rest ih =>
        have both := head.amend changes
        rw [amendLast?, amendLast?]
        generalize amendLast? _ firstRest = one at ih
        generalize amendLast? _ secondRest = two at ih
        cases ih with
        | some later => exact .some (.cons head later)
        | none => exact Lookalikes.rel_map both fun _ _ next => .cons next rest
  unfold Vetting.lastChanged
  generalize amendLast? _ first = one at reached
  generalize amendLast? _ second = two at reached
  cases reached with
  | none => exact all
  | some changed => exact changed

end Lists

end Instance.Alike

/-! ## Rounds -/

namespace Deed.Alike

variable {deed other : Deed σ} {first second : List (Instance σ)}

/-- Deeds that are alike do alike to every sibling. -/
theorem map_onEach (deeds : deed.Alike other) (all : List.Forall₂ Instance.Alike first second) :
    List.Forall₂ Instance.Alike (first.map deed.onEach) (second.map other.onEach) :=
  List.rel_map (fun _ _ alike => alike.changedBy deeds.everywhere) all

/-- Deeds that are alike do alike to earlier siblings, before anything is handed over. -/
theorem onEarlier (deeds : deed.Alike other) (all : List.Forall₂ Instance.Alike first second) :
    List.Forall₂ Instance.Alike (deed.onEarlier first) (other.onEarlier second) := by
  have each := deeds.map_onEach all
  unfold Deed.onEarlier
  generalize first.map deed.onEach = one at each
  generalize second.map other.onEach = two at each
  have backwards := deeds.backwards
  generalize deed.backwards = changes at backwards
  generalize other.backwards = others at backwards
  induction backwards generalizing one two with
  | nil => exact each
  | cons head _ ih => exact ih _ _ (Instance.Alike.lastChanged head each)

/-- Deeds that are alike find somebody who acts for them in both lists or in neither. -/
theorem onBefore (deeds : deed.Alike other) (all : List.Forall₂ Instance.Alike first second) :
    (deed.onBefore first).1 = (other.onBefore second).1 ∧
      List.Forall₂ Instance.Alike (deed.onBefore first).2 (other.onBefore second).2 := by
  have earlier := deeds.onEarlier all
  have handed := deeds.handedOver
  unfold Deed.onBefore
  generalize deed.onEarlier first = one at earlier
  generalize other.onEarlier second = two at earlier
  generalize deed.handedOver = change at handed
  generalize other.handedOver = next at handed
  cases handed with
  | none => exact ⟨rfl, earlier⟩
  | some changes =>
      have reached := Instance.Alike.firstChanged? changes earlier
      simp only [Option.bind_some]
      generalize Vetting.firstChanged? one _ = taken at reached
      generalize Vetting.firstChanged? two _ = given at reached
      cases reached with
      | none => exact ⟨rfl, earlier⟩
      | some changed => exact ⟨rfl, changed⟩

/-- A key map is known to siblings that are alike, or to neither. -/
theorem knowsKeys_eq {after waiting : List (Instance σ)} (all : List.Forall₂ Instance.Alike first second)
    (behind : List.Forall₂ Instance.Alike after waiting) :
    Deed.knowsKeys ⟨first, after⟩ = Deed.knowsKeys ⟨second, waiting⟩ := by
  have told : ∀ left right : Instance σ, left.Alike right →
      (left.amend (.keys [] [])).isSome = (right.amend (.keys [] [])).isSome := by
    intro left right alike
    rw [Bool.eq_iff_iff, Instance.isSome_amend_keys, Instance.isSome_amend_keys, Instance.IsKeys, Instance.IsKeys,
      alike.rule.unwired_eq]
  exact congrArg₂ (· || ·) (any_forall₂ all told) (any_forall₂ behind told)

end Deed.Alike

namespace Instance

variable {left right : Instance σ} {deed other : Deed σ} {first second after waiting : List (Instance σ)}

/-- Instances that are alike are alike after deeds that are. -/
theorem Alike.wiredBy (alike : left.Alike right) (does : left.rule.Does deed) (deeds : deed.Alike other)
    (all : List.Forall₂ Alike first second) (behind : List.Forall₂ Alike after waiting) :
    (left.wiredBy deed ⟨first, after⟩).Alike (right.wiredBy other ⟨second, waiting⟩) := by
  have unwired := does.unwired_own (deed.onBefore first).1 (Deed.knowsKeys ⟨first, after⟩)
  refine ⟨?_, alike.arguments, ?_, fun stands => alike.identical ?_⟩
  · rw [IsStandard, Instance.wiredBy, unwired]
    exact alike.standard
  · rw [Instance.wiredBy, Instance.wiredBy, (deeds.onBefore all).1, Deed.Alike.knowsKeys_eq all behind]
    exact deeds.own _ _
  · rwa [← Rule.isSome_standIn?_unwired, ← unwired, Rule.isSome_standIn?_unwired]

variable [Identified σ]

/-- Whether two instances are the same call does not change with arguments that are alike. -/
theorem Alike.same_eq {entry next : Instance σ} (one : left.Alike right) (two : entry.Alike next) :
    wiring.same left entry = wiring.same right next := by
  have names : ∀ {left right : Instance σ}, left.Alike right → left.rule.name = right.rule.name := by
    intro left right alike
    rw [← Rule.name_unwired, alike.rule.unwired_eq, Rule.name_unwired]
  simp only [wiring, Instance.same, names one, names two, Arguments.same_of_alike one.arguments two.arguments]

/-- Rounds of instances that are alike leave behind instances that are alike. -/
theorem Alike.afterRound (alike : left.Alike right) (does : left.rule.Does deed) (deeds : deed.Alike other)
    (all : List.Forall₂ Alike first second) (behind : List.Forall₂ Alike after waiting) :
    List.Forall₂ Alike (left.afterRound deed first after).before (right.afterRound other second waiting).before ∧
      List.Forall₂ Alike (left.afterRound deed first after).after (right.afterRound other second waiting).after := by
  have siblings := (deeds.onBefore all).2
  have wired := alike.wiredBy does deeds all behind
  refine ⟨?_, deeds.map_onEach behind⟩
  simp only [Instance.afterRound, Wiring.sifted]
  rw [show wiring.operates (left.wiredBy deed ⟨first, after⟩) =
    wiring.operates (right.wiredBy other ⟨second, waiting⟩) from wired.rule.operates_eq]
  split
  · refine List.rel_append (List.rel_filter (fun entry next same => ?_) siblings) (.cons wired .nil)
    simp only [same.same_eq wired]
  · exact siblings

/-- **Rounds of calls that are alike.**  If the ones end well so do the others, and leave alike instances behind. -/
theorem rounds_of_alike {count : Nat} {state : Siblings (Instance σ)} (all : List.Forall₂ Alike first second)
    (behind : List.Forall₂ Alike after waiting) (ended : wiring.rounds count ⟨first, after⟩ = .ok state) :
    ∃ next, wiring.rounds count ⟨second, waiting⟩ = .ok next ∧ List.Forall₂ Alike state.before next.before := by
  induction count generalizing first second after waiting with
  | zero =>
      obtain rfl := Except.ok.inj ended
      exact ⟨_, rfl, all⟩
  | succ count ih =>
      cases behind with
      | nil => exact ih all .nil ended
      | @cons entry next rest others own later =>
          -- The first round leaves siblings behind that are alike, and the others go on with these.
          obtain ⟨deed, found, further⟩ := (rounds_succ_eq_ok own.standard).mp ended
          obtain ⟨other, also, deeds⟩ := own.exists_deed found
          obtain ⟨before, queue⟩ := own.afterRound (Rule.does_of_deed found) deeds all later
          obtain ⟨last, more, both⟩ := ih before queue further
          exact ⟨last, (rounds_succ_eq_ok own.standard_right).mpr ⟨other, also, more⟩, both⟩

/-- Entries that are alike are put into the same order. -/
theorem ordered_of_alike (all : List.Forall₂ Alike first second) :
    List.Forall₂ Alike (wiring.ordered first) (wiring.ordered second) := by
  have level : ∀ {left right : Instance σ}, left.Alike right → wiring.priority left = wiring.priority right := by
    intro left right alike
    change left.rule.priority = right.rule.priority
    rw [← Rule.priority_unwired, alike.rule.unwired_eq, Rule.priority_unwired]
  have inserted : ∀ {left right : Instance σ} {first second : List (Instance σ)}, left.Alike right →
      List.Forall₂ Alike first second →
        List.Forall₂ Alike (wiring.inserted left first) (wiring.inserted right second) := by
    intro left right first second own others
    induction others with
    | nil => exact .cons own .nil
    | cons head rest ih =>
        rw [Wiring.inserted, Wiring.inserted, level own, level head]
        split
        · exact .cons own (.cons head rest)
        · exact .cons head ih
  induction all with
  | nil => exact .nil
  | cons head _ ih => exact inserted head ih

/-- **Assemblies of calls that are alike.**  If the one comes about so does the other, and their rules are alike. -/
theorem assemble_of_alike {kept : List (Instance σ)} (all : List.Forall₂ Alike first second)
    (assembled : assemble first = .ok kept) :
    ∃ others, assemble second = .ok others ∧ List.Forall₂ Alike kept others := by
  rw [assemble, Wiring.assemble_eq] at assembled
  obtain ⟨state, ended, rfl⟩ := Rule.exists_of_map_eq_ok assembled
  obtain ⟨next, also, both⟩ := rounds_of_alike .nil (ordered_of_alike all) ended
  refine ⟨next.before, ?_, both⟩
  rw [assemble, Wiring.assemble_eq, ← all.length_eq, also]
  rfl

omit [Identified σ] in
/-- **Rules that are alike let the same values pass**, absent ones as well. -/
theorem admits_of_alike (all : List.Forall₂ Alike first second) {setting : Setting} {path : Path}
    {value accepted : Value} (translate : σ → Checked) :
    Admits setting translate path value accepted first ↔ Admits setting translate path value accepted second := by
  refine admits_of_judgesAlike (all.imp fun _ _ alike => ⟨alike.rule.judgesAlike translate, alike.rule.standIn?_eq⟩)
    (fun entry member => ?_) fun entry member => ?_
  · obtain ⟨other, -, alike⟩ := exists_of_mem_right all.flip member
    exact alike.standard
  · obtain ⟨other, -, alike⟩ := exists_of_mem_right all member
    exact alike.standard_right

end Instance

end Vetting
