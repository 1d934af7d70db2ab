import Mathlib.Data.List.Find
import Vetting.Proofs.Repetition.Heard

/-!
# Rules that meddle

A rule meddles with the repetition of an earlier call if it undoes what that call has done to others, brings
further rules for the call to act on, or acts on the rule of the call itself (`Rule.meddles`).  The rounds of
all other rules of a tier leave the siblings as they are who have heard of a deed (`Deed.Heard.rounds`).
-/

namespace Vetting

variable {σ : Type}

namespace Rule

/-- The first rule, called after the second one, meddles with its repetition. -/
def meddles {τ υ : Type} : Rule τ → Rule υ → Bool
  | insensitive, listing .invalid _ _ | standIn _ _, standIn _ _ | keys _, keys _
  | alternatives _, furtherAlternatives | furtherAlternatives, alternatives _
  | keys _, allowUnknown | pattern _, allowUnknown | allowUnknown, allowUnknown | allowUnknown, pattern _
  | array _ _, allowSparse | allowSparse, allowSparse | allowSparse, array _ _
  | array _ _, allowSingle | allowSingle, allowSingle | allowSingle, array _ _ => true
  | _, _ => false

@[simp] theorem meddles_unwired {τ υ : Type} (later : Rule τ) (own : Rule υ) :
    later.unwired.meddles own.unwired = later.meddles own := by
  cases later with
  | insensitive =>
      cases own with
      | listing kind set operating => cases kind <;> rfl
      | _ => rfl
  | standIn _ _ | keys _ | alternatives _ | furtherAlternatives | allowUnknown | pattern _ | array _ _
  | allowSparse | allowSingle => cases own <;> rfl
  | _ => rfl

/-- The rule may make the change when it is wired. -/
def makes {τ : Type} : Rule τ → Change σ → Bool
  | listing kind _ _, .add other _ => kind = other
  | listing kind _ _, .strike other _ => kind = .invalid && other ≠ .invalid
  | standIn _ _, .standIn _ | furtherAlternatives, .alternatives _ | keys _, .keys _ _
  | allowUnknown, .keysUnknown _ | allowUnknown, .patternUnknown _ | allowSparse, .sparse _
  | allowSingle, .single _ | insensitive, .relate _ | check .required, .disable => true
  | pattern _, .keys entries _ => entries.isEmpty
  | _, _ => false

/-- A deed makes only changes that the rule is known to make. -/
theorem Does.makes {own : Rule σ} {deed : Deed σ} (does : own.Does deed) :
    ∀ change ∈ deed.changes, own.makes change = true := by
  cases does with
  | listing kind set operating values =>
      cases kind <;> simp [Deed.changes, Deed.gathering, strikes, Rule.makes]
  | _ => simp [Deed.changes, Deed.alone, Deed.modifying, Deed.gathering, Rule.makes]

section Makers

variable {τ : Type} {own : Rule τ} {kind : Listing} {values : List Value}

theorem eq_listing_of_makes_add (makes : own.makes (.add kind values : Change σ) = true) :
    ∃ set operating, own = listing kind set operating := by
  cases own with
  | listing other set operating =>
      simp only [Rule.makes, decide_eq_true_eq] at makes
      exact ⟨set, operating, makes ▸ rfl⟩
  | check test => cases test <;> cases makes
  | _ => cases makes

theorem eq_invalid_of_makes_strike (makes : own.makes (.strike kind values : Change σ) = true) :
    kind ≠ .invalid ∧ ∃ set operating, own = listing .invalid set operating := by
  cases own with
  | listing other set operating =>
      simp only [Rule.makes, Bool.and_eq_true, decide_eq_true_eq] at makes
      exact ⟨makes.2, set, operating, makes.1 ▸ rfl⟩
  | check test => cases test <;> cases makes
  | _ => cases makes

theorem eq_insensitive_of_makes_relate {relation : Relation}
    (makes : own.makes (.relate relation : Change σ) = true) : own = insensitive := by
  cases own with
  | insensitive => rfl
  | check test => cases test <;> cases makes
  | _ => cases makes

theorem exists_of_makes_standIn {value : Value} (makes : own.makes (.standIn value : Change σ) = true) :
    ∃ old operating, own = standIn old operating := by
  cases own with
  | standIn old operating => exact ⟨old, operating, rfl⟩
  | check test => cases test <;> cases makes
  | _ => cases makes

theorem exists_of_makes_keys {entries : Members σ} {patterns : List Regex} (nonempty : entries ≠ [])
    (makes : own.makes (.keys entries patterns) = true) : ∃ rule, own = keys rule := by
  cases own with
  | keys rule => exact ⟨rule, rfl⟩
  | pattern rule => exact absurd (List.isEmpty_iff.mp makes) nonempty
  | check test => cases test <;> cases makes
  | _ => cases makes

theorem eq_allowUnknown_of_makes {allow : Bool}
    (makes : own.makes (.keysUnknown allow : Change σ) = true ∨
      own.makes (.patternUnknown allow : Change σ) = true) : own = allowUnknown := by
  cases own with
  | allowUnknown => rfl
  | check test => cases test <;> rcases makes with makes | makes <;> cases makes
  | _ => rcases makes with makes | makes <;> cases makes

theorem eq_allowSparse_of_makes {allow : Bool} (makes : own.makes (.sparse allow : Change σ) = true) :
    own = allowSparse := by
  cases own with
  | allowSparse => rfl
  | check test => cases test <;> cases makes
  | _ => cases makes

theorem eq_allowSingle_of_makes {allow : Bool} (makes : own.makes (.single allow : Change σ) = true) :
    own = allowSingle := by
  cases own with
  | allowSingle => rfl
  | check test => cases test <;> cases makes
  | _ => cases makes

end Makers

/-- A rule that does not meddle disturbs nothing that a rule of its tier does. -/
theorem not_disturbs {τ υ : Type} {later : Rule τ} {own : Rule υ} (apart : later.meddles own = false)
    (level : later.priority = own.priority) {change other : Change σ} (makes : own.makes change = true)
    (makesOther : later.makes other = true) : ¬ other.Disturbs change := by
  intro disturbs
  cases other with
  | add kind values =>
      cases change with
      | strike other struck =>
          obtain ⟨valid, set, operating, rfl⟩ := eq_invalid_of_makes_strike makes
          obtain ⟨others, working, rfl⟩ := eq_listing_of_makes_add makesOther
          obtain rfl : kind = other := disturbs
          cases kind with
          | invalid => exact valid rfl
          | valid | allow => cases level
      | _ => cases disturbs
  | strike kind values =>
      cases change with
      | add other listed =>
          obtain ⟨valid, set, operating, rfl⟩ := eq_invalid_of_makes_strike makesOther
          obtain ⟨others, working, rfl⟩ := eq_listing_of_makes_add makes
          obtain rfl : kind = other := disturbs
          cases kind with
          | invalid => exact valid rfl
          | valid | allow => cases level
      | _ => cases disturbs
  | relate relation =>
      cases change with
      | strike kind struck =>
          obtain ⟨-, set, operating, rfl⟩ := eq_invalid_of_makes_strike makes
          obtain rfl := eq_insensitive_of_makes_relate makesOther
          cases apart
      | _ => cases disturbs
  | standIn value =>
      cases change with
      | standIn own =>
          obtain ⟨old, operating, rfl⟩ := exists_of_makes_standIn makes
          obtain ⟨others, working, rfl⟩ := exists_of_makes_standIn makesOther
          cases apart
      | _ => cases disturbs
  | keys entries patterns =>
      cases change with
      | keys own known =>
          obtain ⟨nonempty, ownNonempty, -⟩ := disturbs
          obtain ⟨rule, rfl⟩ := exists_of_makes_keys ownNonempty makes
          obtain ⟨others, rfl⟩ := exists_of_makes_keys nonempty makesOther
          cases apart
      | _ => cases disturbs
  | keysUnknown allow =>
      cases change with
      | keysUnknown own =>
          obtain rfl := eq_allowUnknown_of_makes (.inl makes)
          obtain rfl := eq_allowUnknown_of_makes (.inl makesOther)
          cases apart
      | _ => cases disturbs
  | patternUnknown allow =>
      cases change with
      | patternUnknown own =>
          obtain rfl := eq_allowUnknown_of_makes (.inr makes)
          obtain rfl := eq_allowUnknown_of_makes (.inr makesOther)
          cases apart
      | _ => cases disturbs
  | sparse allow =>
      cases change with
      | sparse own =>
          obtain rfl := eq_allowSparse_of_makes makes
          obtain rfl := eq_allowSparse_of_makes makesOther
          cases apart
      | _ => cases disturbs
  | single allow =>
      cases change with
      | single own =>
          obtain rfl := eq_allowSingle_of_makes makes
          obtain rfl := eq_allowSingle_of_makes makesOther
          cases apart
      | _ => cases disturbs
  | _ => cases change <;> cases disturbs

/-- What a rule changes in the last one of a sort is no business of a rule that does not meddle. -/
theorem Does.not_aims_backwards {own : Rule σ} {deed : Deed σ} (does : own.Does deed) {later : Rule σ}
    (apart : later.meddles own = false) : ∀ change ∈ deed.backwards, change.aims later = false := by
  cases does with
  | furtherAlternatives further | allowSparse allow | allowSingle allow =>
      intro change member
      obtain rfl := List.mem_singleton.mp member
      cases later with
      | alternatives schemas | array one holes => first | rfl | cases apart
      | _ => rfl
  | allowUnknown allow =>
      intro change member
      have either : change = .keysUnknown allow ∨ change = .patternUnknown allow := by
        simpa [Deed.modifying] using member
      rcases either with rfl | rfl
      · cases later with
        | keys rule => cases apart
        | _ => rfl
      · cases later with
        | pattern rule => cases apart
        | _ => rfl
  | _ => exact fun _ member => absurd member List.not_mem_nil

/-- What a rule of the tier keeps to itself has heard of all that it has heard of while it was waiting. -/
theorem Does.idle_own {later : Rule σ} (standard : later.unwired ∈ Ruleset.standardRules) {laterDeed : Deed σ}
    (doesLater : later.Does laterDeed) (asleep : later.Asleep) {own : Rule σ} {deed : Deed σ}
    (does : own.Does deed) (level : later.priority = own.priority) {change : Change σ}
    (member : change ∈ deed.everywhere) (heard : change.Idle later) {taken hasKeys : Bool}
    (operates : (laterDeed.own taken hasKeys).operates = true) : change.Idle (laterDeed.own taken hasKeys) := by
  have same := doesLater.unwired_own taken hasKeys
  have beyond : change.aims later = false → change.Idle (laterDeed.own taken hasKeys) := by
    intro none changed made
    have declared : ∀ declaration, laterDeed.own taken hasKeys ≠ .declared declaration :=
      ne_declared_of_standard (same ▸ standard)
    have applies := change.isSome_amendment declared
    rw [made, ← change.aims_unwired, same, change.aims_unwired, none] at applies
    cases applies
  cases does with
  | listing kind set operating values =>
      refine beyond ?_
      cases kind with
      | invalid =>
          have either : change = .strike .valid values ∨ change = .strike .allow values := by
            simpa [Deed.gathering, strikes] using member
          cases later with
          | listing other others working =>
              cases other with
              | invalid => rcases either with rfl | rfl <;> rfl
              | valid | allow => cases level
          | _ => rcases either with rfl | rfl <;> rfl
      | valid | allow => cases member
  | pattern rule expression schema =>
      obtain rfl := List.mem_singleton.mp member
      cases doesLater with
      | keys known entries =>
          cases taken with
          | true => exact absurd ((asleep known rfl).symm.trans operates) Bool.false_ne_true
          | false =>
              obtain ⟨-, -, -, named⟩ := (heard _ rfl).keys_eq
              intro changed made
              obtain rfl := Option.some.inj made
              exact .ofKeys rfl rfl rfl named
      | alone alone kind => exact beyond (by cases later <;> first | rfl | cases alone)
      | _ => exact beyond rfl
  | insensitive =>
      obtain rfl := List.mem_singleton.mp member
      cases doesLater with
      | listing kind set working values =>
          have known := Change.idle_relate.mp heard
          cases taken <;> exact Change.idle_relate.mpr known
      | alone alone kind => exact beyond (by cases later <;> first | rfl | cases alone)
      | _ => exact beyond rfl
  | required =>
      obtain rfl := List.mem_singleton.mp member
      refine beyond ?_
      cases later with
      | optional enabled => cases level
      | _ => rfl
  | _ => cases member

end Rule

/-! ## Deeds of rules that still wait -/

/-- The second deed is what has become of the first one under the changes.  It does the same, except that it
may hand over more; but what has heard of the one and is changed like that has heard of the other. -/
structure Deed.Follows (changes : List (Change σ)) (deed next : Deed σ) : Prop where
  everywhere : next.everywhere = deed.everywhere
  backwards : next.backwards = deed.backwards
  nothing : deed.handedOver = none → next.handedOver = none
  handedOver : ∀ given, deed.handedOver = some given → ∃ further, next.handedOver = some further ∧
    (∀ entry, further.reaches entry = given.reaches entry) ∧
    (∀ other : Change σ, ¬ other.Disturbs given → ¬ other.Disturbs further) ∧
    ∀ entry : Instance σ, entry.IsStandard → given.reaches entry = true →
      (∀ change ∈ changes, ¬ change.Disturbs given) → given.Idle entry.rule →
        further.Idle (entry.changedBy changes).rule

namespace Deed.Follows

/-- A deed that differs in its own rule only follows from the same changes. -/
theorem of_eq {changes : List (Change σ)} {deed next : Deed σ} (everywhere : next.everywhere = deed.everywhere)
    (backwards : next.backwards = deed.backwards) (handedOver : next.handedOver = deed.handedOver) :
    Follows changes deed next where
  everywhere := everywhere
  backwards := backwards
  nothing := handedOver.trans
  handedOver given same := by
    refine ⟨given, handedOver.trans same, fun _ => rfl, fun _ => id, ?_⟩
    intro entry standard _ calm idle
    exact idle.becomes standard calm (entry.becomes_changedBy changes)

/-- Changes of a deed follow one after the other. -/
theorem cons {change : Change σ} {rest : List (Change σ)} {first second third : Deed σ}
    (one : Follows [change] first second) (more : Follows rest second third) :
    Follows (change :: rest) first third where
  everywhere := more.everywhere.trans one.everywhere
  backwards := more.backwards.trans one.backwards
  nothing none := more.nothing (one.nothing none)
  handedOver given same := by
    obtain ⟨middle, second, reaches, calm, heard⟩ := one.handedOver given same
    obtain ⟨last, third, reachesLast, calmLast, heardLast⟩ := more.handedOver middle second
    refine ⟨last, third, fun entry => (reachesLast entry).trans (reaches entry),
      fun other undisturbed => calmLast other (calm other undisturbed), ?_⟩
    intro entry standard reached undisturbed idle
    have becomes : entry.Becomes [change] (entry.changed change) :=
      entry.becomes_changed (List.mem_singleton.mpr rfl)
    have now := heard entry standard reached
      (fun other member => undisturbed other (List.mem_singleton.mp member ▸ List.mem_cons_self)) idle
    refine heardLast (entry.changed change) (standard.of_call_eq becomes.call_eq) ?_ ?_ now
    · rw [reaches, Change.reaches_eq_of_call given becomes.call_eq, reached]
    · exact fun other member => calm other (undisturbed other (List.mem_cons_of_mem _ member))

/-- A key map that is given patterns while it waits hands these over, too. -/
theorem of_keys {entries put : Members σ} {patterns named : List Regex} {deed next : Deed σ}
    (everywhere : next.everywhere = deed.everywhere) (backwards : next.backwards = deed.backwards)
    (hands : deed.handedOver = some (.keys entries patterns))
    (nextHands : next.handedOver = some (.keys entries (patterns ++ named))) :
    Follows [.keys put named] deed next where
  everywhere := everywhere
  backwards := backwards
  nothing none := nomatch none.symm.trans hands
  handedOver given same := by
    obtain rfl := Option.some.inj (hands.symm.trans same)
    refine ⟨_, nextHands, fun entry => ?_, fun other calm => ?_, fun entry standard reached calm idle => ?_⟩
    · obtain ⟨rule, arguments⟩ := entry
      cases rule <;> rfl
    · cases other <;> exact calm
    · have now := idle.becomes standard calm (entry.becomes_changedBy [.keys put named])
      obtain ⟨rule, arguments⟩ := entry
      cases rule with
      | keys map =>
          obtain ⟨same, -, -, known⟩ := (now _ rfl).keys_eq
          intro further again
          obtain rfl := Option.some.inj again
          refine .ofKeys same rfl rfl fun pattern => ?_
          have listed := known pattern
          simp only [List.mem_append] at listed ⊢
          tauto
      | _ => cases reached

end Deed.Follows

/-- A change of a rule that still waits makes no other deed of it. -/
theorem Instance.exists_deed_changed {own : Instance σ} (standard : own.IsStandard) {deed : Deed σ}
    (found : own.deed = .ok deed) (change : Change σ) :
    ∃ next, (own.changed change).deed = .ok next ∧ Deed.Follows [change] deed next := by
  unfold Instance.changed
  cases made : own.amend change.amendment with
  | none => exact ⟨deed, found, .of_eq rfl rfl rfl⟩
  | some after =>
      obtain ⟨rule, amended, rfl⟩ := Option.map_eq_some_iff.mp made
      obtain ⟨old, arguments⟩ := own
      have follows : ∀ {next : Deed σ}, (⟨rule, arguments⟩ : Instance σ).deed = .ok next →
          Deed.Follows [change] deed next →
          ∃ next, (⟨rule, arguments⟩ : Instance σ).deed = .ok next ∧ Deed.Follows [change] deed next :=
        fun same alike => ⟨_, same, alike⟩
      cases old with
      | listing kind set operating =>
          obtain ⟨after, rfl, -⟩ := Change.exists_listing amended
          obtain ⟨values, read, rfl⟩ := Rule.exists_of_map_eq_ok found
          exact follows (congrArg (Except.map _) read) (.of_eq rfl rfl rfl)
      | keys known =>
          obtain ⟨entries, read, rfl⟩ := Rule.exists_of_map_eq_ok found
          cases change with
          | keys put named =>
              obtain rfl := Option.some.inj amended
              exact follows (congrArg (Except.map _) read) (.of_keys rfl rfl rfl rfl)
          | keysUnknown allow =>
              obtain rfl := Option.some.inj amended
              exact follows (congrArg (Except.map _) read) (.of_eq rfl rfl rfl)
          | _ => cases amended
      | alternatives schemas =>
          obtain ⟨content, read, rfl⟩ := Rule.exists_of_map_eq_ok found
          cases change <;> cases amended
          exact follows (congrArg (Except.map _) read) (.of_eq rfl rfl rfl)
      | standIn value operating =>
          obtain ⟨content, read, rfl⟩ := Rule.exists_of_map_eq_ok found
          cases change <;> cases amended
          exact follows (congrArg (Except.map _) read) (.of_eq rfl rfl rfl)
      | pattern known =>
          obtain ⟨expression, readFirst, rest⟩ := exists_of_bind_eq_ok found
          obtain ⟨schema, readSecond, rfl⟩ := exists_of_read_eq_ok rest
          cases change with
          | patternUnknown allow =>
              obtain rfl := Option.some.inj amended
              have read : (⟨.pattern { known with allowsUnknown := allow }, arguments⟩ : Instance σ).deed =
                  .ok ⟨[.keys [] [expression]], [], none, fun _ hasKeys =>
                    .pattern ⟨some (expression, schema), hasKeys, allow⟩⟩ := by
                simp only [Instance.deed, Rule.deed, readFirst, readSecond]
                rfl
              exact follows read (.of_eq rfl rfl rfl)
          | _ => cases amended
      | optional enabled =>
          obtain rfl := Except.ok.inj found
          cases change <;> cases amended
          exact follows rfl (.of_eq rfl rfl rfl)
      | array one holes =>
          obtain rfl := Except.ok.inj found
          cases change <;> cases amended <;> exact follows rfl (.of_eq rfl rfl rfl)
      | declared declaration => exact absurd rfl (standard.ne_declared declaration)
      | _ => cases change <;> cases amended

/-- No changes of a rule that still waits make another deed of it. -/
theorem Instance.exists_deed_changedBy {own : Instance σ} (standard : own.IsStandard) {deed : Deed σ}
    (found : own.deed = .ok deed) (changes : List (Change σ)) :
    ∃ next, (own.changedBy changes).deed = .ok next ∧ Deed.Follows changes deed next := by
  unfold Instance.changedBy
  induction changes generalizing own deed with
  | nil => exact ⟨deed, found, .of_eq rfl rfl rfl⟩
  | cons change rest ih =>
      obtain ⟨middle, read, one⟩ := exists_deed_changed standard found change
      have becomes : own.Becomes [change] (own.changed change) :=
        own.becomes_changed (List.mem_singleton.mpr rfl)
      obtain ⟨next, readNext, more⟩ := ih (standard.of_call_eq becomes.call_eq) read
      exact ⟨next, readNext, one.cons more⟩

/-! ## Rounds of rules that do not meddle -/

theorem find?_reverse_concat {ι : Type} {entries : List ι} {last : ι} {wanted : ι → Bool}
    (other : wanted last = false) : (entries ++ [last]).reverse.find? wanted = entries.reverse.find? wanted := by
  rw [List.reverse_append, List.reverse_singleton, List.singleton_append, List.find?_cons, other]

/-- What is wanted is found among those that are kept if all of it is kept. -/
theorem find?_filter_of_kept {ι : Type} {entries : List ι} {wanted keep : ι → Bool}
    (kept : ∀ entry ∈ entries, wanted entry = true → keep entry = true) :
    (entries.filter keep).find? wanted = entries.find? wanted := by
  rw [List.find?_filter]
  refine List.find?_congr fun entry member => ?_
  cases own : wanted entry with
  | false => simp only [decide_eq_false_iff_not, Bool.false_eq_true, not_false_eq_true, and_false]
  | true => simp only [kept entry member own, decide_eq_true_eq, and_self]

section Round

variable [Identified σ] {own entry : Instance σ} {deed laterDeed : Deed σ} {before after : List (Instance σ)}

/-- An entry that a round could take away is of the sort of the rule that it wires. -/
theorem kept_of_not_reaches {change : Change σ} (found : entry.deed = .ok laterDeed)
    (standard : ∀ other ∈ before ++ entry :: after, other.IsStandard) (beyond : change.reaches entry = false) :
    ∀ other ∈ (laterDeed.onBefore before).2, change.reaches other = true →
      (!Instance.wiring.same other (entry.wiredBy laterDeed ⟨before, after⟩)) = true := by
  intro other member reached
  have entryStandard := standard entry (List.mem_append_right _ List.mem_cons_self)
  have wiredCall := Instance.call_wiredBy entryStandard found ⟨before, after⟩
  have siblings := Change.standard_of_becomes
    (fun other member => standard other (List.mem_append_left _ member)) (laterDeed.becomes_onBefore before)
  cases same : Instance.wiring.same other (entry.wiredBy laterDeed ⟨before, after⟩) with
  | false => rfl
  | true =>
      have sort := Instance.unwired_eq_of_same (siblings other member) (entryStandard.of_call_eq wiredCall) same
      rw [change.reaches_eq_of_unwired sort, change.reaches_eq_of_call wiredCall, beyond] at reached
      cases reached

/-- What a rule does to the first of its sort no other rule takes away: those of that sort hand over, too, and
those of other sorts are not the same call. -/
theorem Change.IdleFirst.sifted {change : Change σ} (found : entry.deed = .ok laterDeed)
    (asleep : entry.rule.Asleep) (standard : ∀ other ∈ before ++ entry :: after, other.IsStandard)
    (gathers : own.rule.gathers = true)
    (sort : ∀ other : Instance σ, change.reaches other = true ↔ other.rule.unwired = own.rule.unwired)
    (idle : change.IdleFirst (laterDeed.onBefore before).2) :
    change.IdleFirst (entry.afterRound laterDeed before after).before := by
  cases operates : (entry.wiredBy laterDeed ⟨before, after⟩).rule.operates with
  | false => rwa [Instance.before_afterRound_of_idle operates]
  | true =>
      obtain ⟨first, firstFound, quiet⟩ := idle
      have beyond : change.reaches entry = false := by
        cases reached : change.reaches entry with
        | false => rfl
        | true =>
            -- A rule of the same sort would have handed over what it has.
            have entrySort := (sort entry).mp reached
            obtain ⟨origin, stood, becomes⟩ :=
              exists_of_mem_right (laterDeed.becomes_onBefore before) (List.mem_of_find?_eq_some firstFound)
            have firstSort := (sort first).mp (List.find?_some firstFound)
            have originSort : origin.rule.unwired = entry.rule.unwired :=
              (Prod.mk.inj becomes.call_eq).1.symm.trans (firstSort.trans entrySort.symm)
            have alsoGathers : entry.rule.gathers = true := by
              rw [← Rule.gathers_unwired, entrySort, Rule.gathers_unwired, gathers]
            have taken := Deed.taken_of_mem found
              (fun other member => standard other (List.mem_append_left _ member)) alsoGathers stood originSort
            have does := Rule.does_of_deed found
            obtain ⟨given, hands⟩ := Option.isSome_iff_exists.mp (does.isSome_handedOver.trans alsoGathers)
            simp only [Instance.wiredBy, taken, does.operates_of_taken asleep hands] at operates
            cases operates
      refine ⟨first, ?_, quiet⟩
      rw [Instance.before_afterRound_of_operates operates, List.find?_append,
        find?_filter_of_kept (kept_of_not_reaches found standard beyond), firstFound, Option.some_or]

/-- A change stays idle on the last entry after the round of an instance that cannot take it. -/
theorem Change.IdleLast.sifted {change : Change σ} (found : entry.deed = .ok laterDeed)
    (standard : ∀ other ∈ before ++ entry :: after, other.IsStandard)
    (beyond : change.reaches entry = false) (idle : change.IdleLast (laterDeed.onBefore before).2) :
    change.IdleLast (entry.afterRound laterDeed before after).before := by
  have entryStandard := standard entry (List.mem_append_right _ List.mem_cons_self)
  cases operates : (entry.wiredBy laterDeed ⟨before, after⟩).rule.operates with
  | false => rwa [Instance.before_afterRound_of_idle operates]
  | true =>
      intro last lastFound
      have wiredBeyond : change.reaches (entry.wiredBy laterDeed ⟨before, after⟩) = false := by
        rw [change.reaches_eq_of_call (Instance.call_wiredBy entryStandard found ⟨before, after⟩), beyond]
      have kept := kept_of_not_reaches found standard beyond
      rw [Instance.before_afterRound_of_operates operates, find?_reverse_concat wiredBeyond, ← List.filter_reverse,
        find?_filter_of_kept fun other member => kept other (List.mem_reverse.mp member)] at lastFound
      exact idle last lastFound

omit [Identified σ] in
/-- What a rule does is not disturbed by what another one of its tier does that does not meddle. -/
theorem Deed.calm_of_not_meddles (does : own.rule.Does deed) (doesLater : entry.rule.Does laterDeed)
    (apart : entry.rule.meddles own.rule = false) (level : entry.rule.priority = own.rule.priority) :
    ∀ change ∈ deed.changes, ∀ other ∈ laterDeed.changes, ¬ other.Disturbs change :=
  fun change member other inside =>
    Rule.not_disturbs apart level (does.makes change member) (doesLater.makes other inside)

/-- What has been told to every sibling stays idle in the round of a rule that does not meddle. -/
theorem Deed.Heard.idle_round (does : own.rule.Does deed) (found : entry.deed = .ok laterDeed)
    (asleep : entry.rule.Asleep) (standard : ∀ other ∈ before ++ entry :: after, other.IsStandard)
    (apart : entry.rule.meddles own.rule = false) (level : entry.rule.priority = own.rule.priority)
    (heard : deed.Heard before (entry :: after)) {change : Change σ} (member : change ∈ deed.everywhere)
    {other : Instance σ} (inside : other ∈ (entry.afterRound laterDeed before after).before ++
      (entry.afterRound laterDeed before after).after) : change.Idle other.rule := by
  have doesLater := Rule.does_of_deed found
  have calm := calm_of_not_meddles does doesLater apart level change (deed.everywhere_subset member)
  rcases List.mem_append.mp inside with earlier | waiting
  · rcases Instance.origin_of_mem_afterRound earlier with sibling | ⟨rfl, operates⟩
    · obtain ⟨first, stood, becomes⟩ := exists_of_mem_right (laterDeed.becomes_onBefore before) sibling
      have among := List.mem_append_left (entry :: after) stood
      exact (heard.everywhere change member first among).becomes
        (standard first (List.mem_append_left _ stood)) calm becomes
    · have among : entry ∈ before ++ entry :: after := List.mem_append_right _ List.mem_cons_self
      exact doesLater.idle_own (standard entry among) asleep does level member
        (heard.everywhere change member entry among) operates
  · obtain ⟨first, stood, rfl⟩ := List.mem_map.mp waiting
    have among : first ∈ before ++ entry :: after := List.mem_append_right _ (List.mem_cons_of_mem _ stood)
    exact (heard.everywhere change member first among).becomes (standard first among)
      (fun other inside => calm other (laterDeed.everywhere_subset inside)) (laterDeed.becomes_onEach first)

/-- What has been handed over stays idle in the round of a rule that does not meddle, as what has become of it. -/
theorem Deed.Follows.idleFirst_round {next : Deed σ} (follows : Follows laterDeed.everywhere deed next)
    (does : own.rule.Does deed) (found : entry.deed = .ok laterDeed) (asleep : entry.rule.Asleep)
    (standard : ∀ other ∈ before ++ entry :: after, other.IsStandard)
    (apart : entry.rule.meddles own.rule = false) (level : entry.rule.priority = own.rule.priority)
    (heard : deed.Heard before (entry :: after)) {further : Change σ} (given : next.handedOver = some further) :
    further.IdleFirst (entry.afterRound laterDeed before after).before := by
  cases hands : deed.handedOver with
  | none =>
      rw [follows.nothing hands] at given
      cases given
  | some change =>
      have beforeStandard : ∀ other ∈ before, other.IsStandard :=
        fun other member => standard other (List.mem_append_left _ member)
      have calm := calm_of_not_meddles does (Rule.does_of_deed found) apart level change
        (List.mem_append_right _ (Option.mem_toList.mpr hands))
      obtain ⟨known, nextHands, reaches, undisturbed, passedOn⟩ := follows.handedOver change hands
      obtain rfl : known = further := Option.some.inj (nextHands.symm.trans given)
      -- The first of the sort is changed as the waiting rule is, and then by what only siblings undergo.
      obtain ⟨first, firstFound, idle⟩ := heard.handedOver change hands
      have each : known.IdleFirst (before.map laterDeed.onEach) := by
        refine ⟨laterDeed.onEach first, ?_, passedOn first
          (beforeStandard first (List.mem_of_find?_eq_some firstFound)) (List.find?_some firstFound)
          (fun other inside => calm other (laterDeed.everywhere_subset inside)) idle⟩
        have same : known.reaches ∘ laterDeed.onEach = change.reaches := by
          funext other
          rw [Function.comp_apply, known.reaches_eq_of_call (laterDeed.becomes_onEach other).call_eq, reaches]
        rw [List.find?_map, same, firstFound, Option.map_some]
      have now := each.becomes (standard_map_onEach beforeStandard)
        (fun other inside => undisturbed other (calm other inside)) (laterDeed.becomes_onBefore_of_each before)
      have gathers : own.rule.gathers = true := by rw [← does.isSome_handedOver, hands, Option.isSome_some]
      refine now.sifted found asleep standard gathers fun other => ?_
      rw [reaches]
      exact does.aims_of_handedOver hands other.rule

/-- **A round that does not meddle.**  Siblings who have heard of the deed of a waiting rule have heard of what
becomes of it in the round of another rule of the tier that does not meddle. -/
theorem Deed.Heard.round (ownStandard : own.IsStandard) (ownDeed : own.deed = .ok deed)
    (found : entry.deed = .ok laterDeed) (asleep : entry.rule.Asleep)
    (standard : ∀ other ∈ before ++ entry :: after, other.IsStandard)
    (apart : entry.rule.meddles own.rule = false) (level : entry.rule.priority = own.rule.priority)
    (heard : deed.Heard before (entry :: after)) :
    ∃ next, (laterDeed.onEach own).deed = .ok next ∧
      next.Heard (entry.afterRound laterDeed before after).before
        (entry.afterRound laterDeed before after).after := by
  have does := Rule.does_of_deed ownDeed
  obtain ⟨next, read, follows⟩ := Instance.exists_deed_changedBy ownStandard ownDeed laterDeed.everywhere
  refine ⟨next, read, ?_, ?_, ?_⟩
  · rw [follows.everywhere]
    exact fun change member other inside => heard.idle_round does found asleep standard apart level member inside
  · rw [follows.backwards]
    intro change member
    have among : change ∈ deed.changes := List.mem_append_left _ (List.mem_append_right _ member)
    have calm := calm_of_not_meddles does (Rule.does_of_deed found) apart level change among
    have beforeStandard : ∀ other ∈ before, other.IsStandard :=
      fun other member => standard other (List.mem_append_left _ member)
    exact ((heard.backwards change member).becomes beforeStandard calm
      (laterDeed.becomes_onBefore before)).sifted found standard (does.not_aims_backwards apart change member)
  · exact fun further given => follows.idleFirst_round does found asleep standard apart level heard given

end Round

namespace Instance

variable {left right first second : Instance σ}

/-- Whether a rule meddles with another is told by the two calls. -/
theorem meddles_of_call (one : left.call = first.call) (two : right.call = second.call) :
    left.rule.meddles right.rule = first.rule.meddles second.rule := by
  rw [← Rule.meddles_unwired, (Prod.mk.inj one).1, (Prod.mk.inj two).1, Rule.meddles_unwired]

end Instance

/-- Changes wake no key map up. -/
theorem Instance.Becomes.asleep {changes : List (Change σ)} {entry next : Instance σ}
    (becomes : entry.Becomes changes next) (asleep : entry.rule.Asleep) : next.rule.Asleep := by
  refine becomes.keeps (fun other => other.rule.Asleep) ?_ asleep
  intro change _ before after asleep made
  obtain ⟨rule, amended, rfl⟩ := Option.map_eq_some_iff.mp made
  obtain ⟨old, arguments⟩ := before
  intro known same
  obtain rfl : rule = .keys known := same
  cases old with
  | keys rule => cases change <;> cases amended <;> exact asleep rule rfl
  | _ => exact nomatch change.keeps amended

variable [Identified σ]

/-- **Rounds that do not meddle.**  Siblings who have heard of the deed of a waiting rule still have heard of it
when all rules of the tier that wait in front of it have been wired, unless one of these meddles. -/
theorem Deed.Heard.rounds {own : Instance σ} {deed : Deed σ} {before queue rest : List (Instance σ)}
    {state : Siblings (Instance σ)} (ownDeed : own.deed = .ok deed)
    (standard : ∀ other ∈ before ++ (queue ++ own :: rest), other.IsStandard)
    (asleep : ∀ other ∈ queue, other.rule.Asleep)
    (apart : ∀ other ∈ queue, other.rule.meddles own.rule = false)
    (level : ∀ other ∈ queue, other.rule.priority = own.rule.priority)
    (heard : deed.Heard before (queue ++ own :: rest))
    (ended : Instance.wiring.rounds queue.length ⟨before, queue ++ own :: rest⟩ = .ok state) :
    ∃ last next others, state.after = last :: others ∧ last.deed = .ok next ∧
      next.Heard state.before state.after := by
  induction queue using Instance.queue_induction generalizing own deed before rest with
  | nil =>
      obtain rfl := Except.ok.inj ended
      exact ⟨own, deed, rest, rfl, ownDeed, heard⟩
  | cons entry later ih =>
      have first : entry ∈ entry :: later := List.mem_cons_self
      have behind : ∀ other ∈ later, other ∈ entry :: later := fun other => List.mem_cons_of_mem entry
      obtain ⟨laterDeed, found, further⟩ := (Instance.rounds_queue_eq_ok (standard entry (by simp))).mp ended
      have ownStandard : own.IsStandard := standard own (by simp)
      have nextStandard := Instance.standard_afterRound_append found standard
      have calls := fun other => (laterDeed.becomes_onEach other).call_eq
      rw [List.cons_append] at standard heard
      obtain ⟨next, read, nextHeard⟩ := Deed.Heard.round ownStandard ownDeed found (asleep entry first) standard
        (apart entry first) (level entry first) heard
      have after : (entry.afterRound laterDeed before (later ++ own :: rest)).after =
          later.map laterDeed.onEach ++ laterDeed.onEach own :: rest.map laterDeed.onEach :=
        List.map_append
      rw [after] at nextHeard
      refine ih laterDeed.onEach read nextStandard ?_ ?_ ?_ nextHeard further
      · exact List.forall_mem_map.mpr fun other inside =>
          (laterDeed.becomes_onEach other).asleep (asleep other (behind other inside))
      · refine List.forall_mem_map.mpr fun other inside => ?_
        rw [Instance.meddles_of_call (calls other) (calls own)]
        exact apart other (behind other inside)
      · refine List.forall_mem_map.mpr fun other inside => ?_
        rw [Instance.priority_of_call (calls other), Instance.priority_of_call (calls own)]
        exact level other (behind other inside)

end Vetting
