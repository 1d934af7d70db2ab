import Vetting.Proofs.Members
import Vetting.Proofs.Rule.Deeds
import Vetting.Proofs.Run.Completion

/-!
# Rules that come to the same

Two rules resemble each other if they differ at most in how often they name a value, a relation or a pattern,
or an alternative that cannot win any more.  Changes respect that (`Change.exists_of_resembles`).  A change is
idle on a rule if what it makes of it resembles it, and it stays idle under further changes, except for those
that disturb it (`Change.Idle.kept`).
-/

namespace Vetting

variable {σ : Type}

/-- The two sets list the same values under the same relations. -/
structure ListedValues.Agree (left right : ListedValues) : Prop where
  values : ∀ value, value ∈ left.values ↔ value ∈ right.values
  relations : ∀ relation, relation ∈ left.relations ↔ relation ∈ right.relations

namespace ListedValues

variable {left right third : ListedValues}

theorem Agree.refl (set : ListedValues) : set.Agree set :=
  ⟨fun _ => Iff.rfl, fun _ => Iff.rfl⟩

theorem Agree.symm (agree : left.Agree right) : right.Agree left :=
  ⟨fun value => (agree.values value).symm, fun relation => (agree.relations relation).symm⟩

theorem Agree.trans (first : left.Agree right) (second : right.Agree third) : left.Agree third :=
  ⟨fun value => (first.values value).trans (second.values value),
    fun relation => (first.relations relation).trans (second.relations relation)⟩

theorem Agree.relates_eq (agree : left.Agree right) : left.relates = right.relates := by
  funext listed candidate
  rw [Bool.eq_iff_iff]
  simp only [relates, List.any_eq_true, agree.relations]

/-- Sets that agree list the same. -/
theorem Agree.contains_eq (agree : left.Agree right) (candidate : Value) :
    left.contains candidate = right.contains candidate := by
  rw [Bool.eq_iff_iff]
  simp only [contains, List.any_eq_true, agree.values, agree.relates_eq]

/-- The same values may be added to sets that agree. -/
theorem Agree.add (agree : left.Agree right) (values : List Value) :
    (left.add values).Agree (right.add values) :=
  ⟨fun value => by simp only [ListedValues.add, List.mem_append, agree.values], agree.relations⟩

/-- The same values may be struck from sets that agree. -/
theorem Agree.remove (agree : left.Agree right) (values : List Value) :
    (left.remove values).Agree (right.remove values) :=
  ⟨fun value => by simp only [ListedValues.remove, List.mem_filter, agree.values, agree.relates_eq],
    agree.relations⟩

theorem Agree.addRelation (agree : left.Agree right) (relation : Relation) :
    (left.addRelation relation).Agree (right.addRelation relation) :=
  ⟨agree.values, fun other => by simp only [ListedValues.addRelation, List.mem_append, agree.relations]⟩

/-- Listing values that are listed already changes nothing. -/
theorem agree_add {set : ListedValues} {values : List Value} :
    set.Agree (set.add values) ↔ ∀ value ∈ values, value ∈ set.values := by
  constructor
  · intro agree value member
    exact (agree.values value).mpr (List.mem_append_right _ member)
  · intro known
    refine ⟨fun value => ⟨fun listed => List.mem_append_left _ listed, fun listed => ?_⟩, fun _ => Iff.rfl⟩
    exact (List.mem_append.mp listed).elim id (known value)

/-- What is left is what was there and is not related to a value that is struck. -/
theorem mem_remove {set : ListedValues} {values : List Value} {listed : Value} :
    listed ∈ (set.remove values).values ↔
      listed ∈ set.values ∧ ∀ candidate ∈ values, set.relates listed candidate = false := by
  simp only [remove, List.mem_filter, Bool.not_eq_true', List.any_eq_false, Bool.not_eq_true]

/-- Striking changes nothing if no listed value is to be struck. -/
theorem agree_remove {set : ListedValues} {values : List Value} :
    set.Agree (set.remove values) ↔
      ∀ listed ∈ set.values, ∀ candidate ∈ values, set.relates listed candidate = false := by
  constructor
  · intro agree listed member
    exact (mem_remove.mp ((agree.values listed).mp member)).2
  · intro unrelated
    refine ⟨fun listed => ⟨fun member => mem_remove.mpr ⟨member, unrelated listed member⟩,
      fun member => (mem_remove.mp member).1⟩, fun _ => Iff.rfl⟩

/-- A set agrees with what a further relation makes of it exactly if it has that relation. -/
theorem agree_addRelation {set : ListedValues} {relation : Relation} :
    set.Agree (set.addRelation relation) ↔ relation ∈ set.relations := by
  constructor
  · intro agree
    exact (agree.relations relation).mpr (List.mem_append_right _ (List.mem_singleton.mpr rfl))
  · intro known
    refine ⟨fun _ => Iff.rfl, fun other => ⟨fun member => List.mem_append_left _ member, fun member => ?_⟩⟩
    rcases List.mem_append.mp member with old | new
    · exact old
    · rwa [List.mem_singleton.mp new]

end ListedValues

/-! ## Resemblance -/

/-- The rules differ at most in how often they name something, or in alternatives that cannot win. -/
inductive Rule.Resembles : Rule σ → Rule σ → Prop
  | refl (rule : Rule σ) : Resembles rule rule
  | listing (kind : Listing) (operating : Bool) {left right : ListedValues} (agree : left.Agree right) :
      Resembles (.listing kind left operating) (.listing kind right operating)
  | keys (entries : List (String × σ)) (unknown operating : Bool) {left right : List Regex}
      (agree : ∀ pattern, pattern ∈ left ↔ pattern ∈ right) :
      Resembles (.keys ⟨entries, left, unknown, operating⟩) (.keys ⟨entries, right, unknown, operating⟩)
  | alternatives {left right : List σ} (alike : Run.RaceAlike left right) :
      Resembles (.alternatives left) (.alternatives right)

namespace Rule.Resembles

variable {left right third : Rule σ}

theorem symm (same : left.Resembles right) : right.Resembles left := by
  cases same with
  | refl => exact .refl _
  | listing kind operating agree => exact .listing kind operating agree.symm
  | keys entries unknown operating agree => exact .keys entries unknown operating fun p => (agree p).symm
  | alternatives alike => exact .alternatives alike.symm

theorem trans (first : left.Resembles right) (second : right.Resembles third) : left.Resembles third := by
  cases first with
  | refl => exact second
  | listing kind operating agree =>
      cases second with
      | refl => exact .listing kind operating agree
      | listing _ _ further => exact .listing kind operating (agree.trans further)
  | keys entries unknown operating agree =>
      cases second with
      | refl => exact .keys entries unknown operating agree
      | keys _ _ _ further => exact .keys entries unknown operating fun p => (agree p).trans (further p)
  | alternatives alike =>
      cases second with
      | refl => exact .alternatives alike
      | alternatives further => exact .alternatives (alike.trans further)

/-! Two rules of one sort that resemble each other. -/

theorem agree {kind other : Listing} {left right : ListedValues} {operating working : Bool}
    (same : (Rule.listing kind left operating : Rule σ).Resembles (Rule.listing other right working)) :
    left.Agree right := by
  cases same with
  | refl => exact .refl _
  | listing _ _ agree => exact agree

/-- Key rules resemble each other only if they differ in their patterns, and there in the order and number only. -/
theorem keys_eq {left right : KeyRule σ} (same : (Rule.keys left).Resembles (.keys right)) :
    left.keys = right.keys ∧ left.allowsUnknown = right.allowsUnknown ∧ left.operating = right.operating ∧
      ∀ pattern, pattern ∈ left.patterns ↔ pattern ∈ right.patterns := by
  cases same with
  | refl => exact ⟨rfl, rfl, rfl, fun _ => Iff.rfl⟩
  | keys _ _ _ agree => exact ⟨rfl, rfl, rfl, agree⟩

theorem ofKeys {left right : KeyRule σ} (entries : left.keys = right.keys)
    (unknown : left.allowsUnknown = right.allowsUnknown) (operating : left.operating = right.operating)
    (patterns : ∀ pattern, pattern ∈ left.patterns ↔ pattern ∈ right.patterns) :
    (Rule.keys left).Resembles (.keys right) := by
  obtain ⟨entries, first, unknown, operating⟩ := left
  obtain ⟨others, second, _, _⟩ := right
  subst entries unknown operating
  exact .keys _ _ _ patterns

theorem raceAlike {left right : List σ}
    (same : (Rule.alternatives left).Resembles (.alternatives right)) : Run.RaceAlike left right := by
  cases same with
  | refl => exact .refl _
  | alternatives alike => exact alike

/-- Rules that resemble each other come from the same call. -/
theorem unwired_eq (same : left.Resembles right) : left.unwired = right.unwired := by
  cases same <;> rfl

theorem standIn?_eq (same : left.Resembles right) : left.standIn? = right.standIn? := by
  cases same <;> rfl

end Rule.Resembles

namespace Change

variable {rule other changed : Rule σ}

/-- Rules that resemble each other can be changed alike, and then still do. -/
theorem exists_of_resembles (change : Change σ) (same : rule.Resembles other)
    (made : change.amendment rule = some changed) :
    ∃ alike, change.amendment other = some alike ∧ changed.Resembles alike := by
  cases same with
  | refl => exact ⟨changed, made, .refl _⟩
  | listing kind operating agree =>
      cases change with
      | add other values =>
          simp only [amendment, Amendment.listing] at made ⊢
          split at made
          next own =>
            obtain rfl := Option.some.inj made
            exact ⟨_, if_pos own, .listing kind operating (agree.add values)⟩
          next => cases made
      | strike other values =>
          simp only [amendment, Amendment.listing] at made ⊢
          split at made
          next own =>
            obtain rfl := Option.some.inj made
            exact ⟨_, if_pos own, .listing kind operating (agree.remove values)⟩
          next => cases made
      | relate relation =>
          obtain rfl := Option.some.inj made
          exact ⟨_, rfl, .listing kind operating (agree.addRelation relation)⟩
      | _ => cases made
  | keys entries unknown operating agree =>
      cases change with
      | keys further patterns =>
          obtain rfl := Option.some.inj made
          refine ⟨_, rfl, .keys _ unknown operating fun pattern => ?_⟩
          simp only [List.mem_append, agree]
      | keysUnknown allow =>
          obtain rfl := Option.some.inj made
          exact ⟨_, rfl, .keys entries allow operating agree⟩
      | _ => cases made
  | alternatives alike =>
      cases change with
      | alternatives further =>
          obtain rfl := Option.some.inj made
          exact ⟨_, rfl, .alternatives (alike.append further)⟩
      | _ => cases made

/-- What the change makes of the rule resembles it. -/
def Idle (change : Change σ) (rule : Rule σ) : Prop :=
  ∀ changed, change.amendment rule = some changed → rule.Resembles changed

/-- A change is idle on rules that resemble one on which it is idle. -/
theorem Idle.of_resembles {change : Change σ} (idle : change.Idle rule) (same : rule.Resembles other) :
    change.Idle other := by
  intro changed made
  obtain ⟨alike, madeAlike, resembles⟩ := change.exists_of_resembles same.symm made
  exact (same.symm.trans (idle alike madeAlike)).trans resembles.symm

section Listings

variable {kind other : Listing} {set : ListedValues} {operating : Bool} {values : List Value}

/-- Adding values is idle on a list that has all of them. -/
theorem idle_add : (add kind values : Change σ).Idle (.listing other set operating) ↔
    (other = kind → ∀ value ∈ values, value ∈ set.values) := by
  constructor
  · intro idle own
    exact ListedValues.agree_add.mp (idle _ (if_pos own)).agree
  · intro known changed made
    simp only [amendment, Amendment.listing] at made
    split at made
    next own =>
      obtain rfl := Option.some.inj made
      exact .listing other operating (ListedValues.agree_add.mpr (known own))
    next => cases made

/-- Striking values is idle on a list that has none related to them. -/
theorem idle_strike : (strike kind values : Change σ).Idle (.listing other set operating) ↔
    (other = kind → ∀ listed ∈ set.values, ∀ candidate ∈ values, set.relates listed candidate = false) := by
  constructor
  · intro idle own
    exact ListedValues.agree_remove.mp (idle _ (if_pos own)).agree
  · intro unrelated changed made
    simp only [amendment, Amendment.listing] at made
    split at made
    next own =>
      obtain rfl := Option.some.inj made
      exact .listing other operating (ListedValues.agree_remove.mpr (unrelated own))
    next => cases made

/-- Adding a relation is idle on a list that has it. -/
theorem idle_relate {relation : Relation} : (relate relation : Change σ).Idle (.listing other set operating) ↔
    relation ∈ set.relations := by
  constructor
  · intro idle
    exact ListedValues.agree_addRelation.mp (idle _ rfl).agree
  · intro known changed made
    obtain rfl := Option.some.inj made
    exact .listing other operating (ListedValues.agree_addRelation.mpr known)

end Listings

/-- What a change makes of a list of values is a list of that kind. -/
theorem exists_listing {change : Change σ} {kind : Listing} {set : ListedValues} {operating : Bool}
    (made : change.amendment (.listing kind set operating) = some changed) :
    ∃ next, changed = .listing kind next operating ∧
      ((∃ values, change = .add kind values ∧ next = set.add values) ∨
        (∃ values, change = .strike kind values ∧ next = set.remove values) ∨
        ∃ relation, change = .relate relation ∧ next = set.addRelation relation) := by
  cases change with
  | add known values =>
      simp only [amendment, Amendment.listing] at made
      split at made
      next own => exact ⟨_, (Option.some.inj made).symm, .inl ⟨values, own ▸ rfl, rfl⟩⟩
      next => cases made
  | strike known values =>
      simp only [amendment, Amendment.listing] at made
      split at made
      next own => exact ⟨_, (Option.some.inj made).symm, .inr (.inl ⟨values, own ▸ rfl, rfl⟩)⟩
      next => cases made
  | relate relation => exact ⟨_, (Option.some.inj made).symm, .inr (.inr ⟨relation, rfl, rfl⟩)⟩
  | _ => cases made

/-- A change is idle on what it has made itself. -/
theorem idle_of_made {change : Change σ} (standard : ∀ declaration, rule ≠ .declared declaration)
    (made : change.amendment rule = some changed) : change.Idle changed := by
  cases rule with
  | listing kind set operating =>
      obtain ⟨next, rfl, ⟨values, rfl, rfl⟩ | ⟨values, rfl, rfl⟩ | ⟨relation, rfl, rfl⟩⟩ := exists_listing made
      · exact idle_add.mpr fun _ value member => List.mem_append_right _ member
      · exact idle_strike.mpr fun _ listed member => (ListedValues.mem_remove.mp member).2
      · exact idle_relate.mpr (List.mem_append_right _ (List.mem_singleton.mpr rfl))
  | alternatives schemas =>
      intro further again
      cases change with
      | alternatives others =>
          obtain rfl := Option.some.inj made
          obtain rfl := Option.some.inj again
          exact .alternatives (.again schemas others)
      | _ => cases made
  | keys rule =>
      intro further again
      cases change with
      | keys entries patterns =>
          obtain rfl := Option.some.inj made
          obtain rfl := Option.some.inj again
          refine .ofKeys (Members.putAll_putAll _ _).symm rfl rfl fun pattern => ?_
          simp only [List.mem_append, or_assoc, or_self]
      | keysUnknown allow =>
          obtain rfl := Option.some.inj made
          obtain rfl := Option.some.inj again
          exact .refl _
      | _ => cases made
  | optional enabled | standIn old operating | pattern rule | array one holes =>
      intro further again
      cases change <;> cases made <;> cases again <;> exact .refl _
  | declared declaration => exact absurd rfl (standard declaration)
  | _ => cases change <;> cases made

/-- The first change may undo what the second one has made, or what it has found nothing to change about. -/
def Disturbs : Change σ → Change σ → Prop
  | add kind _, strike other _ | strike kind _, add other _ => kind = other
  | relate _, strike _ _ => True
  | standIn value, standIn other => value ≠ other
  | keys entries _, keys others _ => entries ≠ [] ∧ others ≠ [] ∧ entries ≠ others
  | keysUnknown allow, keysUnknown other | patternUnknown allow, patternUnknown other
  | sparse allow, sparse other | single allow, single other => allow ≠ other
  | _, _ => False

/-- A change to a list of values stays idle, unless what it lists is struck or what it strikes is listed. -/
theorem Idle.kept_listing {change other : Change σ} {kind : Listing} {set : ListedValues} {operating : Bool}
    (idle : change.Idle (.listing kind set operating)) (calm : ¬ other.Disturbs change)
    (made : other.amendment (.listing kind set operating) = some changed) : change.Idle changed := by
  obtain ⟨next, rfl, ⟨values, rfl, rfl⟩ | ⟨values, rfl, rfl⟩ | ⟨relation, rfl, rfl⟩⟩ := exists_listing made
  · cases change with
    | add known own =>
        refine idle_add.mpr fun same value member => ?_
        exact List.mem_append_left _ (idle_add.mp idle same value member)
    | strike known own => exact idle_strike.mpr fun same => absurd same calm
    | relate relation =>
        have known := idle_relate.mp idle
        exact idle_relate.mpr known
    | _ => exact fun further again => nomatch again
  · cases change with
    | add known own => exact idle_add.mpr fun same => absurd same calm
    | strike known own =>
        refine idle_strike.mpr fun same listed member => ?_
        exact idle_strike.mp idle same listed (ListedValues.mem_remove.mp member).1
    | relate relation =>
        have known := idle_relate.mp idle
        exact idle_relate.mpr known
    | _ => exact fun further again => nomatch again
  · cases change with
    | add known own =>
        have known := idle_add.mp idle
        exact idle_add.mpr known
    | strike known own => exact absurd trivial calm
    | relate relation => exact idle_relate.mpr (List.mem_append_left _ (idle_relate.mp idle))
    | _ => exact fun further again => nomatch again

/-- Entries that a key map has already are put into it in vain, also after others, unless these differ. -/
theorem putAll_of_calm {known own entries : Members σ} {patterns others : List Regex}
    (calm : ¬ (keys entries others).Disturbs (keys own patterns)) (put : known = Members.putAll known own) :
    Members.putAll known entries = Members.putAll (Members.putAll known entries) own := by
  simp only [Disturbs, ne_eq, not_and, not_not] at calm
  by_cases none : entries = []
  · subst none
    exact put
  · by_cases nothing : own = []
    · subst nothing
      rfl
    · obtain rfl := calm none nothing
      exact (Members.putAll_putAll _ _).symm

/-- A change to a key map stays idle, unless other entries or another permission are put in place of its own. -/
theorem Idle.kept_keys {change other : Change σ} {rule : KeyRule σ} (idle : change.Idle (.keys rule))
    (calm : ¬ other.Disturbs change) (made : other.amendment (.keys rule) = some changed) :
    change.Idle changed := by
  intro further again
  cases other with
  | keys entries patterns =>
      obtain rfl := Option.some.inj made
      cases change with
      | keys own known =>
          obtain rfl := Option.some.inj again
          obtain ⟨put, -, -, named⟩ := (idle _ rfl).keys_eq
          refine .ofKeys (putAll_of_calm calm put) rfl rfl fun pattern => ?_
          have known := named pattern
          simp only [List.mem_append] at known ⊢
          tauto
      | keysUnknown allow =>
          obtain rfl := Option.some.inj again
          obtain ⟨-, same, -⟩ := (idle _ rfl).keys_eq
          exact .ofKeys rfl same rfl fun _ => Iff.rfl
      | _ => cases again
  | keysUnknown allow =>
      obtain rfl := Option.some.inj made
      cases change with
      | keys own known =>
          obtain rfl := Option.some.inj again
          obtain ⟨put, -, -, named⟩ := (idle _ rfl).keys_eq
          exact .ofKeys put rfl rfl named
      | keysUnknown own =>
          obtain rfl := not_ne_iff.mp calm
          obtain rfl := Option.some.inj again
          exact .refl _
      | _ => cases again
  | _ => cases made

/-- An idle change stays idle under further changes, as long as none of them disturbs it. -/
theorem Idle.kept {change other : Change σ} (standard : ∀ declaration, rule ≠ .declared declaration)
    (idle : change.Idle rule) (calm : ¬ other.Disturbs change)
    (made : other.amendment rule = some changed) : change.Idle changed := by
  cases rule with
  | listing kind set operating => exact idle.kept_listing calm made
  | keys rule => exact idle.kept_keys calm made
  | alternatives schemas =>
      intro further again
      cases other with
      | alternatives others =>
          obtain rfl := Option.some.inj made
          cases change with
          | alternatives own =>
              obtain rfl := Option.some.inj again
              exact .alternatives ((idle _ rfl).raceAlike.absorb others)
          | _ => cases again
      | _ => cases made
  | optional enabled =>
      intro further again
      cases other <;> cases made
      cases change <;> cases again
      exact .refl _
  | standIn old operating | pattern rule =>
      intro further again
      cases other <;> cases made
      cases change <;> cases again
      obtain rfl := not_ne_iff.mp calm
      exact .refl _
  | array one holes =>
      intro further again
      cases other <;> cases made <;> cases change <;> cases again
      · obtain rfl := not_ne_iff.mp calm
        exact .refl _
      · cases idle _ rfl
        exact .refl _
      · cases idle _ rfl
        exact .refl _
      · obtain rfl := not_ne_iff.mp calm
        exact .refl _
  | declared declaration => exact absurd rfl (standard declaration)
  | _ => cases other <;> cases made

end Change

end Vetting
