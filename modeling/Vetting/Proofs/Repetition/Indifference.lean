import Vetting.Proofs.Repetition.Again
import Vetting.Proofs.Repetition.Moving

/-!
# Where it makes no difference that a rule is moved

A call that comes again moves its rule behind the others of the tier, if it moves it at all.  That makes no
difference to a value if nothing is moved, if nothing is passed over that takes part, or if none of the rules
in question has more to say of the value than whether it passes (`Rule.Indifferent`).
-/

namespace Vetting

variable {σ : Type} {setting : Setting} {path : Path} {value accepted : Value}

/-- It makes no difference to the value whether the rule is asked before its followers or behind them. -/
inductive Rule.Indifferent (setting : Setting) (value : Value) (single : Bool) (own : Blueprint)
    (followers : List Blueprint) : Prop
  /-- The rule does not stay where it is called, so that nothing is moved. -/
  | gone (gone : own.stays = false)
  /-- No follower takes part in validations. -/
  | silent (silent : ∀ other ∈ followers, other.isSilent = true)
  /-- The rule is about absent values, and the value is there. -/
  | optional (optional : own = .optional false) (present : value.isPresent = true)
  /-- All of them only test the value, and offer no other one that would be taken. -/
  | tests (tests : ∀ other ∈ own :: followers,
      other.tests = true ∧ (setting.convert = true → other.offers single = false))
  /-- Conversion is off, and the value is there. -/
  | unconverted (off : setting.convert = false) (present : value.isPresent = true)

namespace Instance

/-- Calls of the last tier have no stand-in. -/
theorem standIn?_of_priority {entry : Instance σ} (standard : entry.IsStandard) (last : entry.rule.priority = 100) :
    entry.rule.standIn? = none := by
  have declared := standard.ne_declared
  obtain ⟨rule, arguments⟩ := entry
  cases rule with
  | standIn old operating => cases last
  | declared declaration => exact absurd rfl (declared declaration)
  | _ => rfl

/-- The order of rules that have no stand-in does not settle what stands in for a value. -/
theorem settledBy_move {front back : List (Instance σ)} {rule : Instance σ}
    (nothing : ∀ entry ∈ rule :: back, entry.rule.standIn? = none) :
    settledBy (front ++ rule :: back) value = settledBy (front ++ back ++ [rule]) value := by
  unfold settledBy
  cases front with
  | cons first rest => rfl
  | nil =>
      cases back with
      | nil => rfl
      | cons next rest =>
          simp only [List.nil_append, List.head?_cons, Option.bind_some, List.cons_append,
            nothing rule List.mem_cons_self, nothing next (List.mem_cons_of_mem _ List.mem_cons_self)]

variable {own : Instance σ} {calls : List (Blueprint × Arguments σ)} {kept again : List (Instance σ)}

/-- A rule of the last tier can be moved if it and those that it is moved behind are steady about all values that
come up to them. -/
theorem Moved.admits (moved : Moved own calls kept again) (standard : ∀ entry ∈ kept, entry.IsStandard)
    (last : ∀ known ∈ own.call :: calls, known.1.priority = 100) (translate : σ → Checked)
    (holds : Value → Prop) (start : holds value)
    (leads : ∀ entry ∈ kept, ∀ value about verdict, holds value →
      ((entry.rule.map translate).attempt setting path value).answer = (about, .ok verdict) →
        verdict.LeadsTo holds about about)
    (steady : ∀ entry ∈ kept, entry.call ∈ own.call :: calls → ∀ value, holds value →
      (entry.rule.map translate).Steady setting path value) :
    Admits setting translate path value accepted kept ↔ Admits setting translate path value accepted again := by
  obtain ⟨front, rule, back, rfl, call, known, same⟩ := moved
  have passedOver : ∀ entry ∈ rule :: back, entry.call ∈ own.call :: calls := by
    intro entry member
    rcases List.mem_cons.mp member with rfl | inside
    · rw [call]
      exact List.mem_cons_self
    · exact List.mem_cons_of_mem _ (known entry inside)
  have reordered : ∀ entry ∈ front ++ back ++ [rule], entry.IsStandard := by
    intro entry member
    simp only [List.mem_append, List.mem_cons, List.not_mem_nil, or_false] at member standard
    refine standard entry ?_
    tauto
  have nothing : ∀ entry ∈ rule :: back, entry.rule.standIn? = none := by
    intro entry member
    refine standIn?_of_priority (standard entry (List.mem_append_right _ member)) ?_
    rw [← Rule.priority_unwired]
    exact last _ (passedOver entry member)
  rw [← admits_of_resembles same reordered translate, admits_iff standard, admits_iff reordered,
    settledBy_move nothing]
  cases settledBy (front ++ back ++ [rule]) value with
  | some standIn => exact Iff.rfl
  | none =>
      simp only [List.map_append, List.map_cons, List.map_nil, List.append_assoc]
      refine passes_append start ?_ fun next good => passes_move ?_
      · intro asked member
        obtain ⟨entry, inside, rfl⟩ := List.mem_map.mp member
        exact leads entry (List.mem_append_left _ inside)
      · rw [← List.map_cons (f := fun entry : Instance σ => entry.rule.map translate)]
        intro asked member
        obtain ⟨entry, inside, rfl⟩ := List.mem_map.mp member
        exact steady entry (List.mem_append_right _ inside) (passedOver entry inside) next good

section Moving

variable {followers : List (Instance σ)} {single : Bool} {translate : σ → Checked}

/-- A rule that tests is not `optional`. -/
theorem not_isOptional_of_tests (tests : own.rule.tests = true) : ¬ own.IsOptional := by
  intro optional
  rw [← Rule.tests_unwired, optional] at tests
  cases tests

theorem loudCalls_eq_nil (silent : ∀ entry ∈ followers, entry.rule.isSilent = true) : loudCalls followers = [] := by
  have none : ∀ entry ∈ followers, ¬ (!entry.rule.isSilent) = true := by
    intro entry member
    rw [silent entry member]
    exact Bool.false_ne_true
  rw [loudCalls, List.filter_eq_nil_iff.mpr none, List.map_nil]

/-- The rules that take part are of the sorts of the followers. -/
theorem unwired_mem_of_call_mem {entry : Instance σ} (member : entry.call ∈ own.call :: loudCalls followers) :
    entry.rule.unwired ∈ own.rule.unwired :: followers.map fun entry => entry.rule.unwired := by
  rcases List.mem_cons.mp member with same | inside
  · exact List.mem_cons.mpr (.inl (Prod.mk.inj same).1)
  · obtain ⟨other, loud, same⟩ := List.mem_map.mp inside
    refine List.mem_cons_of_mem _ (List.mem_map.mpr ⟨other, (List.mem_filter.mp loud).1, ?_⟩)
    exact (Prod.mk.inj same).1

/-- A rule that stays and is not `optional` is called in the last tier, and so are its followers. -/
theorem priority_of_stays (stays : own.rule.stays = true) (other : ¬ own.IsOptional)
    (level : ∀ entry ∈ followers, entry.rule.priority = own.rule.priority) :
    ∀ known ∈ own.call :: loudCalls followers, known.1.priority = 100 := by
  have ownLevel : own.rule.priority = 100 := by
    by_contra early
    exact other (isOptional_of_priority stays early)
  intro known member
  rcases List.mem_cons.mp member with rfl | inside
  · rw [call, Rule.priority_unwired, ownLevel]
  · obtain ⟨entry, loud, rfl⟩ := List.mem_map.mp inside
    rw [call, Rule.priority_unwired, level entry (List.mem_filter.mp loud).1, ownLevel]

/-- A rule can be moved behind others if all of them only test the value, and offer no other one. -/
theorem Moved.admits_of_tests (moved : Moved own (loudCalls followers) kept again)
    (standard : ∀ entry ∈ kept, entry.IsStandard)
    (last : ∀ known ∈ own.call :: loudCalls followers, known.1.priority = 100)
    (modest : single = false → ∀ entry ∈ kept, entry.Modest)
    (tests : ∀ other ∈ own.rule.unwired :: followers.map fun entry => entry.rule.unwired,
      other.tests = true ∧ (setting.convert = true → other.offers single = false)) :
    Admits setting translate path value accepted kept ↔ Admits setting translate path value accepted again := by
  refine moved.admits standard last translate (fun _ => True) trivial ?_ ?_
  · intro entry _ value about verdict _ _
    cases verdict <;> trivial
  · intro entry member called value _
    obtain ⟨only, nothing⟩ := tests entry.rule.unwired (unwired_mem_of_call_mem called)
    rw [Rule.tests_unwired] at only
    refine Rule.steady_of_tests only translate fun on value => ?_
    have offers := nothing on
    rw [Rule.offers_unwired] at offers
    exact Rule.convert?_of_not_offers offers (standard entry member).ne_declared
      (fun whole => (modest whole entry member).modest) value

/-- Without conversion a rule can be moved behind others where the value is there. -/
theorem Moved.admits_of_not_convert (moved : Moved own calls kept again)
    (standard : ∀ entry ∈ kept, entry.IsStandard) (last : ∀ known ∈ own.call :: calls, known.1.priority = 100)
    (off : setting.convert = false) (present : value.isPresent = true)
    (preserves : ∀ part, (translate part).Preserves) :
    Admits setting translate path value accepted kept ↔ Admits setting translate path value accepted again := by
  refine moved.admits standard last translate (fun next => next = value) rfl ?_ ?_
  · intro entry member next about verdict same said
    obtain ⟨rfl, leaves⟩ := Rule.leaves_of_attempt off (same ▸ present) preserves (standard entry member) said
    cases verdict with
    | pass => exact same
    | replace last => exact leaves.trans same
    | abort => rfl
  · intro entry member called next same
    have level := last _ called
    rw [call, Rule.priority_unwired] at level
    exact Rule.steady_of_not_convert off (same ▸ present) preserves (standard entry member) level

variable [Identified σ]

/-- A call of `optional` that comes again makes no difference to values that are there. -/
theorem Repeats.admits_of_present (repeats : own.Repeats calls kept again) (optional : own.IsOptional)
    (present : value.isPresent = true) (standard : ∀ entry ∈ kept, entry.IsStandard)
    (alsoStandard : ∀ entry ∈ again, entry.IsStandard) (rising : kept.Pairwise wiring.Precedes)
    (alsoRising : again.Pairwise wiring.Precedes) :
    Admits setting translate path value accepted kept ↔ Admits setting translate path value accepted again := by
  have settled : ∀ entries : List (Instance σ), settledBy entries value = none := by
    intro entries
    rw [settledBy, if_pos present]
  rw [admits_iff standard, admits_iff alsoStandard, settled, settled]
  exact (repeats.loose optional).passes present standard rising alsoRising translate

/-- **Indifferent values.**  A call that comes again lets the same values pass as before, in the same form, where
it makes no difference that its rule is moved. -/
theorem Repeats.admits (repeats : own.Repeats (loudCalls followers) kept again)
    (standard : ∀ entry ∈ kept, entry.IsStandard) (alsoStandard : ∀ entry ∈ again, entry.IsStandard)
    (rising : kept.Pairwise wiring.Precedes) (alsoRising : again.Pairwise wiring.Precedes)
    (level : ∀ entry ∈ followers, entry.rule.priority = own.rule.priority)
    (modest : single = false → ∀ entry ∈ kept, entry.Modest)
    (preserves : setting.convert = false → ∀ part, (translate part).Preserves)
    (indifferent : Rule.Indifferent setting value single own.rule.unwired
      (followers.map fun entry => entry.rule.unwired)) :
    Admits setting translate path value accepted kept ↔ Admits setting translate path value accepted again := by
  have alike (nothing : own.rule.stays = false ∨ loudCalls followers = []) :
      Admits setting translate path value accepted kept ↔ Admits setting translate path value accepted again :=
    admits_of_resembles ((repeats.alike nothing).forall₂ fun never => never.elim) standard translate
  cases stays : own.rule.stays with
  | false => exact alike (.inl stays)
  | true =>
      cases indifferent with
      | gone gone =>
          rw [Rule.stays_unwired, stays] at gone
          cases gone
      | silent silent =>
          refine alike (.inr (loudCalls_eq_nil fun entry member => ?_))
          rw [← Rule.isSilent_unwired]
          exact silent _ (List.mem_map_of_mem member)
      | optional optional present =>
          exact repeats.admits_of_present optional present standard alsoStandard rising alsoRising
      | tests tests =>
          have ownTests := (tests own.rule.unwired List.mem_cons_self).1
          rw [Rule.tests_unwired] at ownTests
          have other := not_isOptional_of_tests ownTests
          exact (repeats.moved stays other).admits_of_tests standard (priority_of_stays stays other level) modest tests
      | unconverted off present =>
          by_cases optional : own.IsOptional
          · exact repeats.admits_of_present optional present standard alsoStandard rising alsoRising
          · exact (repeats.moved stays optional).admits_of_not_convert standard
              (priority_of_stays stays optional level) off present (preserves off)

end Moving

end Instance

end Vetting
