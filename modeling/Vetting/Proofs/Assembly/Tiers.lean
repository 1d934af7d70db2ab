import Vetting.Proofs.Assembly.Order
import Vetting.Proofs.Schema.Standard

/-!
# Tiers of an assembly

An assembly looks at the order of its entries only after it has put them in the order of their priorities.  So what
comes of it depends on the order within each tier and on nothing else (`Wiring.assemble_congr`).  Calls of a schema that
bring rules of different tiers can be exchanged, as a default, `optional`, or a list of valid or allowed values with any
call of a type or of a check (`Schema.rules_of_rearranges`).
-/

namespace Vetting

variable {σ : Type}

namespace Wiring

variable {ι ε : Type} {wiring : Wiring ι ε} {entries others : List ι}

/-- Entries with the same tiers are put into the same order. -/
theorem ordered_congr (ties : ∀ priority, wiring.tier priority entries = wiring.tier priority others) :
    wiring.ordered entries = wiring.ordered others := by
  refine eq_of_tiers (wiring.ordered_rising entries) (wiring.ordered_rising others) fun priority => ?_
  rw [tier_ordered, tier_ordered, ties priority]

/-- Entries with the same tiers assemble to the same rules. -/
theorem assemble_congr (ties : ∀ priority, wiring.tier priority entries = wiring.tier priority others) :
    wiring.assemble entries = wiring.assemble others := by
  have order := ordered_congr ties
  have equallyLong : entries.length = others.length := by
    rw [← wiring.length_ordered entries, order, wiring.length_ordered]
  rw [assemble, assemble, order, equallyLong]

/-- In each tier one of two neighbours of different tiers is missing. -/
theorem tier_swap {first second : ι} (apart : wiring.priority first ≠ wiring.priority second) (front back : List ι)
    (priority : Int) :
    wiring.tier priority (front ++ first :: second :: back) = wiring.tier priority (front ++ second :: first :: back) := by
  rw [tier_append, tier_append]
  by_cases own : wiring.priority first = priority
  · have other : wiring.priority second ≠ priority := fun same => apart (own.trans same.symm)
    subst own
    rw [tier_cons_self, tier_cons_of_ne _ _ other, tier_cons_of_ne _ _ other, tier_cons_self]
  · by_cases other : wiring.priority second = priority
    · subst other
      rw [tier_cons_of_ne _ _ own, tier_cons_self, tier_cons_self, tier_cons_of_ne _ _ own]
    · rw [tier_cons_of_ne _ _ own, tier_cons_of_ne _ _ other, tier_cons_of_ne _ _ other, tier_cons_of_ne _ _ own]

end Wiring

/-! ## Rearranged calls -/

/-- The rule is wired before those of types and checks. -/
def Rule.goesAhead : Rule σ → Bool
  | standIn _ _ | optional _ | listing .valid _ _ | listing .allow _ _ => true
  | _ => false

/-- A rule that goes ahead has no priority above zero. -/
theorem Rule.priority_of_goesAhead {rule : Rule σ} (ahead : rule.goesAhead = true) : rule.priority ≤ 0 := by
  cases rule with
  | standIn value operating => exact Int.neg_nonpos_of_nonneg (Int.le.intro 1 rfl)
  | optional enabled => exact le_refl 0
  | listing kind set operating =>
      cases kind with
      | valid | allow => exact le_refl 0
      | invalid => cases ahead
  | _ => cases ahead

/-- All other standard rules are in the last tier. -/
theorem Rule.priority_of_not_goesAhead {rule : Rule σ} (standard : ∀ declaration, rule ≠ .declared declaration)
    (behind : rule.goesAhead = false) : rule.priority = 100 := by
  cases rule with
  | declared declaration => exact absurd rfl (standard declaration)
  | standIn _ _ | optional _ => cases behind
  | listing kind set operating =>
      cases kind with
      | valid | allow => cases behind
      | invalid => rfl
  | _ => rfl

namespace Ruleset

/-- No tier has rules of both calls. -/
def Apart (ruleset : Ruleset) (first second : Call σ) : Prop :=
  ∀ rule other, ruleset.blueprint? first.node = some rule → ruleset.blueprint? second.node = some other →
    rule.priority ≠ other.priority

/-- The calls become the others by exchanges of neighbours that are of different tiers. -/
inductive Rearranges (ruleset : Ruleset) : List (Call σ) → List (Call σ) → Prop
  | refl (calls : List (Call σ)) : Rearranges ruleset calls calls
  | exchange {first second : Call σ} {calls : List (Call σ)} (front back : List (Call σ))
      (apart : ruleset.Apart first second)
      (further : Rearranges ruleset (front ++ second :: first :: back) calls) :
      Rearranges ruleset (front ++ first :: second :: back) calls

variable {ruleset : Ruleset} {calls others : List (Call σ)} {first second : Call σ}

theorem Apart.symm (apart : ruleset.Apart first second) : ruleset.Apart second first :=
  fun rule other bound alsoBound => (apart other rule alsoBound bound).symm

/-- A rule that goes ahead is apart from those that do not. -/
theorem apart_of_goesAhead {rule other : Blueprint} (bound : ruleset.blueprint? first.node = some rule)
    (alsoBound : ruleset.blueprint? second.node = some other) (ahead : rule.goesAhead = true)
    (standard : other ∈ standardRules) (behind : other.goesAhead = false) : ruleset.Apart first second := by
  intro rule' other' bound' alsoBound'
  obtain rfl := Option.some.inj (bound.symm.trans bound')
  obtain rfl := Option.some.inj (alsoBound.symm.trans alsoBound')
  rw [Rule.priority_of_not_goesAhead (Rule.ne_declared_of_standard (by rwa [Rule.unwired_of_standard standard])) behind]
  have := Rule.priority_of_goesAhead ahead
  omega

variable [Identified σ]

/-- An exchange of neighbours that are of different tiers shows in none of the tiers. -/
theorem tier_instances_swap (apart : ruleset.Apart first second) (front back : List (Call σ)) (priority : Int) :
    Instance.wiring.tier priority (ruleset.instances (front ++ first :: second :: back)) =
      Instance.wiring.tier priority (ruleset.instances (front ++ second :: first :: back)) := by
  simp only [instances, List.filterMap_append, List.filterMap_cons]
  cases bound : ruleset.blueprint? first.node with
  | none => rfl
  | some rule =>
      cases alsoBound : ruleset.blueprint? second.node with
      | none => rfl
      | some other =>
          refine Wiring.tier_swap ?_ _ _ priority
          simpa only [Instance.wiring, Blueprint.fresh, Rule.priority_map] using apart rule other bound alsoBound

/-- Rearranged calls have the same tiers. -/
theorem Rearranges.tier_instances (rearranges : ruleset.Rearranges calls others) (priority : Int) :
    Instance.wiring.tier priority (ruleset.instances calls) =
      Instance.wiring.tier priority (ruleset.instances others) := by
  induction rearranges with
  | refl calls => rfl
  | exchange front back apart _ ih => rw [tier_instances_swap apart, ih]

end Ruleset

/-- **Only the order within a tier counts.**  Two lists of entries with the same tiers come to the same, whatever their
wiring does: the same rules, wired alike, or the same failure.  So two schemas whose calls differ in exchanges between
different tiers have the same rules, and a default, `optional`, and a list of valid or of allowed values are in another
tier than all other standard rules. -/
theorem Schema.rules_of_rearranges :
    (∀ {ι ε : Type} (wiring : Wiring ι ε) (entries others : List ι),
      (∀ priority, wiring.tier priority entries = wiring.tier priority others) →
        wiring.assemble entries = wiring.assemble others) ∧
    (∀ schema other : Schema, schema.ruleset = other.ruleset → schema.error = other.error →
      schema.ruleset.Rearranges schema.calls other.calls → schema.rules = other.rules) ∧
    ∀ (ruleset : Ruleset) (first second : Call Schema) (rule other : Blueprint),
      ruleset.blueprint? first.node = some rule → ruleset.blueprint? second.node = some other →
        rule.goesAhead = true → other ∈ Ruleset.standardRules → other.goesAhead = false →
          ruleset.Apart first second ∧ ruleset.Apart second first := by
  refine ⟨fun wiring entries others => Wiring.assemble_congr, fun schema other ruleset error rearranges => ?_,
    fun ruleset first second rule other bound alsoBound ahead standard behind => ?_⟩
  · rw [rules_eq, rules_eq, ← error, ← ruleset]
    cases schema.error with
    | some fault => rfl
    | none => exact Wiring.assemble_congr rearranges.tier_instances
  · have apart := Ruleset.apart_of_goesAhead bound alsoBound ahead standard behind
    exact ⟨apart, apart.symm⟩

namespace Schema

/-- A text of some length, with a default that is called for last. -/
def ofLateDefault : Schema :=
  .ofCalls 0 [(.optional false, []), (.check .string, []),
    (.length .characters .min 0, [.value (.ofNat 3)]), (.standIn .undefined false, [.value (.string "none")])]

/-- The same calls, the default in front of the type and of the bound. -/
def ofEarlyDefault : Schema :=
  { ofLateDefault with handle := 1, newestFirst := [⟨2, [.value (.ofNat 3)]⟩, ⟨1, []⟩,
    ⟨3, [.value (.string "none")]⟩, ⟨0, []⟩] }

/-- A stand-in that is called early can be called late as well. -/
theorem rearranges_ofEarlyDefault : ofLateDefault.ruleset.Rearranges ofLateDefault.calls ofEarlyDefault.calls := by
  have standard : ∀ rule ∈ [Rule.check .string, .length .characters .min 0], rule ∈ Ruleset.standardRules := by
    simp [Ruleset.standardRules, Ruleset.stringRules]
  refine .exchange [⟨0, []⟩, ⟨1, []⟩] [] ?_ (.exchange [⟨0, []⟩] [⟨2, [.value (.ofNat 3)]⟩] ?_ (.refl _))
  · exact (Ruleset.apart_of_goesAhead rfl rfl rfl (standard _ (by simp)) rfl).symm
  · exact (Ruleset.apart_of_goesAhead rfl rfl rfl (standard _ (by simp)) rfl).symm

/-- The default is wired first, wherever it is called for. -/
theorem rules_of_rearranges_ofLateDefault :
    Instance.assemble (ofLateDefault.ruleset.instances ofLateDefault.calls) =
        Instance.assemble (ofLateDefault.ruleset.instances ofEarlyDefault.calls) ∧
      ofLateDefault.rules = ofEarlyDefault.rules ∧
      ofLateDefault.rules.toOption.map (List.map fun entry => entry.rule.name) =
        some ["default", "optional", "string", "string.min"] ∧
      ofLateDefault.ruleset.Apart (⟨3, []⟩ : Call Schema) ⟨1, []⟩ := by
  obtain ⟨entries, schemas, calls⟩ := rules_of_rearranges
  refine ⟨entries _ _ _ rearranges_ofEarlyDefault.tier_instances, schemas _ _ rfl rfl rearranges_ofEarlyDefault,
    by decide +kernel, (calls _ _ _ _ _ rfl rfl rfl ?_ rfl).1⟩
  simp [Ruleset.standardRules, Ruleset.stringRules]

end Schema

end Vetting
