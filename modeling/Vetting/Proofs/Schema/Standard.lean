import Vetting.Proofs.Assembly.Deeds
import Vetting.Proofs.Ruleset.Registration
import Vetting.Proofs.Schema.Parts
import Vetting.Validation.Validator

/-!
# Schemas over the standard rules

The standard ruleset binds the standard rules (`Ruleset.exists_blueprint?_of_standard`), and binds no other ones
(`Ruleset.standard_of_blueprint?`).  So whatever is called in a schema over it, at whatever depth, is a standard
rule or none.
-/

namespace Vetting

namespace Ruleset

/-- The standard ruleset binds standard rules only. -/
theorem standard_of_blueprint? {node : Node} {blueprint : Blueprint}
    (bound : standard.blueprint? node = some blueprint) : blueprint ∈ standardRules := by
  have added : ∀ (rules : List Blueprint) (ruleset : Ruleset), ruleset.Sound →
      (rules.foldl addNamed ruleset).blueprint? node = some blueprint →
        blueprint ∈ rules ∨ ruleset.blueprint? node = some blueprint := by
    intro rules
    induction rules with
    | nil => exact fun _ _ bound => .inr bound
    | cons rule rest ih =>
        intro ruleset sound bound
        rcases ih (ruleset.addNamed rule) (sound_add sound _ rule) bound with later | now
        · exact .inl (List.mem_cons_of_mem _ later)
        · rw [addNamed, blueprint?_add sound] at now
          split at now
          · obtain rfl := Option.some.inj now
            exact .inl List.mem_cons_self
          · exact .inr now
  rw [standard_eq] at bound
  refine (added standardRules empty .empty bound).resolve_right fun bare => ?_
  cases node <;> cases bare

/-- A rule stays under its names when others are added under names of their own. -/
theorem rule?_foldl_addNamed {ruleset : Ruleset} (sound : ruleset.Sound) {names : Names} {blueprint : Blueprint}
    (bound : ruleset.rule? names = some blueprint) {rules : List Blueprint}
    (others : ∀ rule ∈ rules, names ≠ split rule.name) :
    (rules.foldl addNamed ruleset).rule? names = some blueprint := by
  induction rules generalizing ruleset with
  | nil => exact bound
  | cons rule rest ih =>
      refine ih (sound_add sound _ rule) ?_ fun later member => others later (List.mem_cons_of_mem _ member)
      rw [addNamed, rule?_add sound, if_neg (others rule List.mem_cons_self), bound]

/-- Adding rules under their names keeps a ruleset sound. -/
theorem sound_foldl_addNamed {ruleset : Ruleset} (sound : ruleset.Sound) (rules : List Blueprint) :
    (rules.foldl addNamed ruleset).Sound := by
  induction rules generalizing ruleset with
  | nil => exact sound
  | cons rule rest ih => exact ih (sound_add sound _ rule)

/-- The standard ruleset binds every standard rule. -/
theorem exists_blueprint?_of_standard {blueprint : Blueprint} (known : blueprint ∈ standardRules) :
    ∃ node, standard.blueprint? node = some blueprint := by
  have distinct : (standardRules.map Rule.name).Nodup := by decide +kernel
  obtain ⟨front, back, same⟩ := List.append_of_mem known
  have sound := sound_foldl_addNamed .empty front
  have bound : ((front.foldl addNamed empty).addNamed blueprint).rule? (split blueprint.name) = some blueprint := by
    rw [addNamed, rule?_add sound, if_pos rfl]
  rw [same, List.map_append, List.map_cons, List.nodup_append] at distinct
  have last : standard.rule? (split blueprint.name) = some blueprint := by
    rw [standard_eq, same, List.foldl_append, List.foldl_cons]
    refine rule?_foldl_addNamed (sound_add sound _ blueprint) bound fun rule later alike => ?_
    refine (List.nodup_cons.mp distinct.2.1).1 (List.mem_map.mpr ⟨rule, later, ?_⟩)
    exact split_injective alike.symm
  obtain ⟨node, -, carried⟩ := Option.bind_eq_some_iff.mp last
  exact ⟨node, carried⟩

/-- The instances of calls are fresh instances of the rules that are called. -/
theorem fresh_of_mem_instances {σ : Type} {ruleset : Ruleset} {calls : List (Call σ)}
    (standard : ∀ call ∈ calls, ∀ blueprint, ruleset.blueprint? call.node = some blueprint →
      blueprint ∈ standardRules) :
    ∀ entry ∈ ruleset.instances calls, entry.IsStandard ∧ entry.IsFresh := by
  intro entry member
  obtain ⟨call, called, blueprint, bound, rfl⟩ := exists_call_of_instances member
  have known := standard call called blueprint bound
  have same : (blueprint.fresh : Rule σ).unwired = blueprint := by
    rw [Blueprint.fresh, Rule.unwired_map, Rule.unwired_of_standard known]
  refine ⟨?_, ?_⟩
  · rw [Instance.IsStandard, same]
    exact known
  · rw [Instance.IsFresh, same]

end Ruleset

namespace Schema

/-- A property at every depth gives way to a weaker one. -/
theorem Everywhere.mono {first second : Schema → Prop} (weaker : ∀ schema, first schema → second schema)
    {schema : Schema} (everywhere : schema.Everywhere first) : schema.Everywhere second := by
  induction everywhere with
  | intro here _ ih => exact .intro (weaker _ here) ih

/-- The nodes of some rules, none of which hangs below another one. -/
def ofRules (blueprints : List Blueprint) : Ruleset where
  nodes := blueprints.map fun blueprint => ⟨blueprint.name, some blueprint, none, []⟩
  rising := by
    intro node entry above found hangs
    rw [List.getElem?_map] at found
    obtain ⟨blueprint, -, rfl⟩ := Option.map_eq_some_iff.mp found
    cases hangs

/-- The schema of some calls, over the ruleset of the rules that they call. -/
def ofCalls (handle : Handle) (calls : List (Blueprint × Arguments Schema)) : Schema where
  handle := handle
  ruleset := ofRules (calls.map Prod.fst)
  scope := Ruleset.root
  newestFirst := (calls.zipIdx.map fun ((_, arguments), node) => ⟨node, arguments⟩).reverse
  error := none

/-- The schema of some calls has only these. -/
theorem callsOnly_ofCalls {allowed : Blueprint → Prop} {handle : Handle}
    {calls : List (Blueprint × Arguments Schema)} (every : ∀ call ∈ calls, allowed call.1) :
    (ofCalls handle calls).CallsOnly allowed := by
  intro call _ blueprint bound
  obtain ⟨entry, found, carried⟩ := Option.bind_eq_some_iff.mp bound
  obtain ⟨named, made, rfl⟩ := List.mem_map.mp (List.mem_of_getElem? found)
  obtain ⟨listed, member, rfl⟩ := List.mem_map.mp made
  obtain rfl := Option.some.inj carried
  exact every listed member

/-- A property holds at every depth of the schema of some calls if it does inside their arguments. -/
theorem everywhere_ofCalls {holds : Schema → Prop} {handle : Handle}
    {calls : List (Blueprint × Arguments Schema)} (here : holds (ofCalls handle calls))
    (inside : ∀ call ∈ calls, ∀ part ∈ call.2.flatMap Argument.parts, part.Everywhere holds) :
    (ofCalls handle calls).Everywhere holds := by
  refine .intro here fun part member => ?_
  obtain ⟨call, made, given⟩ := List.mem_flatMap.mp member
  rw [Schema.calls, ofCalls, List.reverse_reverse] at made
  obtain ⟨⟨named, node⟩, listed, rfl⟩ := List.mem_map.mp made
  exact inside named (List.fst_mem_of_mem_zipIdx listed) part given

end Schema

end Vetting
