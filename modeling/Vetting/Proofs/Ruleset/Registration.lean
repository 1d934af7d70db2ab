import Mathlib.Data.List.Dedup
import Vetting.Proofs.Ruleset.QualifiedNames
import Vetting.Proofs.Ruleset.Tree

/-!
# Registrations

A ruleset that has grown by registrations is a finite map from names to rules: under every names stands the rule
that was registered last, and under all others none (`Ruleset.rule?_registered`).  Nodes are told by their
qualified names, and keep them (`Ruleset.registered_refines`).
-/

namespace Vetting

namespace Ruleset

variable {ruleset : Ruleset}

/-- The rule under the names. -/
def rule? (ruleset : Ruleset) (names : Names) : Option Blueprint :=
  (ruleset.node? names).bind ruleset.blueprint?

/-! ## One more rule -/

section Add

variable (sound : ruleset.Sound) (names : Names) (blueprint : Blueprint)

include sound

/-- The place that is made for some names is found by them from the root. -/
theorem leads_place : ruleset.Leads root names (ruleset.path root names).1 (ruleset.place names blueprint).2 :=
  leads_path sound sound.rooted names

/-- Adding a rule keeps a ruleset sound. -/
theorem sound_add : (ruleset.add names blueprint).Sound :=
  (leads_place sound names blueprint).sound.bind _ blueprint

/-- Adding a rule extends a ruleset. -/
theorem extends_add : ruleset.Extends (ruleset.add names blueprint) :=
  (leads_place sound names blueprint).extended.trans (extends_bind _ blueprint)

/-- The rule is bound to the node under its names. -/
theorem node?_add : (ruleset.add names blueprint).node? names = some (ruleset.place names blueprint).2 := by
  have leads := leads_place sound names blueprint
  have kept := @extends_bind (ruleset.path root names).1 (ruleset.place names blueprint).2 blueprint
  refine (sound_add sound names blueprint).node?_eq_some_iff.mpr ⟨kept.has leads.has, ?_⟩
  exact (kept.names_eq leads.has).trans (leads.names_eq.trans (by rw [names_eq_nil above?_root, List.nil_append]))

/-- The rules of all other nodes stay. -/
theorem blueprint?_add (node : Node) :
    (ruleset.add names blueprint).blueprint? node =
      if node = (ruleset.place names blueprint).2 then some blueprint else ruleset.blueprint? node := by
  have leads := leads_place sound names blueprint
  rw [← leads.blueprint?_eq node]
  exact blueprint?_bind _ blueprint leads.has node

/-- Adding a rule puts it under its names and leaves the others. -/
theorem rule?_add (asked : Names) :
    (ruleset.add names blueprint).rule? asked = if asked = names then some blueprint else ruleset.rule? asked := by
  have soundNew := sound_add sound names blueprint
  have extended := extends_add sound names blueprint
  have placed := node?_add sound names blueprint
  unfold rule?
  split
  next same => rw [same, placed, Option.bind_some, blueprint?_add sound, if_pos rfl]
  next other =>
    -- Only the names that were added lead to the node of the rule.
    have elsewhere : ∀ {node : Node}, (ruleset.add names blueprint).node? asked = some node →
        (ruleset.add names blueprint).blueprint? node = ruleset.blueprint? node := by
      intro node found
      rw [blueprint?_add sound, if_neg]
      rintro rfl
      exact other ((soundNew.names_of_node? found).2.symm.trans (soundNew.names_of_node? placed).2)
    cases found : ruleset.node? asked with
    | some node =>
        obtain ⟨known, named⟩ := sound.names_of_node? found
        have still := soundNew.node?_eq_some_iff.mpr ⟨extended.has known, (extended.names_eq known).trans named⟩
        rw [still, Option.bind_some, elsewhere still, Option.bind_some]
    | none =>
        cases now : (ruleset.add names blueprint).node? asked with
        | none => rfl
        | some node =>
            obtain ⟨-, named⟩ := soundNew.names_of_node? now
            have unknown : ¬ ruleset.Has node := by
              intro known
              have was := sound.node?_eq_some_iff.mpr ⟨known, (extended.names_eq known).symm.trans named⟩
              cases found.symm.trans was
            rw [Option.bind_some, elsewhere now, blueprint?, List.getElem?_eq_none (Nat.le_of_not_lt unknown),
              Option.bind_none, Option.bind_none]

end Add

end Ruleset

/-! ## Any number of rules -/

open Ruleset

/-- A rule is registered under names that are given, or under its own name. -/
inductive Registration where
  | under (names : Names) (blueprint : Blueprint)
  | named (blueprint : Blueprint)

namespace Registration

/-- The names under which the rule is registered. -/
def names : Registration → Names
  | under names _ => names
  | named blueprint => split blueprint.name

/-- The rule that is registered. -/
def blueprint : Registration → Blueprint
  | under _ blueprint | named blueprint => blueprint

/-- The names are those of a qualified name. -/
def Qualified : Registration → Prop
  | under names _ => names ≠ [] ∧ ∀ name ∈ names, Undotted name
  | named _ => True

/-- Between the dots of a qualified name there are no dots. -/
theorem undotted_of_qualified {registration : Registration} (qualified : registration.Qualified) :
    ∀ name ∈ registration.names, Undotted name := by
  cases registration with
  | under names blueprint => exact qualified.2
  | named blueprint => exact fun _ member => undotted_of_mem_split member

end Registration

namespace Ruleset

variable {ruleset : Ruleset}

/-- Carries a registration out. -/
def register (ruleset : Ruleset) : Registration → Ruleset
  | .under names blueprint => ruleset.add names blueprint
  | .named blueprint => ruleset.addNamed blueprint

/-- What the root alone grows to. -/
def registered (registrations : List Registration) : Ruleset :=
  registrations.foldl register empty

/-- The rule that was registered last under the names. -/
def lastRegistered? (registrations : List Registration) (names : Names) : Option Blueprint :=
  (registrations.reverse.find? fun registration => registration.names = names).map Registration.blueprint

/-- To register a rule is to add it under the names between the dots. -/
theorem register_eq (ruleset : Ruleset) (registration : Registration) :
    ruleset.register registration = ruleset.add registration.names registration.blueprint := by
  cases registration <;> rfl

/-- Of several registrations the last one comes last. -/
theorem registered_concat (registrations : List Registration) (last : Registration) :
    registered (registrations ++ [last]) = (registered registrations).add last.names last.blueprint := by
  rw [registered, List.foldl_append, ← register_eq]
  rfl

/-- Registrations make a sound ruleset. -/
theorem sound_registered (registrations : List Registration) : (registered registrations).Sound := by
  induction registrations using List.reverseRecOn with
  | nil => exact .empty
  | append_singleton registrations last ih =>
      rw [registered_concat]
      exact sound_add ih last.names last.blueprint

/-- Later registrations extend what the earlier ones have made. -/
theorem extends_registered (registrations later : List Registration) :
    (registered registrations).Extends (registered (registrations ++ later)) := by
  induction later using List.reverseRecOn with
  | nil =>
      rw [List.append_nil]
      exact .refl _
  | append_singleton later last ih =>
      rw [← List.append_assoc, registered_concat]
      exact ih.trans (extends_add (sound_registered _) last.names last.blueprint)

/-- Under any names stands the rule that was registered last. -/
theorem rule?_registered (registrations : List Registration) (names : Names) :
    (registered registrations).rule? names = lastRegistered? registrations names := by
  induction registrations using List.reverseRecOn with
  | nil =>
      have bare : ∀ node, empty.blueprint? node = none := by
        intro node
        cases node <;> rfl
      rw [rule?]
      cases (registered []).node? names with
      | none => rfl
      | some node => exact bare node
  | append_singleton registrations last ih =>
      rw [registered_concat, rule?_add (sound_registered _), lastRegistered?, List.reverse_concat, List.find?_cons, ih,
        lastRegistered?]
      by_cases same : names = last.names
      · simp only [same, ↓reduceIte, decide_true, Option.map_some]
      · simp only [same, Ne.symm same, ↓reduceIte, decide_false]

/-- Names have a last registration exactly if they have been registered. -/
theorem isSome_lastRegistered? {registrations : List Registration} {names : Names} :
    (lastRegistered? registrations names).isSome = true ↔ names ∈ registrations.map Registration.names := by
  rw [lastRegistered?, Option.isSome_map, List.find?_isSome, List.mem_map]
  simp only [List.mem_reverse, decide_eq_true_eq]

/-- Names that lead to a node still do so later on. -/
theorem node?_registered_append {registrations : List Registration} {names : Names} {node : Node}
    (found : (registered registrations).node? names = some node) (later : List Registration) :
    (registered (registrations ++ later)).node? names = some node := by
  obtain ⟨known, named⟩ := (sound_registered registrations).names_of_node? found
  have extended := extends_registered registrations later
  exact (sound_registered _).node?_eq_some_iff.mpr ⟨extended.has known, (extended.names_eq known).trans named⟩

/-- Registrations leave the rules of nodes alone that their names do not lead to. -/
theorem blueprint?_registered_append (registrations : List Registration) {later : List Registration} {node : Node}
    (elsewhere : ∀ registration ∈ later,
      (registered (registrations ++ later)).node? registration.names ≠ some node) :
    (registered (registrations ++ later)).blueprint? node = (registered registrations).blueprint? node := by
  induction later using List.reverseRecOn with
  | nil => rw [List.append_nil]
  | append_singleton later last ih =>
      rw [← List.append_assoc] at elsewhere ⊢
      have before := ih fun registration member found =>
        elsewhere registration (List.mem_append_left _ member) (node?_registered_append found [last])
      rw [← before, registered_concat, blueprint?_add (sound_registered _), if_neg]
      rintro rfl
      refine elsewhere last (List.mem_append_right _ List.mem_cons_self) ?_
      rw [registered_concat]
      exact node?_add (sound_registered _) last.names last.blueprint

/-! ## How many rules there are -/

/-- The names of the nodes that carry a rule. -/
def boundPaths (ruleset : Ruleset) : List Names :=
  ((List.range ruleset.nodes.length).filter fun node => (ruleset.blueprint? node).isSome).map ruleset.names

/-- The size of a ruleset counts the paths that rules are bound to. -/
theorem length_boundPaths (ruleset : Ruleset) : ruleset.boundPaths.length = ruleset.size := by
  have same : (List.range ruleset.nodes.length).map ruleset.blueprint? = ruleset.nodes.map NodeEntry.blueprint? := by
    refine List.ext_getElem (by simp only [List.length_map, List.length_range]) fun node known _ => ?_
    rw [List.length_map, List.length_range] at known
    rw [List.getElem_map, List.getElem_range, List.getElem_map, blueprint?, List.getElem?_eq_getElem known,
      Option.bind_some]
  calc
    ruleset.boundPaths.length = (List.range ruleset.nodes.length).countP (Option.isSome ∘ ruleset.blueprint?) := by
      rw [boundPaths, List.length_map, List.countP_eq_length_filter]
      rfl
    _ = (ruleset.nodes.map NodeEntry.blueprint?).countP Option.isSome := by rw [← List.countP_map, same]
    _ = ruleset.size := List.countP_map

/-- The bound paths of a sound ruleset are those that have a rule. -/
theorem mem_boundPaths_iff (sound : ruleset.Sound) {names : Names} :
    names ∈ ruleset.boundPaths ↔ (ruleset.rule? names).isSome = true := by
  unfold boundPaths rule?
  simp only [List.mem_map, List.mem_filter, List.mem_range]
  constructor
  · rintro ⟨node, ⟨known, bound⟩, rfl⟩
    rwa [sound.node?_names known, Option.bind_some]
  · intro bound
    cases found : ruleset.node? names with
    | none =>
        rw [found] at bound
        cases bound
    | some node =>
        rw [found, Option.bind_some] at bound
        obtain ⟨known, named⟩ := sound.names_of_node? found
        exact ⟨node, ⟨known, bound⟩, named⟩

/-- No path of a sound ruleset is bound twice. -/
theorem nodup_boundPaths (sound : ruleset.Sound) : ruleset.boundPaths.Nodup := by
  refine List.Nodup.map_on (fun first firstBound second secondBound same => ?_) (List.nodup_range.filter _)
  have known := List.mem_range.mp (List.mem_of_mem_filter firstBound)
  have alsoKnown := List.mem_range.mp (List.mem_of_mem_filter secondBound)
  exact Option.some.inj ((sound.node?_names known).symm.trans (same ▸ sound.node?_names alsoKnown))

/-- As many nodes carry a rule as there are different names under which one has been registered. -/
theorem size_registered (registrations : List Registration) :
    (registered registrations).size = (registrations.map Registration.names).dedup.length := by
  rw [← length_boundPaths]
  refine List.Perm.length_eq ?_
  refine (List.perm_ext_iff_of_nodup (nodup_boundPaths (sound_registered _)) (List.nodup_dedup _)).mpr fun names => ?_
  rw [mem_boundPaths_iff (sound_registered _), rule?_registered, isSome_lastRegistered?, List.mem_dedup]

/-! ## Qualified names -/

/-- Where all registrations have been under qualified names, no name has a dot in it. -/
theorem undotted_lastName {registrations : List Registration}
    (qualified : ∀ registration ∈ registrations, registration.Qualified) :
    ∀ {node : Node}, (registered registrations).Has node → Undotted ((registered registrations).lastName node) := by
  induction registrations using List.reverseRecOn with
  | nil =>
      intro node known
      obtain rfl : node = root := Nat.lt_one_iff.mp known
      exact List.not_mem_nil
  | append_singleton registrations last ih =>
      intro node known
      have before := @ih fun registration member => qualified registration (List.mem_append_left _ member)
      have leads := leads_place (sound_registered registrations) last.names last.blueprint
      rw [registered_concat] at known ⊢
      rw [add, place, Has, length_bind] at known
      rw [add, place, lastName_bind]
      rcases leads.named known with old | new
      · rw [leads.extended.lastName_eq old]
        exact before old
      · exact Registration.undotted_of_qualified (qualified last (List.mem_append_right _ List.mem_cons_self)) _ new

/-- If no node has a dot in its name, there is none in the names that lead to a node. -/
theorem undotted_of_mem_names (undotted : ∀ {node : Node}, ruleset.Has node → Undotted (ruleset.lastName node))
    (node : Node) : ∀ name ∈ ruleset.names node, Undotted name := by
  induction node using Nat.strongRecOn with
  | ind node ih =>
      intro name member
      cases hangs : ruleset.above? node with
      | none =>
          rw [names_eq_nil hangs] at member
          cases member
      | some above =>
          rw [names_of_above? hangs] at member
          rcases List.mem_append.mp member with upper | last
          · exact ih above (above?_lt hangs) name upper
          · exact List.mem_singleton.mp last ▸ undotted (has_of_above? hangs)

/-- **A ruleset is a map.**  After any registrations under qualified names the ruleset tells of every qualified
name the rule that was registered last under it, and counts the names with a rule; the qualified name of a node
leads to that node and to no other one; and further registrations change neither the name nor the place of a
node, nor its rule, unless they are about that very node. -/
theorem registered_refines {registrations : List Registration}
    (qualified : ∀ registration ∈ registrations, registration.Qualified) :
    (∀ name, (registered registrations).contains name = true ↔
      ∃ registration ∈ registrations, registration.names = split name) ∧
    (∀ name, ((registered registrations).find name).bind (registered registrations).blueprint? =
      lastRegistered? registrations (split name)) ∧
    (registered registrations).size = (registrations.map Registration.names).dedup.length ∧
    (∀ node, (registered registrations).Has node → node ≠ root →
      (registered registrations).find ((registered registrations).dottedName node) = some node) ∧
    (∀ name node, (registered registrations).find name = some node →
      (registered registrations).dottedName node = name) ∧
    ∀ later node, (registered registrations).Has node →
      (registered (registrations ++ later)).dottedName node = (registered registrations).dottedName node ∧
      (registered (registrations ++ later)).above? node = (registered registrations).above? node ∧
      ((∀ registration ∈ later, (registered (registrations ++ later)).node? registration.names ≠ some node) →
        (registered (registrations ++ later)).blueprint? node = (registered registrations).blueprint? node) := by
  have sound := sound_registered registrations
  refine ⟨fun name => ?_, fun name => rule?_registered registrations (split name), size_registered registrations,
    fun node known other => ?_, fun name node found => ?_, fun later node known => ⟨?_, ?_, fun elsewhere => ?_⟩⟩
  · calc
      (registered registrations).contains name = true
        ↔ (lastRegistered? registrations (split name)).isSome = true := by rw [← rule?_registered]; rfl
      _ ↔ ∃ registration ∈ registrations, registration.names = split name := by
        rw [isSome_lastRegistered?, List.mem_map]
  · have undotted := undotted_of_mem_names (undotted_lastName qualified) node
    rw [find, dottedName, split_intercalate (mt (sound.names_eq_nil_iff known).mp other) undotted,
      sound.node?_names known]
  · rw [dottedName, (sound.names_of_node? found).2, intercalate_split]
  · rw [dottedName, dottedName, (extends_registered registrations later).names_eq known]
  · exact (extends_registered registrations later).above?_eq known
  · exact blueprint?_registered_append registrations elsewhere

/-- A name that is only on the way to another one, and one that is registered twice. -/
def registeredTwice : List Registration :=
  [.under ["a", "b"] .any, .named (.check .required), .under ["a", "b"] .insensitive]

/-- The later one of two rules of a name counts, the name on the way to it has no rule, and a further name changes
neither. -/
theorem registered_refines_registeredTwice :
    ((registered registeredTwice).find "a.b").bind (registered registeredTwice).blueprint? = some .insensitive ∧
      (registered registeredTwice).contains "a" = false ∧ (registered registeredTwice).size = 2 ∧
      (registered registeredTwice).find ((registered registeredTwice).dottedName 2) = some 2 ∧
      (registered (registeredTwice ++ [.under ["a"] .any])).blueprint? 2 =
        (registered registeredTwice).blueprint? 2 := by
  have qualified : ∀ registration ∈ registeredTwice, registration.Qualified := by
    simp [registeredTwice, Registration.Qualified, Undotted]
  obtain ⟨contained, last, size, found, -, kept⟩ := registered_refines qualified
  have known : (registered registeredTwice).Has 2 := by decide +kernel
  refine ⟨last "a.b", ?_, size.trans (by decide +kernel), found 2 known (by decide), (kept _ 2 known).2.2 ?_⟩
  · rw [← Bool.not_eq_true, contained]
    decide +kernel
  · decide +kernel

end Ruleset

end Vetting
