import Mathlib.Data.List.Induction
import Vetting.Proofs.Members
import Vetting.Ruleset.Basic

/-!
# Rulesets are trees

What hangs right below a node knows where it hangs and under which name, and only the root hangs nowhere
(`Ruleset.Sound`).  A ruleset is sound however it has grown.  In a sound ruleset the names that lead to a node
lead to no other one (`Ruleset.Sound.node?_eq_some_iff`), and nodes that are there keep their names and their
places as it grows (`Ruleset.Extends.names_eq`).
-/

namespace Vetting.Ruleset

variable {ruleset : Ruleset}

/-- The number is that of a node. -/
abbrev Has (ruleset : Ruleset) (node : Node) : Prop :=
  node < ruleset.nodes.length

/-- Only known nodes hang below others. -/
theorem has_of_above? {node above : Node} (hangs : ruleset.above? node = some above) : ruleset.Has node := by
  obtain ⟨entry, found, -⟩ := Option.bind_eq_some_iff.mp hangs
  exact (List.getElem?_eq_some_iff.mp found).1

/-- The root hangs below nothing. -/
theorem above?_root : ruleset.above? root = none := by
  cases hangs : ruleset.above? root with
  | none => rfl
  | some above => exact absurd (above?_lt hangs) (Nat.not_lt_zero above)

/-- Unknown nodes hang below nothing. -/
theorem above?_eq_none {node : Node} (unknown : ruleset.nodes.length ≤ node) : ruleset.above? node = none := by
  rw [above?, List.getElem?_eq_none unknown, Option.bind_none]

/-- The names of a node are those of the one above and its own. -/
theorem names_of_above? {node above : Node} (hangs : ruleset.above? node = some above) :
    ruleset.names node = ruleset.names above ++ [ruleset.lastName node] := by
  rw [names]
  split
  next upper found =>
    obtain rfl := Option.some.inj (hangs.symm.trans found)
    rfl
  next nowhere => cases hangs.symm.trans nowhere

/-- A node that hangs below nothing has no names. -/
theorem names_eq_nil {node : Node} (nowhere : ruleset.above? node = none) : ruleset.names node = [] := by
  rw [names]
  split
  next above found => cases nowhere.symm.trans found
  next => rfl

/-! ## A new node -/

section Hang

variable {node : Node} (known : ruleset.Has node) (name : String)

/-- Hanging a node adds one node. -/
theorem length_hang : (ruleset.hang node known name).nodes.length = ruleset.nodes.length + 1 := by
  simp only [hang, List.length_append, List.length_modify, List.length_singleton]

/-- The new node comes last, and the node that it hangs below learns of it. -/
theorem getElem?_hang (place : Node) :
    (ruleset.hang node known name).nodes[place]? =
      if place = ruleset.nodes.length then some ⟨name, none, some node, []⟩
      else ruleset.nodes[place]?.map fun entry =>
        if node = place then { entry with below := entry.below.put name ruleset.nodes.length } else entry := by
  simp only [hang, List.getElem?_append, List.length_modify]
  rcases Nat.lt_trichotomy place ruleset.nodes.length with inside | last | outside
  · rw [if_pos inside, if_neg (Nat.ne_of_lt inside), List.getElem?_modify]
    rfl
  · rw [if_neg (Nat.not_lt.mpr (Nat.le_of_eq last.symm)), if_pos last, last, Nat.sub_self]
    rfl
  · rw [if_neg (Nat.lt_asymm outside), if_neg (Nat.ne_of_gt outside), List.getElem?_eq_none (Nat.le_of_lt outside),
      List.getElem?_eq_none (by simp only [List.length_singleton]; omega)]
    rfl

/-- The new node has the name that it is hung with, and the others keep theirs. -/
theorem lastName_hang (place : Node) :
    (ruleset.hang node known name).lastName place =
      if place = ruleset.nodes.length then name else ruleset.lastName place := by
  unfold lastName
  rw [getElem?_hang]
  split
  · rfl
  · rw [Option.map_map]
    congr 2
    funext entry
    simp only [Function.comp_apply, apply_ite NodeEntry.name, ite_self]

/-- The new node hangs where it has been hung, and the others where they were. -/
theorem above?_hang (place : Node) :
    (ruleset.hang node known name).above? place =
      if place = ruleset.nodes.length then some node else ruleset.above? place := by
  unfold above?
  rw [getElem?_hang]
  split
  · rfl
  · rw [Option.bind_map]
    congr 1
    funext entry
    simp only [Function.comp_apply, apply_ite NodeEntry.above?, ite_self]

/-- The new node is bound to no rule. -/
theorem blueprint?_hang (place : Node) :
    (ruleset.hang node known name).blueprint? place = ruleset.blueprint? place := by
  unfold blueprint?
  rw [getElem?_hang]
  split
  next last => rw [last, List.getElem?_eq_none (Nat.le_refl _)]; rfl
  next =>
    rw [Option.bind_map]
    congr 1
    funext entry
    simp only [Function.comp_apply, apply_ite NodeEntry.blueprint?, ite_self]

/-- The new node is found below the one that it hangs from. -/
theorem below_hang (place : Node) :
    (ruleset.hang node known name).below place =
      if place = node then (ruleset.below node).put name ruleset.nodes.length else ruleset.below place := by
  unfold below
  rw [getElem?_hang]
  by_cases last : place = ruleset.nodes.length
  · rw [if_pos last, if_neg (last ▸ Ne.symm (Nat.ne_of_lt known)), last, List.getElem?_eq_none (Nat.le_refl _)]
    rfl
  · rw [if_neg last]
    by_cases own : place = node
    · subst own
      rw [if_pos rfl, List.getElem?_eq_getElem known]
      simp only [↓reduceIte, Option.map_some, Option.getD_some]
    · rw [if_neg own]
      simp only [Ne.symm own, ↓reduceIte, Option.map_id_fun', id_eq]

end Hang

/-! ## A new rule -/

section Bind

variable (node : Node) (blueprint : Blueprint)

/-- Binding a node changes its rule and nothing else. -/
theorem getElem?_bind (place : Node) :
    (ruleset.bind node blueprint).nodes[place]? = ruleset.nodes[place]?.map fun entry =>
      if node = place then { entry with blueprint? := some blueprint } else entry :=
  List.getElem?_modify ..

/-- Binding adds no nodes. -/
theorem length_bind : (ruleset.bind node blueprint).nodes.length = ruleset.nodes.length :=
  List.length_modify ..

/-- Binding leaves all names. -/
theorem lastName_bind (place : Node) : (ruleset.bind node blueprint).lastName place = ruleset.lastName place := by
  unfold lastName
  rw [getElem?_bind, Option.map_map]
  congr 2
  funext entry
  simp only [Function.comp_apply, apply_ite NodeEntry.name, ite_self]

/-- Binding leaves all nodes where they hang. -/
theorem above?_bind (place : Node) : (ruleset.bind node blueprint).above? place = ruleset.above? place := by
  unfold above?
  rw [getElem?_bind, Option.bind_map]
  congr 1
  funext entry
  simp only [Function.comp_apply, apply_ite NodeEntry.above?, ite_self]

/-- Binding leaves what hangs below each node. -/
theorem below_bind (place : Node) : (ruleset.bind node blueprint).below place = ruleset.below place := by
  unfold below
  rw [getElem?_bind, Option.map_map]
  congr 2
  funext entry
  simp only [Function.comp_apply, apply_ite NodeEntry.below, ite_self]

/-- A node that is bound has its new rule, and the others keep theirs. -/
theorem blueprint?_bind (known : ruleset.Has node) (place : Node) :
    (ruleset.bind node blueprint).blueprint? place =
      if place = node then some blueprint else ruleset.blueprint? place := by
  unfold blueprint?
  rw [getElem?_bind]
  by_cases own : place = node
  · subst own
    rw [if_pos rfl, List.getElem?_eq_getElem known]
    simp only [↓reduceIte, Option.map_some, Option.bind_some]
  · rw [if_neg own]
    simp only [Ne.symm own, ↓reduceIte, Option.map_id_fun', id_eq]

end Bind

/-! ## What stays -/

/-- The nodes of the first ruleset are nodes of the second one as well, of the same names and at the same
places. -/
structure Extends (old new : Ruleset) : Prop where
  length_le : old.nodes.length ≤ new.nodes.length
  lastName_eq : ∀ {node : Node}, old.Has node → new.lastName node = old.lastName node
  above?_eq : ∀ {node : Node}, old.Has node → new.above? node = old.above? node

namespace Extends

variable {old new next : Ruleset}

theorem refl (ruleset : Ruleset) : ruleset.Extends ruleset :=
  ⟨Nat.le_refl _, fun _ => rfl, fun _ => rfl⟩

/-- Nodes stay known. -/
theorem has (extended : old.Extends new) {node : Node} (known : old.Has node) : new.Has node :=
  Nat.lt_of_lt_of_le known extended.length_le

theorem trans (first : old.Extends new) (second : new.Extends next) : old.Extends next where
  length_le := Nat.le_trans first.length_le second.length_le
  lastName_eq known := (second.lastName_eq (first.has known)).trans (first.lastName_eq known)
  above?_eq known := (second.above?_eq (first.has known)).trans (first.above?_eq known)

/-- The names that lead to a node stay the same. -/
theorem names_eq (extended : old.Extends new) {node : Node} (known : old.Has node) :
    new.names node = old.names node := by
  induction node using Nat.strongRecOn with
  | ind node ih =>
      have hangs := extended.above?_eq known
      cases stood : old.above? node with
      | none => rw [names_eq_nil stood, names_eq_nil (hangs.trans stood)]
      | some above =>
          have earlier := above?_lt stood
          rw [names_of_above? stood, names_of_above? (hangs.trans stood), extended.lastName_eq known,
            ih above earlier (Nat.lt_trans earlier known)]

end Extends

/-- A ruleset with one more node extends the one before. -/
theorem extends_hang {node : Node} (known : ruleset.Has node) (name : String) :
    ruleset.Extends (ruleset.hang node known name) where
  length_le := by rw [length_hang]; exact Nat.le_succ _
  lastName_eq inside := by rw [lastName_hang, if_neg (Nat.ne_of_lt inside)]
  above?_eq inside := by rw [above?_hang, if_neg (Nat.ne_of_lt inside)]

/-- A ruleset with one more rule extends the one before. -/
theorem extends_bind (node : Node) (blueprint : Blueprint) : ruleset.Extends (ruleset.bind node blueprint) where
  length_le := Nat.le_of_eq (length_bind node blueprint).symm
  lastName_eq _ := lastName_bind node blueprint _
  above?_eq _ := above?_bind node blueprint _

/-! ## Sound rulesets -/

/-- What hangs right below a node knows where it hangs and under which name, and only the root hangs nowhere. -/
structure Sound (ruleset : Ruleset) : Prop where
  rooted : ruleset.Has root
  hangs : ∀ {node : Node}, ruleset.Has node → node ≠ root → ∃ above, ruleset.above? node = some above
  child?_eq_some_iff : ∀ {node child : Node} {name : String},
    ruleset.child? node name = some child ↔ ruleset.above? child = some node ∧ ruleset.lastName child = name
  distinct : ∀ node, (ruleset.below node).names.Nodup

namespace Sound

/-- The empty ruleset is sound. -/
theorem empty : Ruleset.empty.Sound where
  rooted := Nat.one_pos
  hangs known other := absurd (Nat.lt_one_iff.mp known) other
  child?_eq_some_iff := by
    intro node child name
    cases node <;> cases child <;> simp [child?, below, above?, Ruleset.empty]
  distinct node := by cases node <;> exact List.nodup_nil

/-- A sound ruleset stays sound when a missing node is hung. -/
theorem hang (sound : ruleset.Sound) {node : Node} (known : ruleset.Has node) {name : String}
    (missing : ruleset.child? node name = none) : (ruleset.hang node known name).Sound where
  rooted := (extends_hang known name).has sound.rooted
  hangs := by
    intro place inside other
    rw [above?_hang]
    split
    · exact ⟨node, rfl⟩
    next old =>
      rw [Has, length_hang] at inside
      exact sound.hangs (Nat.lt_of_le_of_ne (Nat.le_of_lt_succ inside) old) other
  child?_eq_some_iff := by
    intro place child asked
    have inRuleset := @sound.child?_eq_some_iff place child asked
    unfold child? at inRuleset missing ⊢
    rw [below_hang, above?_hang, lastName_hang]
    by_cases last : child = ruleset.nodes.length
    · subst last
      rw [above?_eq_none (Nat.le_refl _)] at inRuleset
      simp only [reduceCtorEq, false_and, iff_false] at inRuleset
      simp only [↓reduceIte, Option.some.injEq]
      by_cases own : place = node
      · subst own
        rw [if_pos rfl, Members.get?_put]
        by_cases same : asked = name
        · simp only [same, ↓reduceIte, true_and]
        · simp only [same, Ne.symm same, ↓reduceIte, and_false, iff_false]
          exact inRuleset
      · simp only [own, Ne.symm own, ↓reduceIte, false_and, iff_false]
        exact inRuleset
    · simp only [last, ↓reduceIte]
      by_cases own : place = node
      · subst own
        rw [if_pos rfl, Members.get?_put]
        by_cases same : asked = name
        · subst same
          rw [missing] at inRuleset
          simp only [reduceCtorEq, false_iff] at inRuleset
          simp only [↓reduceIte, Option.some.injEq, inRuleset, iff_false]
          exact Ne.symm last
        · simpa only [same, ↓reduceIte] using inRuleset
      · simpa only [own, ↓reduceIte] using inRuleset
  distinct := by
    intro place
    rw [below_hang]
    split
    · exact Members.nodup_names_put (sound.distinct node) name _
    · exact sound.distinct place

/-- A sound ruleset stays sound when a node is bound. -/
theorem bind (sound : ruleset.Sound) (node : Node) (blueprint : Blueprint) :
    (ruleset.bind node blueprint).Sound where
  rooted := (extends_bind node blueprint).has sound.rooted
  hangs known other := by
    rw [Has, length_bind] at known
    rw [above?_bind]
    exact sound.hangs known other
  child?_eq_some_iff := by
    intro place child name
    rw [child?, below_bind, above?_bind, lastName_bind]
    exact sound.child?_eq_some_iff
  distinct place := by
    rw [below_bind]
    exact sound.distinct place

/-- What hangs below a node of a sound ruleset is known. -/
theorem has_of_child? (sound : ruleset.Sound) {node child : Node} {name : String}
    (found : ruleset.child? node name = some child) : ruleset.Has child :=
  has_of_above? (sound.child?_eq_some_iff.mp found).1

/-! ### The names of a node -/

/-- The names of a child are those of its node and the one that it is found by. -/
theorem names_of_child? (sound : ruleset.Sound) {node child : Node} {name : String}
    (found : ruleset.child? node name = some child) : ruleset.names child = ruleset.names node ++ [name] := by
  obtain ⟨hangs, rfl⟩ := sound.child?_eq_some_iff.mp found
  exact names_of_above? hangs

/-- Only the root of a sound ruleset has no names. -/
theorem names_eq_nil_iff (sound : ruleset.Sound) {node : Node} (known : ruleset.Has node) :
    ruleset.names node = [] ↔ node = root := by
  refine ⟨fun nameless => ?_, fun same => same ▸ names_eq_nil above?_root⟩
  refine Decidable.byContradiction fun other => ?_
  obtain ⟨above, hangs⟩ := sound.hangs known other
  rw [names_of_above? hangs] at nameless
  exact List.append_ne_nil_of_right_ne_nil _ (List.cons_ne_nil _ _) nameless

end Sound

/-- A path leads to the child that its last name has below the node of the others. -/
theorem node?_concat (names : Names) (name : String) :
    ruleset.node? (names ++ [name]) = (ruleset.node? names).bind fun node => ruleset.child? node name := by
  unfold node?
  rw [List.foldlM_append]
  cases names.foldlM ruleset.child? root with
  | none => rfl
  | some node => simp only [List.foldlM_cons, List.foldlM_nil, bind_pure, Option.bind_eq_bind, Option.bind_some]

namespace Sound

/-- The names of a node lead to it. -/
theorem node?_names (sound : ruleset.Sound) {node : Node} (known : ruleset.Has node) :
    ruleset.node? (ruleset.names node) = some node := by
  induction node using Nat.strongRecOn with
  | ind node ih =>
      by_cases first : node = root
      · rw [first, names_eq_nil above?_root]
        rfl
      · obtain ⟨above, hangs⟩ := sound.hangs known first
        have earlier := above?_lt hangs
        rw [names_of_above? hangs, node?_concat, ih above earlier (Nat.lt_trans earlier known), Option.bind_some]
        exact sound.child?_eq_some_iff.mpr ⟨hangs, rfl⟩

/-- What names lead to is a node with those names. -/
theorem names_of_node? (sound : ruleset.Sound) {names : Names} {node : Node}
    (found : ruleset.node? names = some node) : ruleset.Has node ∧ ruleset.names node = names := by
  induction names using List.reverseRecOn generalizing node with
  | nil =>
      obtain rfl := Option.some.inj found
      exact ⟨sound.rooted, names_eq_nil above?_root⟩
  | append_singleton names name ih =>
      rw [node?_concat] at found
      obtain ⟨above, reached, hangs⟩ := Option.bind_eq_some_iff.mp found
      exact ⟨sound.has_of_child? hangs, by rw [sound.names_of_child? hangs, (ih reached).2]⟩

/-- **Paths.**  Names lead to the node whose names they are, and to no other one. -/
theorem node?_eq_some_iff (sound : ruleset.Sound) {names : Names} {node : Node} :
    ruleset.node? names = some node ↔ ruleset.Has node ∧ ruleset.names node = names := by
  refine ⟨sound.names_of_node?, ?_⟩
  rintro ⟨known, rfl⟩
  exact sound.node?_names known

end Sound

/-! ## Growth -/

/-- From a node of a ruleset the names lead to a node of what the ruleset has grown to.  The nodes that are new
have these names and carry no rules, and the old ones are as they were. -/
structure Leads (ruleset : Ruleset) (node : Node) (below : Names) (grown : Ruleset) (reached : Node) : Prop where
  sound : grown.Sound
  extended : ruleset.Extends grown
  blueprint?_eq : ∀ place, grown.blueprint? place = ruleset.blueprint? place
  named : ∀ {place : Node}, grown.Has place → ruleset.Has place ∨ grown.lastName place ∈ below
  has : grown.Has reached
  names_eq : grown.names reached = ruleset.names node ++ below

/-- A node that is grown if it is missing is found by its name afterwards. -/
theorem leads_grown (sound : ruleset.Sound) {node : Node} (known : ruleset.Has node) (name : String) :
    ruleset.Leads node [name] (ruleset.grown node name).1 (ruleset.grown node name).2 := by
  unfold grown
  cases found : ruleset.child? node name with
  | some child =>
      exact ⟨sound, .refl ruleset, fun _ => rfl, .inl, sound.has_of_child? found, sound.names_of_child? found⟩
  | none =>
      have hung := sound.hang known found
      simp only [known, ↓reduceDIte]
      refine ⟨hung, extends_hang known name, blueprint?_hang known name, fun {place} inside => ?_, ?_, ?_⟩
      · rw [Has, length_hang] at inside
        rcases Nat.lt_or_eq_of_le (Nat.le_of_lt_succ inside) with old | rfl
        · exact .inl old
        · rw [lastName_hang, if_pos rfl]
          exact .inr List.mem_cons_self
      · rw [Has, length_hang]
        exact Nat.lt_succ_self _
      · have hangs : (ruleset.hang node known name).above? ruleset.nodes.length = some node := by
          rw [above?_hang, if_pos rfl]
        rw [names_of_above? hangs, lastName_hang, if_pos rfl, (extends_hang known name).names_eq known]

/-- A path whose nodes are grown where they are missing is found by its names afterwards. -/
theorem leads_path (sound : ruleset.Sound) {node : Node} (known : ruleset.Has node) (below : Names) :
    ruleset.Leads node below (ruleset.path node below).1 (ruleset.path node below).2 := by
  induction below generalizing ruleset node with
  | nil => exact ⟨sound, .refl ruleset, fun _ => rfl, .inl, known, (List.append_nil _).symm⟩
  | cons name rest ih =>
      have first := leads_grown sound known name
      have further := ih first.sound first.has
      refine ⟨further.sound, first.extended.trans further.extended, fun place => ?_, fun inside => ?_,
        further.has, ?_⟩
      · exact (further.blueprint?_eq place).trans (first.blueprint?_eq place)
      · rcases further.named inside with earlier | listed
        · rcases first.named earlier with old | own
          · exact .inl old
          · rw [← further.extended.lastName_eq earlier, List.mem_singleton] at own
            exact .inr (List.mem_cons.mpr (.inl own))
        · exact .inr (List.mem_cons_of_mem _ listed)
      · exact further.names_eq.trans (by rw [first.names_eq, List.append_assoc, List.singleton_append])

end Vetting.Ruleset
