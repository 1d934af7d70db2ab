import Vetting.Rule.Basic

/-!
# Rulesets

A ruleset is a tree of names.  A node has a name and hangs below another one, the root excepted; it may carry a
rule, and is also a place to look for further names.  A name that is asked for in a node is looked for right
below it, then right below the node above, and so on up to the root.

Nodes are numbered in the order in which they come into being, and keep their numbers.  So the node above has
the lower number, and every way up comes to an end.
-/

namespace Vetting

/-- A rule that has not been wired, and so has no schemas inside. -/
abbrev Blueprint := Rule Empty

/-- The rule to be wired. -/
def Blueprint.fresh {σ : Type} (blueprint : Blueprint) : Rule σ :=
  blueprint.map Empty.elim

/-- The number of a node. -/
abbrev Node := Nat

/-- The names that lead to a node, from the root on. -/
abbrev Names := List String

/-- What is known of a node. -/
structure NodeEntry where
  /-- The last of the names that lead to the node. -/
  name : String
  blueprint? : Option Blueprint
  /-- The node that it hangs below. -/
  above? : Option Node
  /-- The nodes that hang right below it. -/
  below : Members Node

/-- The nodes in the order of their numbers. -/
structure Ruleset where
  nodes : List NodeEntry
  /-- A node comes into being after the one that it hangs below. -/
  rising : ∀ {node : Node} {entry : NodeEntry} {above : Node}, nodes[node]? = some entry →
    entry.above? = some above → above < node

namespace Ruleset

open Vetting.Text

/-- The root. -/
def root : Node := 0

/-- The root alone. -/
def empty : Ruleset where
  nodes := [⟨"", none, none, []⟩]
  rising := by
    intro node entry above found hangs
    obtain rfl := List.mem_singleton.mp (List.mem_of_getElem? found)
    cases hangs

/-- The last of the names that lead to a node. -/
def lastName (ruleset : Ruleset) (node : Node) : String :=
  (ruleset.nodes[node]?.map NodeEntry.name).getD ""

/-- The rule of a node. -/
def blueprint? (ruleset : Ruleset) (node : Node) : Option Blueprint :=
  ruleset.nodes[node]?.bind NodeEntry.blueprint?

/-- The node above. -/
def above? (ruleset : Ruleset) (node : Node) : Option Node :=
  ruleset.nodes[node]?.bind NodeEntry.above?

/-- The nodes right below. -/
def below (ruleset : Ruleset) (node : Node) : Members Node :=
  (ruleset.nodes[node]?.map NodeEntry.below).getD []

/-- The node right below that has the name. -/
def child? (ruleset : Ruleset) (node : Node) (name : String) : Option Node :=
  (ruleset.below node).get? name

/-- A node hangs below one that has been made before it. -/
theorem above?_lt {ruleset : Ruleset} {node above : Node} (hangs : ruleset.above? node = some above) :
    above < node := by
  obtain ⟨entry, found, hangs⟩ := Option.bind_eq_some_iff.mp hangs
  exact ruleset.rising found hangs

/-- Hangs a new node below a known one. -/
def hang (ruleset : Ruleset) (node : Node) (known : node < ruleset.nodes.length) (name : String) : Ruleset where
  nodes := (ruleset.nodes.modify node fun entry =>
    { entry with below := entry.below.put name ruleset.nodes.length }) ++ [⟨name, none, some node, []⟩]
  rising := by
    intro place entry above found hangs
    rw [List.getElem?_append, List.length_modify] at found
    split at found
    next =>
      rw [List.getElem?_modify] at found
      obtain ⟨old, stood, rfl⟩ := Option.map_eq_some_iff.mp found
      refine ruleset.rising stood ?_
      split at hangs
      · exact hangs
      · exact hangs
    next new =>
      obtain rfl := List.mem_singleton.mp (List.mem_of_getElem? found)
      obtain rfl := Option.some.inj hangs
      exact Nat.lt_of_lt_of_le known (Nat.le_of_not_lt new)

/-- The node right below that has the name, made if it is missing. -/
def grown (ruleset : Ruleset) (node : Node) (name : String) : Ruleset × Node :=
  match ruleset.child? node name with
  | some child => (ruleset, child)
  | none =>
    if known : node < ruleset.nodes.length then (ruleset.hang node known name, ruleset.nodes.length)
    else (ruleset, node)

/-- The node that the names lead to on the way down from a node; what is missing on the way is made. -/
def path (ruleset : Ruleset) (node : Node) : Names → Ruleset × Node
  | [] => (ruleset, node)
  | name :: rest =>
    let (grown, child) := ruleset.grown node name
    grown.path child rest

/-- Gives a node a rule, in place of an earlier one. -/
def bind (ruleset : Ruleset) (node : Node) (blueprint : Blueprint) : Ruleset where
  nodes := ruleset.nodes.modify node fun entry => { entry with blueprint? := some blueprint }
  rising := by
    intro place entry above found hangs
    rw [List.getElem?_modify] at found
    obtain ⟨old, stood, rfl⟩ := Option.map_eq_some_iff.mp found
    refine ruleset.rising stood ?_
    split at hangs
    · exact hangs
    · exact hangs

/-- Adds a rule under its names, and the nodes on the way to it; tells the node of the rule. -/
def place (ruleset : Ruleset) (names : Names) (blueprint : Blueprint) : Ruleset × Node :=
  let (grown, node) := ruleset.path root names
  (grown.bind node blueprint, node)

/-- Adds a rule under its names. -/
def add (ruleset : Ruleset) (names : Names) (blueprint : Blueprint) : Ruleset :=
  (ruleset.place names blueprint).1

/-- The names between the dots of a qualified name. -/
def split (name : String) : Names :=
  piecesOf '.' name

/-- Adds a rule under its own name. -/
def addNamed (ruleset : Ruleset) (blueprint : Blueprint) : Ruleset :=
  ruleset.add (split blueprint.name) blueprint

/-- The node that the names lead to. -/
def node? (ruleset : Ruleset) (names : Names) : Option Node :=
  names.foldlM ruleset.child? root

/-- The names that lead to a node. -/
def names (ruleset : Ruleset) (node : Node) : Names :=
  match _hangs : ruleset.above? node with
  | some above => ruleset.names above ++ [ruleset.lastName node]
  | none => []
termination_by node
decreasing_by exact above?_lt _hangs

/-- The node that a name stands for in a scope. -/
def lookUp (ruleset : Ruleset) (scope : Node) (method : String) : Option Node :=
  match ruleset.child? scope method with
  | some node => some node
  | none =>
    match _hangs : ruleset.above? scope with
    | some above => ruleset.lookUp above method
    | none => none
termination_by scope
decreasing_by exact above?_lt _hangs

/-- A node and those above it, up to the root. -/
def lineage (ruleset : Ruleset) (node : Node) : List Node :=
  node :: match _hangs : ruleset.above? node with
    | some above => ruleset.lineage above
    | none => []
termination_by node
decreasing_by exact above?_lt _hangs

/-- The names that a scope knows, with the nodes that they stand for; those of the root come first, and a
deeper node takes the place of one of the same name. -/
def knownNames (ruleset : Ruleset) (scope : Node) : Members Node :=
  (ruleset.lineage scope).reverse.foldl (fun known node => known.putAll (ruleset.below node)) []

/-- The node of a qualified name. -/
def find (ruleset : Ruleset) (name : String) : Option Node :=
  ruleset.node? (split name)

/-- There is a rule of that qualified name. -/
def contains (ruleset : Ruleset) (name : String) : Bool :=
  ((ruleset.find name).bind ruleset.blueprint?).isSome

/-- The qualified name of a node. -/
def dottedName (ruleset : Ruleset) (node : Node) : String :=
  ".".intercalate (ruleset.names node)

/-- The qualified names of all rules, in the order of their nodes. -/
def boundNames (ruleset : Ruleset) : List String :=
  ((List.range ruleset.nodes.length).filter fun node => (ruleset.blueprint? node).isSome).map
    ruleset.dottedName

/-- How many nodes carry a rule. -/
def size (ruleset : Ruleset) : Nat :=
  ruleset.nodes.countP fun entry => entry.blueprint?.isSome

end Ruleset

end Vetting
