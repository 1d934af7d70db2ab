import Vetting.Proofs.Ruleset.Registration

/-!
# Looking names up

A name that is asked for in a scope stands for the node of that name below the nearest node on the way up
(`Ruleset.lookUp_longest`).  The names that a scope knows are gathered on the way down, and come to the same
nodes.
-/

namespace Vetting.Ruleset

variable {ruleset : Ruleset} {scope : Node} {method : String}

/-! ## The way up and the way down -/

/-- A method is looked up below the scope first. -/
theorem lookUp_of_child? {node : Node} (found : ruleset.child? scope method = some node) :
    ruleset.lookUp scope method = some node := by
  rw [lookUp, found]

/-- A method that is missing below the scope is looked up from the node above. -/
theorem lookUp_of_above? {above : Node} (missing : ruleset.child? scope method = none)
    (hangs : ruleset.above? scope = some above) : ruleset.lookUp scope method = ruleset.lookUp above method := by
  rw [lookUp, missing]
  dsimp only
  split
  next upper found =>
    obtain rfl := Option.some.inj (hangs.symm.trans found)
    rfl
  next nowhere => cases hangs.symm.trans nowhere

/-- A method that is missing below the root is not found. -/
theorem lookUp_eq_none (missing : ruleset.child? scope method = none) (nowhere : ruleset.above? scope = none) :
    ruleset.lookUp scope method = none := by
  rw [lookUp, missing]
  dsimp only
  split
  next above found => cases nowhere.symm.trans found
  next => rfl

/-- The lineage of a node is the node and the lineage of the one above. -/
theorem lineage_of_above? {above : Node} (hangs : ruleset.above? scope = some above) :
    ruleset.lineage scope = scope :: ruleset.lineage above := by
  rw [lineage]
  split
  next upper found =>
    obtain rfl := Option.some.inj (hangs.symm.trans found)
    rfl
  next nowhere => cases hangs.symm.trans nowhere

/-- The lineage of a node that hangs below nothing is the node alone. -/
theorem lineage_eq_singleton (nowhere : ruleset.above? scope = none) : ruleset.lineage scope = [scope] := by
  rw [lineage]
  split
  next above found => cases nowhere.symm.trans found
  next => rfl

/-- A scope knows what the node above knows, and what hangs right below itself. -/
theorem knownNames_of_above? {above : Node} (hangs : ruleset.above? scope = some above) :
    ruleset.knownNames scope = (ruleset.knownNames above).putAll (ruleset.below scope) := by
  rw [knownNames, lineage_of_above? hangs, List.reverse_cons, List.foldl_append]
  rfl

/-- At the root nothing is known but what hangs below it. -/
theorem knownNames_eq_below (nowhere : ruleset.above? scope = none) :
    ruleset.knownNames scope = Members.putAll [] (ruleset.below scope) := by
  rw [knownNames, lineage_eq_singleton nowhere]
  rfl

/-- No name is known twice. -/
theorem nodup_knownNames (ruleset : Ruleset) (scope : Node) : (ruleset.knownNames scope).names.Nodup := by
  have gathered : ∀ (nodes : List Node) (known : Members Node), known.names.Nodup →
      (nodes.foldl (fun known node => known.putAll (ruleset.below node)) known).names.Nodup := by
    intro nodes
    induction nodes with
    | nil => exact fun _ distinct => distinct
    | cons node rest ih => exact fun known distinct => ih _ (Members.nodup_names_putAll distinct _)
  exact gathered _ [] List.nodup_nil

/-- The two ways agree. -/
theorem get?_knownNames (sound : ruleset.Sound) (scope : Node) (method : String) :
    (ruleset.knownNames scope).get? method = ruleset.lookUp scope method := by
  -- By induction on the way up: what is right below the scope comes first on one way and last on the other.
  induction scope using Nat.strongRecOn with
  | ind scope ih =>
      cases hangs : ruleset.above? scope with
      | none =>
          rw [knownNames_eq_below hangs, Members.get?_putAll (sound.distinct scope), Members.get?_nil, Option.or_none]
          cases found : ruleset.child? scope method with
          | some node => rw [lookUp_of_child? found, ← found, child?]
          | none => rw [lookUp_eq_none found hangs, ← found, child?]
      | some above =>
          rw [knownNames_of_above? hangs, Members.get?_putAll (sound.distinct scope), ih above (above?_lt hangs)]
          change (ruleset.child? scope method).or _ = _
          cases found : ruleset.child? scope method with
          | some node => rw [lookUp_of_child? found, Option.some_or]
          | none => rw [lookUp_of_above? found hangs, Option.none_or]

/-! ## The longest way down -/

/-- Some names on the way to the scope lead to a node with the method right below, and no longer ones do. -/
structure Nearest (ruleset : Ruleset) (way : Names) (method : String) (node : Node) (above : Names) : Prop where
  onWay : above <+: way
  leads : ruleset.node? (above ++ [method]) = some node
  longest : ∀ longer, longer <+: way → above.length < longer.length → ruleset.node? (longer ++ [method]) = none

/-- A child is the node that its whole path leads to. -/
theorem child?_eq_node? (sound : ruleset.Sound) (known : ruleset.Has scope) (method : String) :
    ruleset.child? scope method = ruleset.node? (ruleset.names scope ++ [method]) := by
  rw [node?_concat, sound.node?_names known, Option.bind_some]

/-- A name stands for the nearest node of that name, or for none if there is none on the whole way. -/
theorem lookUp_nearest (sound : ruleset.Sound) (known : ruleset.Has scope) (method : String) :
    match ruleset.lookUp scope method with
    | some node => ∃ above, ruleset.Nearest (ruleset.names scope) method node above
    | none => ∀ above, above <+: ruleset.names scope → ruleset.node? (above ++ [method]) = none := by
  induction scope using Nat.strongRecOn with
  | ind scope ih =>
      have own := child?_eq_node? sound known method
      cases found : ruleset.child? scope method with
      | some node =>
          rw [lookUp_of_child? found]
          refine ⟨ruleset.names scope, List.prefix_refl _, own.symm.trans found, fun longer onWay more => ?_⟩
          exact absurd onWay.length_le (Nat.not_le_of_lt more)
      | none =>
          rw [found] at own
          cases hangs : ruleset.above? scope with
          | none =>
              rw [names_eq_nil hangs] at own ⊢
              rw [lookUp_eq_none found hangs]
              intro above onWay
              rw [List.prefix_nil.mp onWay, ← own]
          | some upper =>
              have further := ih upper (above?_lt hangs) (Nat.lt_trans (above?_lt hangs) known)
              rw [lookUp_of_above? found hangs]
              rw [names_of_above? hangs] at own ⊢
              cases outcome : ruleset.lookUp upper method with
              | none =>
                  rw [outcome] at further
                  intro above onWay
                  rcases List.prefix_concat_iff.mp onWay with whole | inner
                  · rw [whole, ← own]
                  · exact further above inner
              | some node =>
                  rw [outcome] at further
                  obtain ⟨above, nearest⟩ := further
                  refine ⟨above, nearest.onWay.trans (List.prefix_append _ _), nearest.leads, ?_⟩
                  intro longer onWay more
                  rcases List.prefix_concat_iff.mp onWay with whole | inner
                  · rw [whole, ← own]
                  · exact nearest.longest longer inner more

/-- **Scopes.**  However a ruleset has grown, a name that is asked for in a scope stands for the node that it leads
to from the longest beginning of the names of that scope, and for none if there is no such beginning.  The
names that the scope knows are those that stand for something, each once and with the node that it stands for. -/
theorem lookUp_longest (registrations : List Registration) {scope : Node}
    (known : (registered registrations).Has scope) (method : String) :
    (registered registrations).node? ((registered registrations).names scope) = some scope ∧
      (match (registered registrations).lookUp scope method with
        | some node => ∃ above,
            (registered registrations).Nearest ((registered registrations).names scope) method node above
        | none => ∀ above, above <+: (registered registrations).names scope →
            (registered registrations).node? (above ++ [method]) = none) ∧
      ((registered registrations).knownNames scope).names.Nodup ∧
      ((registered registrations).knownNames scope).get? method =
        (registered registrations).lookUp scope method := by
  have sound := sound_registered registrations
  exact ⟨sound.node?_names known, lookUp_nearest sound known method, nodup_knownNames _ scope,
    get?_knownNames sound scope method⟩

/-- A name at the top, and one of the same sort further down. -/
def shadowing : List Registration :=
  [.under ["min"] .any, .under ["number", "min"] .any, .under ["number", "max", "deep"] .any]

/-- Deep down the nearer one of two nodes is meant, which hangs in the middle of the way. -/
theorem lookUp_longest_shadowing :
    (∃ above, (registered shadowing).Nearest ["number", "max", "deep"] "min" 3 above) ∧
      ((registered shadowing).knownNames 5).get? "min" = some 3 := by
  have known : (registered shadowing).Has 5 := by decide +kernel
  have names : (registered shadowing).names 5 = ["number", "max", "deep"] := by decide +kernel
  have meant : (registered shadowing).lookUp 5 "min" = some 3 := by decide +kernel
  obtain ⟨-, nearest, -, same⟩ := lookUp_longest shadowing known "min"
  rw [meant, names] at nearest
  exact ⟨nearest, same.trans meant⟩

end Vetting.Ruleset
