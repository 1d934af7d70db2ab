import Vetting.Proofs.Rule.Translation

/-!
# Translating the entries of an assembly

An assembly looks at its entries through its wiring alone.  So a translation that the wiring does not notice
can be made before the assembly or after it (`Wiring.assemble_map`).  Translating the schemas inside rules is
one if it keeps their handles (`Instance.assemble_map`), and so is putting other predicates of the same identities
into them (`Instance.assemble_recast`).
-/

namespace Vetting

namespace Wiring

variable {ι κ ε : Type}

/-- The second wiring does to translated entries what the first one does to the entries themselves. -/
structure Translates (translate : ι → κ) (first : Wiring ι ε) (second : Wiring κ ε) : Prop where
  priority : ∀ entry, second.priority (translate entry) = first.priority entry
  same : ∀ left right, second.same (translate left) (translate right) = first.same left right
  operates : ∀ entry, second.operates (translate entry) = first.operates entry
  wire : ∀ entry siblings, second.wire (translate entry) (siblings.map translate) =
    (first.wire entry siblings).map fun outcome => (translate outcome.1, outcome.2.map translate)

namespace Translates

variable {translate : ι → κ} {first : Wiring ι ε} {second : Wiring κ ε}
  (translates : Translates translate first second)

include translates

/-- An entry is put in its place before a translation as after it. -/
theorem inserted (entry : ι) (entries : List ι) :
    second.inserted (translate entry) (entries.map translate) =
      (first.inserted entry entries).map translate := by
  induction entries with
  | nil => rfl
  | cons other rest ih =>
      simp only [List.map_cons, Wiring.inserted, translates.priority]
      by_cases earlier : first.priority entry ≤ first.priority other
      · simp only [earlier, ↓reduceIte, List.map_cons]
      · simp only [earlier, ↓reduceIte, List.map_cons, ih]

/-- Entries are ordered before a translation as after it. -/
theorem ordered (entries : List ι) :
    second.ordered (entries.map translate) = (first.ordered entries).map translate := by
  induction entries with
  | nil => rfl
  | cons entry rest ih =>
      unfold Wiring.ordered at ih ⊢
      rw [List.map_cons, List.foldr_cons, List.foldr_cons, ih, translates.inserted]

/-- Entries are sifted before a translation as after it. -/
theorem sifted (before : List ι) (entry : ι) :
    second.sifted (before.map translate) (translate entry) = (first.sifted before entry).map translate := by
  simp only [Wiring.sifted, translates.operates, List.filter_map, Function.comp_def, translates.same]
  by_cases operates : first.operates entry = true
  · simp only [operates, ↓reduceIte, List.map_append, List.map_cons, List.map_nil]
  · simp only [operates, Bool.false_eq_true, ↓reduceIte]

/-- Rounds come to the same before a translation as after it. -/
theorem settle (rounds : Nat) (before after : List ι) :
    second.settle rounds (before.map translate) (after.map translate) =
      (first.settle rounds before after).map (List.map translate) := by
  induction rounds generalizing before after with
  | zero => rfl
  | succ rounds ih =>
      cases after with
      | nil => rfl
      | cons entry rest =>
          have wired := translates.wire entry ⟨before, rest⟩
          simp only [Siblings.map] at wired
          simp only [List.map_cons, Wiring.settle, wired]
          cases first.wire entry ⟨before, rest⟩ with
          | error failure => rfl
          | ok outcome => simp only [Except.map, translates.sifted, ih]

/-- An assembly comes to the same before a translation as after it. -/
theorem assemble (entries : List ι) :
    second.assemble (entries.map translate) = (first.assemble entries).map (List.map translate) := by
  have settled := translates.settle entries.length [] (first.ordered entries)
  rw [List.map_nil] at settled
  rw [Wiring.assemble, Wiring.assemble, List.length_map, translates.ordered, settled]

end Translates

end Wiring

/-- A translation of things with handles that keeps the handles. -/
def KeepsHandles {σ τ : Type} [Identified σ] [Identified τ] (f : σ → τ) : Prop :=
  ∀ schema, Identified.handle (f schema) = Identified.handle schema

/-- Another predicate of its identity for every predicate. -/
def KeepsIdentities (g : Predicate → Predicate) : Prop :=
  ∀ predicate, (g predicate).identity = predicate.identity

section Handles

variable {σ τ : Type} [Identified σ] [Identified τ] {f : σ → τ} {g : Predicate → Predicate}
  (keeps : KeepsHandles f) (steady : KeepsIdentities g)

include keeps

/-- Translated key maps have the same handles. -/
theorem Argument.handles_map (entries : Members σ) :
    handles (entries.map fun (name, entry) => (name, f entry)) = handles entries := by
  simp only [handles, List.map_map, Function.comp_def, keeps _]

include steady

/-- Recast arguments are the same exactly if they were before. -/
theorem Argument.same_recast (left right : Argument σ) :
    (left.recast f g).same (right.recast f g) = left.same right := by
  cases left with
  | schema content =>
      cases right with
      | schema other => simp only [recast, map, same, keeps content, keeps other]
      | _ => rfl
  | keys content =>
      cases right with
      | keys other => simp only [recast, map, same, handles_map keeps]
      | _ => rfl
  | predicate content =>
      cases right with
      | predicate other => simp only [recast, same, steady content, steady other]
      | _ => rfl
  | _ => cases right <;> rfl

/-- Recast lists of arguments are the same exactly if they were before. -/
theorem Arguments.same_recast (left right : Arguments σ) :
    same (left.map (Argument.recast f g)) (right.map (Argument.recast f g)) = same left right := by
  induction left generalizing right with
  | nil => cases right <;> rfl
  | cons argument rest ih =>
      cases right with
      | nil => rfl
      | cons other others => simp only [List.map_cons, same, Argument.same_recast keeps steady, ih]

/-- Wiring, ordering and sifting look at no more of a schema than its handle, and at no more of a predicate than its
identity. -/
theorem Instance.wiring_translates :
    Wiring.Translates (Instance.recast f g) (wiring : Wiring (Instance σ) SchemaFault) wiring where
  priority entry := Rule.priority_recast f g entry.rule
  same left right := by
    simp only [wiring, Instance.same, Instance.recast, Rule.name_recast, Arguments.same_recast keeps steady]
  operates entry := Rule.operates_recast f g entry.rule
  wire entry siblings := by
    simp only [wiring, wire, Instance.recast, Rule.wire_recast, Rule.name_recast]
    cases entry.rule.wire entry.arguments siblings <;> rfl

/-- Schemas and predicates inside rules can be recast before an assembly or after it. -/
theorem Instance.assemble_recast (entries : List (Instance σ)) :
    assemble (entries.map (recast f g)) = (assemble entries).map (List.map (recast f g)) :=
  (wiring_translates keeps steady).assemble entries

omit steady

/-- Translated lists of arguments are the same exactly if they were before. -/
theorem Arguments.same_map (left right : Arguments σ) :
    same (left.map (Argument.map f)) (right.map (Argument.map f)) = same left right := by
  have recast_id : Argument.recast f id = Argument.map f := funext (Argument.recast_id f)
  rw [← recast_id]
  exact same_recast keeps (fun _ => rfl) left right

/-- Translated instances are the same call exactly if they were before. -/
theorem Instance.same_map (left right : Instance σ) : same (left.map f) (right.map f) = same left right := by
  simp only [same, map, Rule.name_map, Arguments.same_map keeps]

/-- Schemas inside rules can be translated before an assembly or after it. -/
theorem Instance.assemble_map (entries : List (Instance σ)) :
    assemble (entries.map (map f)) = (assemble entries).map (List.map (map f)) := by
  have recast_id : (recast f id : Instance σ → Instance τ) = map f := funext (Instance.recast_id f)
  rw [← recast_id]
  exact assemble_recast keeps (fun _ => rfl) entries

end Handles

end Vetting
