import Vetting.Proofs.Validation.Licence

/-!
# The family of a schema

A validation opens no schema from outside the family of the schema that it is asked about, and none that has an
error (`Schema.obeys_freely`).
-/

namespace Vetting.Schema

variable {schema part other : Schema}

/-- A further call brings the schemas inside its arguments. -/
theorem parts_withCall (schema : Schema) (handle : Handle) (node : Node) (arguments : Arguments Schema) :
    (schema.withCall handle node arguments).parts = schema.parts ++ arguments.flatMap Argument.parts := by
  rw [parts, calls_withCall, List.flatMap_append, List.flatMap_singleton]
  rfl

/-- The family of a schema is the schema and the families of its parts. -/
theorem family_eq (schema : Schema) : schema.family = schema :: schema.parts.flatMap family := by
  rw [family, List.flatMap_subtype fun _ _ => rfl, List.unattach_attach]

/-- A schema belongs to its own family. -/
theorem mem_family_self (schema : Schema) : schema ∈ schema.family := by
  rw [family_eq]
  exact List.mem_cons_self

/-- The family of a part belongs to that of the whole. -/
theorem mem_family_of_part (member : part ∈ schema.parts) (inside : other ∈ part.family) :
    other ∈ schema.family := by
  rw [family_eq]
  exact List.mem_cons_of_mem _ (List.mem_flatMap.mpr ⟨part, member, inside⟩)

/-- Where all parts of schemas are at hand, their families are. -/
theorem family_subset {schemas : List Schema} (complete : ∀ schema ∈ schemas, schema.parts ⊆ schemas)
    (held : schema ∈ schemas) : schema.family ⊆ schemas := by
  have everywhere : schema.Everywhere fun _ => True := everywhere_of_forall (fun _ => trivial) schema
  induction everywhere with
  | @intro schema _ _ ih =>
      rw [family_eq]
      refine List.cons_subset.mpr ⟨held, fun other member => ?_⟩
      obtain ⟨part, inside, deeper⟩ := List.mem_flatMap.mp member
      exact ih part inside (complete schema held inside) deeper

/-- A schema of the family has that handle and no error. -/
def Reaches (schema : Schema) (handle : Handle) : Prop :=
  ∃ part ∈ schema.family, part.handle = handle ∧ part.error = none

/-- What a part reaches is reached by the whole. -/
theorem reaches_of_part {handle : Handle} (member : part ∈ schema.parts) (reaches : part.Reaches handle) :
    schema.Reaches handle := by
  obtain ⟨other, inside, named, sound⟩ := reaches
  exact ⟨other, mem_family_of_part member inside, named, sound⟩

/-- A validation may open what the schema reaches, and wait as long as it likes. -/
def freely (schema : Schema) : Run.Licence :=
  ⟨schema.Reaches, True⟩

/-- Whatever a validation opens is reached by the schema. -/
theorem obeys_freely (setting : Setting) (schema : Schema) : (schema.checked setting).Obeys schema.freely := by
  have everywhere : schema.Everywhere fun _ => True := everywhere_of_forall (fun _ => trivial) schema
  induction everywhere with
  | @intro schema _ _ ih =>
      refine obeys_checked (fun part member => ?_) (fun sound => ?_) fun _ _ entry _ => ?_
      · exact (ih part member).mono (fun _ => reaches_of_part member) fun _ => trivial
      · exact ⟨schema, mem_family_self schema, rfl, sound⟩
      · exact entry.rule.tame_of_waits trivial

end Vetting.Schema
