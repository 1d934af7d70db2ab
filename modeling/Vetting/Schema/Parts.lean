import Vetting.Schema.Basic

/-!
# The parts of a schema

The schemas among the arguments of the calls are the parts of a schema.  Parts have parts of their own; all of
them together are the family of the schema.
-/

namespace Vetting

variable {σ : Type}

/-- The schemas in an argument. -/
def Argument.parts : Argument σ → List σ
  | schema content => [content]
  | keys content => content.map Prod.snd
  | _ => []

/-- The schemas in the arguments of a call. -/
def Call.parts (call : Call σ) : List σ :=
  call.arguments.flatMap Argument.parts

namespace Schema

/-- The schemas that the calls bring along. -/
def parts (schema : Schema) : List Schema :=
  schema.calls.flatMap Call.parts

/-- A schema inside an argument is smaller than the argument. -/
theorem sizeOf_part_argument {argument : Argument Schema} {part : Schema}
    (member : part ∈ argument.parts) : sizeOf part < sizeOf argument := by
  cases argument with
  | schema content =>
      obtain rfl := List.mem_singleton.mp member
      simp only [Argument.schema.sizeOf_spec]
      omega
  | keys content =>
      obtain ⟨⟨name, schema⟩, entry, rfl⟩ := List.mem_map.mp member
      have := List.sizeOf_lt_of_mem entry
      simp only [Prod.mk.sizeOf_spec, Argument.keys.sizeOf_spec] at this ⊢
      omega
  | _ => cases member

/-- A part is smaller than the schema. -/
theorem sizeOf_part {schema part : Schema} (member : part ∈ schema.parts) :
    sizeOf part < sizeOf schema := by
  obtain ⟨call, called, inCall⟩ := List.mem_flatMap.mp member
  obtain ⟨argument, given, inArgument⟩ := List.mem_flatMap.mp inCall
  have inner := sizeOf_part_argument inArgument
  have middle := List.sizeOf_lt_of_mem given
  have outer := List.sizeOf_lt_of_mem (List.mem_reverse.mp called)
  obtain ⟨node, arguments⟩ := call
  obtain ⟨handle, ruleset, scope, newestFirst, error⟩ := schema
  simp only [Call.mk.sizeOf_spec, Schema.mk.sizeOf_spec] at inner middle outer ⊢
  omega

/-- The schema, its parts, their parts, and so on. -/
def family (schema : Schema) : List Schema :=
  schema :: schema.parts.attach.flatMap fun ⟨part, _member⟩ => part.family
termination_by sizeOf schema
decreasing_by exact sizeOf_part _member

end Schema

end Vetting
