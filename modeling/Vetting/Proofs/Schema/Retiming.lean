import Vetting.Proofs.Schema.Parts

/-!
# Folding and retiming schemas

A schema is folded from its parts upwards: something is made of every part, and then of the schema, whose calls
bring what was made of the parts (`Schema.fold_eq`).

A timing says how often each predicate pauses over each value.  A schema is retimed by giving all predicates in it,
at every depth, the pauses of a timing (`Schema.retimed`).  It calls the same rules in the same order then
(`Schema.calls_retimed`), and the same rules come out of its assembly (`Schema.assemble_retimed`).
-/

namespace Vetting

variable {σ τ υ : Type}

/-! ## Folding -/

/-- A schema with something else in place of its parts. -/
structure Outline (σ : Type) where
  handle : Handle
  ruleset : Ruleset
  scope : Node
  calls : List (Call σ)
  error : Option SchemaFault

mutual

/-- What is made of the schema, once something has been made of its parts. -/
def Schema.fold (make : Outline τ → τ) : Schema → τ
  | ⟨handle, ruleset, scope, newestFirst, error⟩ =>
    make ⟨handle, ruleset, scope, (foldCalls make newestFirst).reverse, error⟩

/-- The calls with what is made of their schemas. -/
def foldCalls (make : Outline τ → τ) : List (Call Schema) → List (Call τ)
  | [] => []
  | ⟨node, arguments⟩ :: rest => ⟨node, foldArguments make arguments⟩ :: foldCalls make rest

/-- The arguments with what is made of their schemas. -/
def foldArguments (make : Outline τ → τ) : List (Argument Schema) → List (Argument τ)
  | [] => []
  | argument :: rest => foldArgument make argument :: foldArguments make rest

/-- An argument with what is made of its schemas. -/
def foldArgument (make : Outline τ → τ) : Argument Schema → Argument τ
  | .value value => .value value
  | .schema schema => .schema (Schema.fold make schema)
  | .keys keys => .keys (foldKeys make keys)
  | .regex regex => .regex regex
  | .comparator comparator => .comparator comparator
  | .predicate predicate => .predicate predicate

/-- A key map with what is made of its schemas. -/
def foldKeys (make : Outline τ → τ) : List (String × Schema) → List (String × τ)
  | [] => []
  | (name, schema) :: rest => (name, Schema.fold make schema) :: foldKeys make rest

end

/-- The entries of a key map are folded one by one. -/
theorem foldKeys_eq (make : Outline τ → τ) (keys : List (String × Schema)) :
    foldKeys make keys = keys.map fun (name, schema) => (name, schema.fold make) := by
  induction keys with
  | nil => rw [foldKeys, List.map_nil]
  | cons entry rest ih =>
      obtain ⟨name, schema⟩ := entry
      rw [foldKeys, ih, List.map_cons]

/-- An argument is folded by translating its schemas. -/
theorem foldArgument_eq (make : Outline τ → τ) (argument : Argument Schema) :
    foldArgument make argument = argument.map (Schema.fold make) := by
  cases argument with
  | keys content => rw [foldArgument, foldKeys_eq, Argument.map]
  | _ => rw [foldArgument, Argument.map]

/-- Arguments are folded one by one. -/
theorem foldArguments_eq (make : Outline τ → τ) (arguments : Arguments Schema) :
    foldArguments make arguments = arguments.map (Argument.map (Schema.fold make)) := by
  induction arguments with
  | nil => rw [foldArguments, List.map_nil]
  | cons argument rest ih => rw [foldArguments, foldArgument_eq, ih, List.map_cons]

/-- Calls are folded one by one. -/
theorem foldCalls_eq (make : Outline τ → τ) (calls : List (Call Schema)) :
    foldCalls make calls = calls.map (Call.map (Schema.fold make)) := by
  induction calls with
  | nil => rw [foldCalls, List.map_nil]
  | cons call rest ih =>
      obtain ⟨node, arguments⟩ := call
      rw [foldCalls, foldArguments_eq, ih, List.map_cons, Call.map]

/-- A schema is folded after its parts. -/
theorem Schema.fold_eq (make : Outline τ → τ) (schema : Schema) :
    schema.fold make =
      make ⟨schema.handle, schema.ruleset, schema.scope, schema.calls.map (Call.map (fold make)), schema.error⟩ := by
  obtain ⟨handle, ruleset, scope, newestFirst, error⟩ := schema
  rw [fold, foldCalls_eq, calls, List.map_reverse]

/-! ## Recasting calls -/

/-- The call with other predicates in it, and a translation of every schema. -/
def Call.recast (f : σ → τ) (g : Predicate → Predicate) (call : Call σ) : Call τ :=
  ⟨call.node, call.arguments.map (Argument.recast f g)⟩

/-- Schemas and predicates of an argument may be replaced one after the other. -/
theorem Argument.recast_map (f : σ → τ) (g : Predicate → Predicate) (argument : Argument σ) :
    (argument.map f).recast id g = argument.recast f g := by
  cases argument with
  | keys content => simp only [map, recast, List.map_map, Function.comp_def, id]
  | _ => rfl

/-- Schemas and predicates of a call may be replaced one after the other. -/
theorem Call.recast_map (f : σ → τ) (g : Predicate → Predicate) (call : Call σ) :
    (call.map f).recast id g = call.recast f g := by
  simp only [map, recast, List.map_map, Function.comp_def, Argument.recast_map]

/-- No standard rule judges by a predicate before it is wired. -/
theorem Rule.recast_fresh (f : σ → τ) (g : Predicate → Predicate) {blueprint : Blueprint}
    (known : blueprint ∈ Ruleset.standardRules) :
    (blueprint.fresh : Rule σ).recast f g = blueprint.fresh := by
  rw [← Rule.map_fresh f blueprint]
  have unwired := Rule.unwired_of_standard known
  cases blueprint with
  | custom predicate =>
      cases unwired
      rfl
  | _ => rfl

/-- Calls of standard rules bring the same rules along, whatever predicates and schemas are in them. -/
theorem Ruleset.instances_recast (f : σ → τ) (g : Predicate → Predicate) {ruleset : Ruleset} {calls : List (Call σ)}
    (standard : ∀ call ∈ calls, ∀ blueprint, ruleset.blueprint? call.node = some blueprint →
      blueprint ∈ standardRules) :
    ruleset.instances (calls.map (Call.recast f g)) = (ruleset.instances calls).map (Instance.recast f g) := by
  unfold instances
  rw [List.filterMap_map, List.map_filterMap]
  apply List.filterMap_congr
  intro call called
  simp only [Function.comp_apply, Call.recast, Option.map_map]
  cases bound : ruleset.blueprint? call.node with
  | none => rfl
  | some blueprint =>
      simp only [Option.map_some, Function.comp_apply, Instance.recast,
        Rule.recast_fresh f g (standard call called blueprint bound)]

/-! ## Retiming -/

/-- How often each predicate pauses over each value. -/
abbrev Timing := Predicate → Value → Nat

/-- The predicate with the pauses of a timing; its judgement stays. -/
def Predicate.retimed (timing : Timing) (predicate : Predicate) : Predicate :=
  { predicate with pauses := timing predicate }

/-- Retimed predicates keep their identities. -/
theorem Predicate.retimed_keepsIdentities (timing : Timing) : KeepsIdentities (retimed timing) :=
  fun _ => rfl

namespace Schema

variable (timing : Timing) (schema : Schema)

/-- The schema with the pauses of a timing for all predicates in it. -/
def retimed : Schema → Schema :=
  fold fun outline => {
    handle := outline.handle
    ruleset := outline.ruleset
    scope := outline.scope
    newestFirst := (outline.calls.map (Call.recast id (Predicate.retimed timing))).reverse
    error := outline.error }

/-- Retimed schemas keep their handles. -/
theorem retimed_keepsHandles : KeepsHandles (retimed timing) := by
  intro schema
  rw [retimed, fold_eq]
  rfl

/-- A retimed schema has the same ruleset. -/
theorem ruleset_retimed : (schema.retimed timing).ruleset = schema.ruleset := by
  rw [retimed, fold_eq]

/-- A retimed schema has the same error. -/
theorem error_retimed : (schema.retimed timing).error = schema.error := by
  rw [retimed, fold_eq]

/-- A retimed schema calls the same rules, with retimed arguments. -/
theorem calls_retimed :
    (schema.retimed timing).calls = schema.calls.map (Call.recast (retimed timing) (Predicate.retimed timing)) := by
  conv_lhs => rw [retimed, fold_eq]
  rw [calls, List.reverse_reverse, List.map_map]
  exact List.map_congr_left fun call _ => Call.recast_map _ _ call

/-- The rules of a retimed schema are its rules retimed. -/
theorem assemble_retimed {schema : Schema} (standard : schema.CallsStandard) :
    Instance.assemble ((schema.retimed timing).ruleset.instances (schema.retimed timing).calls) =
      (Instance.assemble (schema.ruleset.instances schema.calls)).map
        (List.map (Instance.recast (retimed timing) (Predicate.retimed timing))) := by
  rw [ruleset_retimed, calls_retimed, Ruleset.instances_recast _ _ standard]
  exact Instance.assemble_recast (retimed_keepsHandles timing) (Predicate.retimed_keepsIdentities timing) _

end Schema

end Vetting
