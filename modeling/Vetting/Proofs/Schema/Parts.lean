import Mathlib.Data.Set.List
import Vetting.Proofs.Assembly.Order
import Vetting.Proofs.Assembly.Origin
import Vetting.Proofs.Assembly.Translation
import Vetting.Proofs.Rule.Identity
import Vetting.Schema.Parts
import Vetting.Validation.Engine

/-!
# The parts of a schema

The schemas among the arguments of the calls are the parts of a schema.  A property can be asked of a schema
and of all its parts at every depth (`Schema.Everywhere`), and proved by induction over them.

What a schema comes to inside a validation is told by its own rules, with every part in them translated to
what it comes to itself (`Schema.vet_eq`), and only its parts stand in its rules
(`Schema.exists_assembled_over`).
-/

namespace Vetting

variable {σ τ : Type}

/-! ## Parts -/

/-- The call with a translation of every schema in it. -/
def Call.map (f : σ → τ) (call : Call σ) : Call τ :=
  ⟨call.node, call.arguments.map (Argument.map f)⟩

namespace Schema

/-- The property holds of the schema, of its parts, of their parts, and so on. -/
inductive Everywhere (holds : Schema → Prop) : Schema → Prop where
  | intro {schema : Schema} (here : holds schema)
      (inside : ∀ part ∈ schema.parts, Everywhere holds part) : Everywhere holds schema

/-- What holds of every schema holds of all parts at every depth. -/
theorem everywhere_of_forall {holds : Schema → Prop} (all : ∀ schema, holds schema) (schema : Schema) :
    schema.Everywhere holds :=
  .intro (all schema) fun part _member => everywhere_of_forall all part
termination_by sizeOf schema
decreasing_by exact sizeOf_part _member

end Schema

/-! ## Translating the parts -/

/-- The entries of a key map are checked one by one. -/
theorem checkedKeys_eq (setting : Setting) (keys : List (String × Schema)) :
    checkedKeys setting keys = keys.map fun (name, schema) => (name, schema.checked setting) := by
  induction keys with
  | nil => rw [checkedKeys, List.map_nil]
  | cons entry rest ih =>
      obtain ⟨name, schema⟩ := entry
      rw [checkedKeys, ih, List.map_cons]

/-- An argument is checked by translating its schemas. -/
theorem checkedArgument_eq (setting : Setting) (argument : Argument Schema) :
    checkedArgument setting argument = argument.map (Schema.checked setting) := by
  cases argument with
  | keys content => rw [checkedArgument, checkedKeys_eq, Argument.map]
  | _ => rw [checkedArgument, Argument.map]

/-- Arguments are checked one by one. -/
theorem checkedArguments_eq (setting : Setting) (arguments : Arguments Schema) :
    checkedArguments setting arguments = arguments.map (Argument.map (Schema.checked setting)) := by
  induction arguments with
  | nil => rw [checkedArguments, List.map_nil]
  | cons argument rest ih => rw [checkedArguments, checkedArgument_eq, ih, List.map_cons]

/-- Calls are checked one by one. -/
theorem checkedCalls_eq (setting : Setting) (calls : List (Call Schema)) :
    checkedCalls setting calls = calls.map (Call.map (Schema.checked setting)) := by
  induction calls with
  | nil => rw [checkedCalls, List.map_nil]
  | cons call rest ih =>
      obtain ⟨node, arguments⟩ := call
      rw [checkedCalls, checkedArguments_eq, ih, List.map_cons, Call.map]

/-- Calls bring the same rules along, whatever is made of the schemas in them. -/
theorem Ruleset.instances_map (f : σ → τ) (ruleset : Ruleset) (calls : List (Call σ)) :
    ruleset.instances (calls.map (Call.map f)) = (ruleset.instances calls).map (Instance.map f) := by
  unfold instances
  rw [List.filterMap_map, List.map_filterMap]
  congr 1
  funext call
  simp only [Function.comp_apply, Call.map, Option.map_map]
  cases ruleset.blueprint? call.node with
  | none => rfl
  | some blueprint => simp only [Option.map_some, Function.comp_apply, Instance.map, Rule.map_fresh]

namespace Schema

/-- A checked schema keeps its handle. -/
@[simp] theorem handle_checked (setting : Setting) (schema : Schema) :
    (schema.checked setting).handle = schema.handle := by
  obtain ⟨handle, ruleset, scope, newestFirst, error⟩ := schema
  rw [checked]
  rfl

/-- Checking keeps handles. -/
theorem checked_keepsHandles (setting : Setting) : KeepsHandles (checked setting) :=
  handle_checked setting

/-- What the entries of an assembly make of a value, with every schema in them translated. -/
def judged (setting : Setting) (translate : σ → Checked) (path : Path) (value : Value) :
    Except SchemaFault (List (Instance σ)) → Run (Except Misuse Outcome)
  | .error error => .done (.error (.schema error))
  | .ok entries => vetWith setting (entries.map fun entry => entry.rule.map translate) path value

/-- A schema with an error has no outcome; any other is opened, and then its rules judge the value. -/
theorem vet_eq (schema : Schema) (setting : Setting) (path : Path) (value : Value) :
    schema.vet setting path value =
      match schema.error with
      | some error => .done (.error (.schema error))
      | none => .opening schema.handle (judged setting (checked setting) path value
          (Instance.assemble (schema.ruleset.instances schema.calls))) := by
  obtain ⟨handle, ruleset, scope, newestFirst, error⟩ := schema
  rw [vet, checked, checkedCalls_eq, ← List.map_reverse, Ruleset.instances_map,
    Instance.assemble_map (checked_keepsHandles setting)]
  simp only [calls]
  cases error with
  | some error => rfl
  | none =>
      cases Instance.assemble (ruleset.instances newestFirst.reverse) with
      | error fault => rfl
      | ok entries =>
          simp only [Checked.ofRules, Except.map, judged, List.map_map, Function.comp_def, Instance.map]

end Schema

/-! ## Schemas of one sort -/

/-- Among things with handles those of one sort have handles, too. -/
instance [Identified σ] (holds : σ → Prop) : Identified {part : σ // holds part} :=
  ⟨fun part => Identified.handle part.val⟩

/-- Narrowing schemas to those with a property keeps handles. -/
theorem keepsHandles_val [Identified σ] (holds : σ → Prop) :
    KeepsHandles (Subtype.val : {part : σ // holds part} → σ) :=
  fun _ => rfl

variable {holds : σ → Prop}

/-- An argument whose schemas have a property is one of schemas that are known to have it. -/
theorem Argument.exists_over {argument : Argument σ} (all : ∀ part ∈ argument.parts, holds part) :
    ∃ narrow : Argument {part // holds part}, narrow.map Subtype.val = argument := by
  cases argument with
  | value content => exact ⟨.value content, rfl⟩
  | regex content => exact ⟨.regex content, rfl⟩
  | comparator content => exact ⟨.comparator content, rfl⟩
  | predicate content => exact ⟨.predicate content, rfl⟩
  | schema content => exact ⟨.schema ⟨content, all content (List.mem_singleton.mpr rfl)⟩, rfl⟩
  | keys content =>
      have entries : content ∈ Set.range
          (List.map fun (name, part) => ((name, part.val) : String × σ) :
            List (String × {part // holds part}) → List (String × σ)) := by
        rw [Set.range_list_map]
        rintro ⟨name, part⟩ entry
        exact ⟨(name, ⟨part, all part (List.mem_map_of_mem (f := Prod.snd) entry)⟩), rfl⟩
      obtain ⟨narrow, same⟩ := entries
      exact ⟨.keys narrow, congrArg Argument.keys same⟩

/-- A call whose schemas have a property is one of schemas that are known to have it. -/
theorem Call.exists_over {call : Call σ} (all : ∀ part ∈ call.parts, holds part) :
    ∃ narrow : Call {part // holds part}, narrow.map Subtype.val = call := by
  obtain ⟨node, arguments⟩ := call
  have lifted : arguments ∈ Set.range (List.map (Argument.map (Subtype.val : {part // holds part} → σ))) := by
    rw [Set.range_list_map]
    intro argument given
    exact Argument.exists_over fun part inside => all part (List.mem_flatMap.mpr ⟨argument, given, inside⟩)
  obtain ⟨narrow, same⟩ := lifted
  exact ⟨⟨node, narrow⟩, congrArg (Call.mk node) same⟩

namespace Schema

variable {schema : Schema} {holds : Schema → Prop}

/-- Only the parts of a schema stand in its calls: where all of them are of one sort, its calls are calls with
schemas of that sort. -/
theorem exists_calls_over (all : ∀ part ∈ schema.parts, holds part) :
    ∃ narrow : List (Call {part // holds part}), narrow.map (Call.map Subtype.val) = schema.calls := by
  have lifted : schema.calls ∈ Set.range (List.map (Call.map (Subtype.val : {part // holds part} → Schema))) := by
    rw [Set.range_list_map]
    intro call called
    exact Call.exists_over fun part inside => all part (List.mem_flatMap.mpr ⟨call, called, inside⟩)
  exact lifted

/-- A chain of calls around one of them is one of calls with schemas of that sort around such a call. -/
theorem exists_chain_over (all : ∀ part ∈ schema.parts, holds part) {earlier later : List (Call Schema)}
    {call : Call Schema} (chain : schema.calls = earlier ++ call :: later) :
    ∃ (first last : List (Call {part // holds part})) (narrow : Call {part // holds part}),
      first.map (Call.map Subtype.val) = earlier ∧ narrow.map Subtype.val = call ∧
        last.map (Call.map Subtype.val) = later := by
  obtain ⟨whole, same⟩ := exists_calls_over all
  rw [chain] at same
  obtain ⟨first, rest, -, one, more⟩ := List.map_eq_append_iff.mp same
  obtain ⟨narrow, last, -, two, three⟩ := List.map_eq_cons_iff.mp more
  exact ⟨first, last, narrow, one, two, three⟩

/-- The rules of calls with schemas of one sort are rules over such schemas. -/
theorem assemble_over (ruleset : Ruleset) (narrow : List (Call {part // holds part})) :
    Instance.assemble (ruleset.instances (narrow.map (Call.map Subtype.val))) =
      (Instance.assemble (ruleset.instances narrow)).map (List.map (Instance.map Subtype.val)) := by
  rw [Ruleset.instances_map, Instance.assemble_map (keepsHandles_val holds)]

/-- Only the parts of a schema stand in its rules: where all of them are of one sort, its rules are rules
over schemas of that sort. -/
theorem exists_assembled_over (all : ∀ part ∈ schema.parts, holds part) :
    ∃ assembled : Except SchemaFault (List (Instance {part // holds part})),
      Instance.assemble (schema.ruleset.instances schema.calls) =
        assembled.map (List.map (Instance.map Subtype.val)) := by
  obtain ⟨narrow, same⟩ := exists_calls_over all
  exact ⟨Instance.assemble (schema.ruleset.instances narrow), same ▸ assemble_over schema.ruleset narrow⟩

/-- The rules of a schema are assembled from its calls, unless one of them has failed. -/
theorem rules_eq (schema : Schema) :
    schema.rules =
      match schema.error with
      | some error => .error error
      | none => Instance.assemble (schema.ruleset.instances schema.calls) := by
  unfold rules check
  cases schema.error <;> rfl

/-- A schema that compiles has rules. -/
theorem exists_rules {schema : Schema} (sound : schema.rules.toOption.isSome = true) :
    ∃ kept, schema.rules = .ok kept := by
  cases rules : schema.rules with
  | error fault =>
      rw [rules] at sound
      cases sound
  | ok kept => exact ⟨kept, rfl⟩

/-- If the parts of a schema have a property, its rules are rules of schemas that are known to have it. -/
theorem exists_rules_over (all : ∀ part ∈ schema.parts, holds part) :
    ∃ narrow : Except SchemaFault (List (Instance {part // holds part})),
      schema.rules = narrow.map (List.map (Instance.map Subtype.val)) := by
  obtain ⟨assembled, same⟩ := exists_assembled_over all
  rw [rules_eq]
  cases schema.error with
  | some error => exact ⟨.error error, rfl⟩
  | none => exact ⟨assembled, same⟩

/-- A schema that has rules carries no error. -/
theorem error_eq_none {kept : List (Instance Schema)} (compiles : schema.rules = .ok kept) : schema.error = none := by
  rw [rules_eq] at compiles
  cases error : schema.error with
  | none => rfl
  | some fault =>
      rw [error] at compiles
      cases compiles

/-- The rules of a schema without an error are those of its calls over schemas of one sort. -/
theorem rules_over (sound : schema.error = none) {narrow : List (Call {part // holds part})}
    (same : schema.calls = narrow.map (Call.map Subtype.val)) :
    schema.rules = (Instance.assemble (schema.ruleset.instances narrow)).map (List.map (Instance.map Subtype.val)) := by
  rw [rules_eq, sound, same, assemble_over]

/-- Each rule of such a schema is one of schemas that are known to have the property. -/
theorem exists_rule_over (all : ∀ part ∈ schema.parts, holds part) {kept : List (Instance Schema)}
    (compiles : schema.rules = .ok kept) {entry : Instance Schema} (listed : entry ∈ kept) :
    ∃ narrow : Rule {part // holds part}, narrow.map Subtype.val = entry.rule := by
  obtain ⟨narrow, same⟩ := exists_rules_over all
  cases narrow with
  | error fault => cases compiles.symm.trans same
  | ok entries =>
      obtain rfl := Except.ok.inj (compiles.symm.trans same)
      obtain ⟨inner, -, rfl⟩ := List.mem_map.mp listed
      exact ⟨inner.rule, rfl⟩

/-- What a schema makes of a value, told by its rules over schemas of one sort. -/
theorem vet_over {assembled : Except SchemaFault (List (Instance {part // holds part}))}
    (same : Instance.assemble (schema.ruleset.instances schema.calls) =
      assembled.map (List.map (Instance.map Subtype.val)))
    (setting : Setting) (path : Path) (value : Value) :
    schema.vet setting path value =
      match schema.error with
      | some error => .done (.error (.schema error))
      | none => .opening schema.handle
          (judged setting (fun part => part.val.checked setting) path value assembled) := by
  rw [vet_eq, same]
  cases schema.error with
  | some error => rfl
  | none =>
      cases assembled with
      | error fault => rfl
      | ok entries =>
          simp only [Except.map, judged, List.map_map, Function.comp_def, Instance.map, Rule.map_map]

/-- A schema that answers has rules, and its answer is what these make of the value. -/
theorem exists_judged_of_answer (all : ∀ part ∈ schema.parts, holds part) {setting : Setting} {path : Path}
    {value : Value} {outcome : Outcome} (ended : (schema.vet setting path value).answer = .ok outcome) :
    ∃ entries : List (Instance {part // holds part}),
      Instance.assemble (schema.ruleset.instances schema.calls) =
        (Except.ok entries).map (List.map (Instance.map Subtype.val)) ∧
      (judged setting (fun part => part.val.checked setting) path value (.ok entries)).answer = .ok outcome := by
  obtain ⟨assembled, same⟩ := exists_assembled_over all
  rw [vet_over same] at ended
  split at ended
  · cases ended
  · cases assembled with
    | error fault => cases ended
    | ok entries => exact ⟨entries, same, ended⟩

end Schema

/-! ## Where rules come from -/

namespace Schema

/-- Every call is the call of an allowed rule, or of no rule at all. -/
def CallsOnly (allowed : Blueprint → Prop) (schema : Schema) : Prop :=
  ∀ call ∈ schema.calls, ∀ blueprint, schema.ruleset.blueprint? call.node = some blueprint →
    allowed blueprint

/-- Only standard rules are called. -/
def CallsStandard (schema : Schema) : Prop :=
  schema.CallsOnly (· ∈ Ruleset.standardRules)

end Schema

namespace Ruleset

variable {ruleset : Ruleset} {calls : List (Call σ)}

/-- Every instance comes from a call that is bound. -/
theorem exists_call_of_instances {entry : Instance σ} (member : entry ∈ ruleset.instances calls) :
    ∃ call ∈ calls, ∃ blueprint, ruleset.blueprint? call.node = some blueprint ∧
      entry = ⟨blueprint.fresh, call.arguments⟩ := by
  obtain ⟨call, called, found⟩ := List.mem_filterMap.mp member
  obtain ⟨blueprint, bound, rfl⟩ := Option.map_eq_some_iff.mp found
  exact ⟨call, called, blueprint, bound, rfl⟩

variable [Identified σ] {kept : List (Instance σ)}

/-- A rule of an assembly was called for, with its arguments. -/
theorem exists_call_of_assemble (assembled : Instance.assemble (ruleset.instances calls) = .ok kept) :
    ∀ entry ∈ kept, ∃ call ∈ calls, ∃ blueprint, ruleset.blueprint? call.node = some blueprint ∧
      entry.rule.unwired = blueprint.unwired ∧ entry.arguments = call.arguments := by
  intro entry member
  obtain ⟨origin, stands, same⟩ := Instance.exists_origin_of_assemble assembled entry member
  obtain ⟨call, called, blueprint, bound, rfl⟩ := exists_call_of_instances stands
  obtain ⟨sort, given⟩ := Prod.mk.inj same
  rw [Blueprint.fresh, Rule.unwired_map] at sort
  exact ⟨call, called, blueprint, bound, sort.symm, given.symm⟩

/-- Where only some rules are called, the rules of an assembly are such rules before their wiring. -/
theorem allowed_of_assemble {allowed : Blueprint → Prop}
    (here : ∀ call ∈ calls, ∀ blueprint, ruleset.blueprint? call.node = some blueprint → allowed blueprint)
    (standard : ∀ blueprint, allowed blueprint → blueprint ∈ standardRules)
    (assembled : Instance.assemble (ruleset.instances calls) = .ok kept) :
    ∀ entry ∈ kept, allowed entry.rule.unwired := by
  intro entry member
  obtain ⟨call, called, blueprint, bound, sort, -⟩ := exists_call_of_assemble assembled entry member
  have known := here call called blueprint bound
  rwa [sort, Rule.unwired_of_standard (standard blueprint known)]

end Ruleset

namespace Schema

/-- Where only rules of some sort are called, a rule of the schema is of this sort before its wiring. -/
theorem allowed_of_assembled {schema : Schema} {holds : Schema → Prop} {allowed : Blueprint → Prop}
    (here : schema.CallsOnly allowed) (standard : ∀ blueprint, allowed blueprint → blueprint ∈ Ruleset.standardRules)
    {entries : List (Instance {part // holds part})}
    (same : Instance.assemble (schema.ruleset.instances schema.calls) =
      (Except.ok entries).map (List.map (Instance.map Subtype.val))) :
    ∀ entry ∈ entries, allowed entry.rule.unwired := by
  intro entry member
  have known := Ruleset.allowed_of_assemble here standard same _ (List.mem_map_of_mem member)
  rwa [Instance.map, Rule.unwired_map] at known

end Schema

end Vetting
