import Vetting.Proofs.Run.Silence
import Vetting.Proofs.Validation.Licence
import Vetting.Proofs.Validation.Survey

/-!
# Validations that raise alerts

A validation needs the rules of the schema, and of the schemas inside it that are asked about a value.  The rules of
a schema may be missing: an error is recorded in it, or its calls cannot be assembled.  To tell which schemas without
rules a validation comes across, the validation is run with other openings.  A schema without rules is opened at the
moment when its rules are asked for, and no other schema is opened at all (`Schema.vet_alerting`).

Apart from the openings it is the same run (`Schema.silent_alerting`): nothing that rules make of a value depends on
what the schemas inside them open (`Rule.silent_judge`).
-/

namespace Vetting

variable {σ τ : Type} {setting : Setting} {path : Path} {value : Value}

/-! ## Silencing -/

namespace Run

/-- No schema may be opened. -/
def Licence.closed : Licence :=
  ⟨fun _ => False, True⟩

/-- A run under a closed licence opens nothing. -/
theorem Obeys.silent {α : Type} {answers : α → Prop} {run : Run α} (obeys : run.Obeys .closed answers) :
    run.silent = run :=
  silent_of_opened (List.eq_nil_iff_forall_not_mem.mpr obeys.opened)

end Run

/-- What is left of the schema opens nothing any more. -/
def Checked.silent (schema : Checked) : Checked where
  handle := schema.handle
  vet path value := (schema.vet path value).silent

/-- Schemas with one handle that vet alike, openings aside, are the same without openings. -/
theorem Checked.silent_congr {first second : Checked} (handles : first.handle = second.handle)
    (vets : ∀ path value, (first.vet path value).silent = (second.vet path value).silent) :
    first.silent = second.silent := by
  unfold silent
  rw [handles]
  exact congrArg (Checked.mk second.handle) (funext fun path => funext (vets path))

/-- What opens nothing anyway is silent as it is. -/
theorem Checked.silent_of_vet {schema : Checked}
    (nothing : ∀ path value, (schema.vet path value).silent = schema.vet path value) : schema.silent = schema :=
  congrArg (Checked.mk schema.handle) (funext fun path => funext (nothing path))

/-- Openings are left out of what a schema accepts. -/
theorem Checked.silent_accept (schema : Checked) (path : Path) (value : Value) :
    (schema.accept path value).silent = schema.silent.accept path value := by
  unfold accept
  rw [Run.silent_bind]
  congr 1
  funext said
  match said with
  | .error error => rfl
  | .ok ⟨_, some report⟩ => rfl
  | .ok ⟨accepted, none⟩ => rfl

/-- Openings are left out of a choice between schemas one by one. -/
theorem silent_judgeAlternatives (schemas : List Checked) (path : Path) (value : Value) :
    (judgeAlternatives schemas path value).silent = judgeAlternatives (schemas.map Checked.silent) path value := by
  unfold judgeAlternatives
  rw [Run.silent_bind, Run.silent_firstPass, List.map_map, List.map_map]
  congr 1
  · simp only [Function.comp_def, Checked.silent_accept]
  · funext first
    match first with
    | some (.ok accepted) => rfl
    | some (.error fault) => rfl
    | none => rfl

/-- Openings are left out of an inquiry question by question. -/
theorem Inquiry.silent_judge (inquiry : Inquiry σ) (translate : σ → Checked) :
    (inquiry.judge translate setting path).silent =
      inquiry.judge (fun part => (translate part).silent) setting path := by
  unfold judge Judging.ofParts
  rw [Run.silent_bind, Run.silent_allPass, List.map_map]
  congr 1
  · simp only [Function.comp_def, Checked.silent_accept]
  · funext result
    cases result <;> rfl

namespace Rule

/-- A rule that asks nothing opens nothing, whatever the schemas inside it open; only alternatives ask theirs about
the very value. -/
theorem silent_of_no_inquiry {rule : Rule σ} (asks : rule.inquiry? value = none)
    (other : ∀ parts, rule ≠ .alternatives parts) (translate : σ → Checked) :
    ((rule.map translate).judge setting path value).silent = (rule.map translate).judge setting path value := by
  have closed : Checked.indifferent.Obeys .closed := fun _ _ => trivial
  have lawful : ((rule.map fun _ => Checked.indifferent).judge setting path value).Lawful .closed :=
    lawful_judge (fun _ => closed) (rule.tame_of_waits trivial) setting path value
  rw [judge_of_no_inquiry asks other translate fun _ => Checked.indifferent]
  exact Run.Obeys.silent lawful

/-- A rule is silenced by silencing the schemas inside it. -/
theorem silent_judge (rule : Rule σ) (translate : σ → Checked) :
    ((rule.map translate).judge setting path value).silent =
      (rule.map fun part => (translate part).silent).judge setting path value := by
  cases asks : rule.inquiry? value with
  | some inquiry => rw [judge_of_inquiry asks, judge_of_inquiry asks, inquiry.silent_judge]
  | none =>
      rcases rule.alternatives_or with ⟨parts, rfl⟩ | other
      · simp only [map, judge, silent_judgeAlternatives, List.map_map, Function.comp_def]
      · rw [silent_of_no_inquiry asks other]
        exact judge_of_no_inquiry asks other _ _

/-- Openings are left out of what a rule attempts. -/
theorem silent_attempt (rule : Rule σ) (translate : σ → Checked) (value : Value) :
    ((rule.map translate).attempt setting path value).silent =
      (rule.map fun part => (translate part).silent).attempt setting path value := by
  unfold attempt
  rw [Run.silent_bind, silent_judge]
  congr 1
  funext said
  match said with
  | .ok verdict => rfl
  | .error (.usage error) => rfl
  | .error (.invalid report) =>
      simp only [convert?_map]
      split
      · rw [Run.silent_bind, silent_judge]
        rfl
      · rfl

end Rule

/-- Openings are left out of what several rules say. -/
theorem silent_vetBy (rules : List (Rule σ)) (translate : σ → Checked) (value : Value) :
    (vetBy setting path (rules.map fun rule => rule.map translate) value).silent =
      vetBy setting path (rules.map fun rule => rule.map fun part => (translate part).silent) value := by
  induction rules generalizing value with
  | nil => rfl
  | cons rule rest ih =>
      rw [List.map_cons, List.map_cons, vetBy, vetBy, Run.silent_bind, Rule.silent_attempt]
      congr 1
      funext said
      obtain ⟨about, result⟩ := said
      cases result with
      | error fault => cases fault <;> rfl
      | ok verdict =>
          cases verdict with
          | pass => exact ih about
          | replace next => exact ih next
          | abort => rfl

/-- Openings are left out of what rules say with stand-ins and gates before them. -/
theorem silent_vetWith (rules : List (Rule σ)) (translate : σ → Checked) (value : Value) :
    (vetWith setting (rules.map fun rule => rule.map translate) path value).silent =
      vetWith setting (rules.map fun rule => rule.map fun part => (translate part).silent) path value := by
  cases rules with
  | nil => rfl
  | cons first rest =>
      simp only [List.map_cons, vetWith, Rule.standIn?_map]
      split
      · exact silent_vetBy (first :: rest) translate value
      · split
        · exact silent_vetBy rest translate value
        · rfl

/-! ## Raising alerts -/

/-- The rules of the schema, once something has been made of its parts. -/
def Outline.rules [Identified τ] (outline : Outline τ) : Except SchemaFault (List (Instance τ)) :=
  match outline.error with
  | some error => .error error
  | none => Instance.assemble (outline.ruleset.instances outline.calls)

/-- What a schema comes to in a validation that raises alerts, given its rules. -/
def Checked.alerting (setting : Setting) (handle : Handle) (rules : Except SchemaFault (List (Instance Checked))) :
    Checked where
  handle := handle
  vet path value :=
    match rules with
    | .error error => .opening handle (.done (.error (.schema error)))
    | .ok kept => vetWith setting (kept.map Instance.rule) path value

namespace Schema

/-- What a schema comes to in a validation that opens the schemas without rules when it asks for their rules, and no
others. -/
def alerting (setting : Setting) : Schema → Checked :=
  fold fun outline => .alerting setting outline.handle outline.rules

/-- The schemas without rules whose rules a validation asks for. -/
def alerts (schema : Schema) (setting : Setting) (path : Path) (value : Value) : List Handle :=
  ((schema.alerting setting).vet path value).opened

/-- An alerting schema is one made of its rules, in which all schemas inside are alerting. -/
theorem alerting_eq (schema : Schema) (setting : Setting) :
    schema.alerting setting = .alerting setting schema.handle
      (Outline.rules ⟨schema.handle, schema.ruleset, schema.scope, schema.calls.map (Call.map (alerting setting)),
        schema.error⟩) :=
  fold_eq _ schema

/-- Alerting schemas keep their handles. -/
theorem alerting_keepsHandles (setting : Setting) : KeepsHandles (alerting setting) := by
  intro schema
  rw [alerting_eq]
  rfl

/-- What rules make of a value, with every schema in them translated; without rules an alert is raised. -/
def raised (setting : Setting) (handle : Handle) (translate : σ → Checked) (path : Path) (value : Value) :
    Except SchemaFault (List (Instance σ)) → Run (Except Misuse Outcome)
  | .error error => .opening handle (.done (.error (.schema error)))
  | .ok kept => vetWith setting (kept.map fun entry => entry.rule.map translate) path value

/-- Rules may be translated before alerts are raised or after. -/
theorem raised_map (f : σ → τ) (handle : Handle) (translate : τ → Checked)
    (rules : Except SchemaFault (List (Instance σ))) :
    raised setting handle translate path value (rules.map (List.map (Instance.map f))) =
      raised setting handle (fun part => translate (f part)) path value rules := by
  cases rules with
  | error error => rfl
  | ok kept => simp only [Except.map, raised, List.map_map, Function.comp_def, Instance.map, Rule.map_map]

/-- Rules may be translated before they judge or after. -/
theorem judged_map (f : σ → τ) (translate : τ → Checked) (rules : Except SchemaFault (List (Instance σ))) :
    judged setting translate path value (rules.map (List.map (Instance.map f))) =
      judged setting (fun part => translate (f part)) path value rules := by
  cases rules with
  | error error => rfl
  | ok kept => simp only [Except.map, judged, List.map_map, Function.comp_def, Instance.map, Rule.map_map]

/-- Openings are left out of what compiled rules judge. -/
theorem silent_judged (translate : σ → Checked) (rules : Except SchemaFault (List (Instance σ))) :
    (judged setting translate path value rules).silent =
      judged setting (fun part => (translate part).silent) path value rules := by
  cases rules with
  | error error => rfl
  | ok kept =>
      have silenced := @silent_vetWith _ setting path (kept.map Instance.rule) translate value
      rw [List.map_map, List.map_map] at silenced
      exact silenced

/-- Without its opening an alert is an error. -/
theorem silent_raised (handle : Handle) (translate : σ → Checked) (rules : Except SchemaFault (List (Instance σ))) :
    (raised setting handle translate path value rules).silent =
      judged setting (fun part => (translate part).silent) path value rules := by
  rw [← silent_judged]
  cases rules <;> rfl

/-- A schema raises an alert if it has no rules, and otherwise its rules judge the value. -/
theorem vet_alerting (schema : Schema) (setting : Setting) (path : Path) (value : Value) :
    (schema.alerting setting).vet path value =
      raised setting schema.handle (alerting setting) path value schema.rules := by
  rw [alerting_eq, rules_eq]
  simp only [Outline.rules, Ruleset.instances_map, Instance.assemble_map (alerting_keepsHandles setting),
    Checked.alerting]
  cases schema.error with
  | some error => rfl
  | none =>
      cases Instance.assemble (schema.ruleset.instances schema.calls) with
      | error fault => rfl
      | ok kept => simp only [Except.map, raised, List.map_map, Function.comp_def, Instance.map]

/-- Without its openings a validation is told by the rules of the schema. -/
theorem silent_vet (schema : Schema) (setting : Setting) (path : Path) (value : Value) :
    (schema.vet setting path value).silent =
      judged setting (fun part => (part.checked setting).silent) path value schema.rules := by
  rw [vet_eq, rules_eq, ← silent_judged]
  cases schema.error <;> rfl

/-- **Alerts change nothing.**  Apart from its openings a validation that raises alerts is the validation: it pauses
at the same points and comes to the same answer. -/
theorem silent_alerting (schema : Schema) (setting : Setting) :
    (schema.alerting setting).silent = (schema.checked setting).silent := by
  have everywhere : schema.Everywhere fun _ => True := everywhere_of_forall (fun _ => trivial) schema
  induction everywhere with
  | @intro schema _ _ ih =>
      obtain ⟨narrow, same⟩ := exists_rules_over ih
      refine Checked.silent_congr ((alerting_keepsHandles setting schema).trans
        (checked_keepsHandles setting schema).symm) fun path value => ?_
      rw [vet_alerting, ← vet, silent_vet, same, raised_map, silent_raised, judged_map]
      congr 1
      funext part
      exact part.property

/-- But for openings an alerting schema runs as the schema does. -/
theorem silent_vet_alerting (schema : Schema) (setting : Setting) (path : Path) (value : Value) :
    ((schema.alerting setting).vet path value).silent = (schema.vet setting path value).silent :=
  congrArg (fun silenced => silenced.vet path value) (silent_alerting schema setting)

/-- An alerting schema comes to the same answer. -/
theorem answer_alerting (schema : Schema) (setting : Setting) (path : Path) (value : Value) :
    ((schema.alerting setting).vet path value).answer = (schema.vet setting path value).answer := by
  rw [← Run.answer_silent, silent_vet_alerting, Run.answer_silent]

/-- An alerting schema pauses as often. -/
theorem pauses_alerting (schema : Schema) (setting : Setting) (path : Path) (value : Value) :
    ((schema.alerting setting).vet path value).pauses = (schema.vet setting path value).pauses := by
  rw [← Run.pauses_silent, silent_vet_alerting, Run.pauses_silent]

end Schema

end Vetting
