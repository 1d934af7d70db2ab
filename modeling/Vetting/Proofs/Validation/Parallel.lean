import Vetting.Proofs.Run.Alike
import Vetting.Proofs.Validation.Objections
import Vetting.Proofs.Validation.Survey

/-!
# Validations side by side

Two validations of a value by one schema may take place at different places, and differ in the language of their
messages and in whether reports are traced.  If reports of the same objection correspond in both, and go on to
correspond when a schema hands them on (`Correspondence`), then both validations run alike: they open the same
schemas, pause at the same points, and come to the same mistake, or to outcomes about the same value whose reports
correspond (`Schema.alike_checked`).  So do the validators that carry them out (`Validator.vetAt_alike`).  A single
validation stands beside itself: what holds of the reports of all objections holds of its report
(`Schema.report_of_checked`).
-/

namespace Vetting

variable {σ : Type} {setting : Setting} {language : Option Language} {traced : Bool} {moved : Path → Path}
  {faults reports : Report → Report → Prop} {path : Path} {value : Value}

/-- The setting with messages in another language, and with or without traces. -/
def Setting.worded (setting : Setting) (language : Option Language) (traced : Bool) : Setting :=
  { setting with language, traced }

/-- The outcomes are about the same value; both pass, or both fail with reports that correspond. -/
structure Outcome.Corresponds (reports : Report → Report → Prop) (first second : Outcome) : Prop where
  value_eq : first.value = second.value
  report : Option.Rel reports first.report second.report

/-- Both are the same mistake, or the reports correspond. -/
inductive Fault.Corresponds (faults : Report → Report → Prop) : Fault → Fault → Prop where
  | usage (error : Misuse) : Corresponds faults (usage error) (usage error)
  | invalid {first second : Report} (reports : faults first second) :
      Corresponds faults (invalid first) (invalid second)

/-- Reports correspond in a validation and in another one, at other places and in other words: `faults` says how,
while they are inside a schema, and `reports`, once it has handed them on. -/
structure Correspondence (setting : Setting) (language : Option Language) (traced : Bool) (moved : Path → Path)
    (faults reports : Report → Report → Prop) : Prop where
  below : ∀ path step, moved (path ++ [step]) = moved path ++ [step]
  objects : ∀ {rule : String} {particulars : Context}, Objection rule particulars → ∀ path,
    faults (.ofRule rule path particulars) (.ofRule rule (moved path) particulars)
  refuses : ∀ words path, faults (.ofRefusal words path) (.ofRefusal words (moved path))
  shows : ∀ {first second : Report}, faults first second →
    reports (setting.shown first) ((setting.worded language traced).shown second)
  handsOn : ∀ {first second : Report}, reports first second → faults first second

/-- The answers are the same mistake, or outcomes that correspond. -/
abbrev AnswersCorrespond (reports : Report → Report → Prop) : Except Misuse Outcome → Except Misuse Outcome → Prop :=
  Matching Eq (Outcome.Corresponds reports)

/-- The judgements run alike, to the same verdict or to faults that correspond. -/
abbrev Judging.Alike (faults : Report → Report → Prop) (first second : Judging) : Prop :=
  Run.Alike (Matching (Fault.Corresponds faults) Eq) first second

/-- What the first schema vets at a place and the second one at the other place they vet alike. -/
def Checked.Alike (moved : Path → Path) (reports : Report → Report → Prop) (first second : Checked) : Prop :=
  ∀ path value, (first.vet path value).Alike (AnswersCorrespond reports) (second.vet (moved path) value)

namespace Judging

/-- Good verdicts are alike whatever the setting is. -/
theorem alike_say (verdict : Verdict) : (say verdict).Alike faults (say verdict) :=
  .done (.ok rfl)

/-- Parts that run alike are put together alike. -/
theorem alike_ofParts {parts parts' : List (Run (Except Fault Value))} {rebuild : List Value → Value}
    (alike : List.Forall₂ (Run.Alike (Matching (Fault.Corresponds faults) Eq)) parts parts') :
    (ofParts setting parts rebuild).Alike faults (ofParts setting parts' rebuild) := by
  refine (Run.Alike.allPass alike).bind fun answer answer' same => ?_
  cases same with
  | error faults => exact .done (.error faults)
  | ok same =>
      obtain rfl := same
      exact alike_say _

end Judging

/-- No rule looks at the language or at the traces. -/
theorem Rule.judge_worded (rule : Rule Checked) :
    rule.judge (setting.worded language traced) path value = rule.judge setting path value := by
  cases rule with
  | custom predicate => cases predicate <;> rfl
  | items schema => cases schema <;> rfl
  | regex expression => cases expression <;> rfl
  | _ => rfl

section Rules

variable (corresponds : Correspondence setting language traced moved faults reports)

include corresponds

/-- Objections are reported alike at the place and at the one that it is moved to. -/
theorem Judging.alike_fail {rule : String} {particulars : Context} (objection : Objection rule particulars) :
    (fail path rule particulars).Alike faults (fail (moved path) rule particulars) :=
  .done (.error (.invalid (corresponds.objects objection path)))

/-- What is judged unaided is judged alike at both places. -/
theorem Judging.Unaided.alike {judge : Path → Judging} (unaided : Unaided judge) (path : Path) :
    (judge path).Alike faults (judge (moved path)) := by
  cases unaided with
  | answers verdict same =>
      rw [same, same]
      exact alike_say verdict
  | objects objection same =>
      rw [same, same]
      exact alike_fail corresponds objection
  | leaves predicate value same =>
      rw [same, same]
      refine .pausing _ ?_
      cases (predicate.judge value).refusal? with
      | none => exact alike_say .pass
      | some words => exact .done (.error (.invalid (corresponds.refuses words path)))

/-- Schemas that are alike accept values alike. -/
theorem Checked.Alike.accept {first second : Checked} (alike : first.Alike moved reports second) (path : Path)
    (value : Value) :
    (first.accept path value).Alike (Matching (Fault.Corresponds faults) Eq) (second.accept (moved path) value) := by
  refine (alike path value).bind fun answer answer' same => ?_
  cases same with
  | error same =>
      obtain rfl := same
      exact .done (.error (.usage _))
  | @ok outcome outcome' same =>
      obtain ⟨accepted, report⟩ := outcome
      obtain ⟨accepted', report'⟩ := outcome'
      obtain ⟨rfl, shown⟩ : accepted = accepted' ∧ Option.Rel reports report report' := ⟨same.value_eq, same.report⟩
      cases shown with
      | none => exact .done (.ok rfl)
      | some shown => exact .done (.error (.invalid (corresponds.handsOn shown)))

/-! ## Schemas inside -/

variable {first second : σ → Checked} (alike : ∀ part, (first part).Alike moved reports (second part))

include alike

/-- Inquiries are judged alike if the schemas inside are alike. -/
theorem Inquiry.alike_judge (inquiry : Inquiry σ) :
    (inquiry.judge first setting path).Alike faults (inquiry.judge second setting (moved path)) := by
  refine Judging.alike_ofParts ?_
  rw [List.forall₂_map_left_iff, List.forall₂_map_right_iff]
  refine List.forall₂_same.mpr fun question _ => ?_
  rw [← corresponds.below]
  exact (alike question.part).accept corresponds _ _

/-- A choice between schemas that are alike comes to the same. -/
theorem alike_judgeAlternatives (parts : List σ) :
    (judgeAlternatives (parts.map first) path value).Alike faults
      (judgeAlternatives (parts.map second) (moved path) value) := by
  have checks : List.Forall₂ (Run.Alike (Matching (Fault.Corresponds faults) Eq))
      ((parts.map first).map fun schema => schema.accept path value)
      ((parts.map second).map fun schema => schema.accept (moved path) value) := by
    simp only [List.forall₂_map_left_iff, List.forall₂_map_right_iff]
    exact List.forall₂_same.mpr fun part _ => (alike part).accept corresponds path value
  refine (Run.Alike.firstPass checks).bind fun answer answer' same => ?_
  cases same with
  | none => exact Judging.alike_fail corresponds .alternatives
  | some result =>
      cases result with
      | error faults => exact .done (.error faults)
      | ok same =>
          obtain rfl := same
          exact Judging.alike_say _

/-- A standard rule judges alike if the schemas inside it do. -/
theorem Rule.alike_judge {rule : Rule σ} (standard : ∀ declaration, rule ≠ .declared declaration) (value : Value) :
    ((rule.map first).judge setting path value).Alike faults
      ((rule.map second).judge (setting.worded language traced) (moved path) value) := by
  rw [judge_worded]
  cases asks : rule.inquiry? value with
  | some inquiry =>
      rw [judge_of_inquiry asks, judge_of_inquiry asks]
      exact inquiry.alike_judge corresponds alike
  | none =>
      rcases rule.alternatives_or with ⟨parts, rfl⟩ | single
      · exact alike_judgeAlternatives corresponds alike parts
      · rw [judge_of_no_inquiry asks single second first]
        exact (unaided_judge asks single standard first).alike corresponds path

/-- Judged once or twice, a rule says the same of the same value. -/
theorem Rule.alike_attempt {rule : Rule σ} (standard : ∀ declaration, rule ≠ .declared declaration) :
    ((rule.map first).attempt setting path value).Alike
      (fun said said' => said.1 = said'.1 ∧ Matching (Fault.Corresponds faults) Eq said.2 said'.2)
      ((rule.map second).attempt (setting.worded language traced) (moved path) value) := by
  unfold attempt
  refine (alike_judge corresponds alike standard value).bind fun said said' same => ?_
  cases same with
  | ok same =>
      obtain rfl := same
      exact .done ⟨rfl, .ok rfl⟩
  | error found =>
      cases found with
      | usage error => exact .done ⟨rfl, .error (.usage error)⟩
      | invalid found =>
          have convert : (setting.worded language traced).convert = setting.convert := rfl
          simp only [convert?_map, convert]
          generalize (if setting.convert = true then rule.convert? value else none) = offered?
          cases offered? with
          | some offered =>
              exact (alike_judge corresponds alike standard offered).bind fun again again' same => .done ⟨rfl, same⟩
          | none => exact .done ⟨rfl, .error (.invalid found)⟩

/-- Rules whose schemas are alike vet a value alike. -/
theorem alike_vetBy {rules : List (Rule σ)} (standard : ∀ rule ∈ rules, ∀ declaration, rule ≠ .declared declaration) :
    (vetBy setting path (rules.map (Rule.map first)) value).Alike (AnswersCorrespond reports)
      (vetBy (setting.worded language traced) (moved path) (rules.map (Rule.map second)) value) := by
  induction rules generalizing value with
  | nil => exact .done (.ok ⟨rfl, .none⟩)
  | cons rule rest ih =>
      obtain ⟨own, further⟩ := List.forall_mem_cons.mp standard
      simp only [List.map_cons, vetBy]
      refine (Rule.alike_attempt corresponds alike own).bind fun said said' same => ?_
      obtain ⟨left, result⟩ := said
      obtain ⟨left', result'⟩ := said'
      obtain ⟨rfl, same⟩ : left = left' ∧ Matching (Fault.Corresponds faults) Eq result result' := same
      cases same with
      | @ok verdict _ equal =>
          obtain rfl := equal
          cases verdict with
          | pass => exact ih further
          | replace next => exact ih further
          | abort => exact .done (.ok ⟨rfl, .none⟩)
      | error found =>
          cases found with
          | usage error => exact .done (.error rfl)
          | invalid found => exact .done (.ok ⟨rfl, .some (corresponds.shows found)⟩)

/-- Rules whose schemas are alike vet a value alike, with stand-ins and gates before them. -/
theorem alike_vetWith {rules : List (Rule σ)} (standard : ∀ rule ∈ rules, ∀ declaration, rule ≠ .declared declaration) :
    (vetWith setting (rules.map (Rule.map first)) path value).Alike (AnswersCorrespond reports)
      (vetWith (setting.worded language traced) (rules.map (Rule.map second)) (moved path) value) := by
  cases rules with
  | nil => exact .done (.ok ⟨rfl, .none⟩)
  | cons rule rest =>
      simp only [List.map_cons, vetWith, Rule.standIn?_map]
      cases rule.standIn? with
      | none => exact alike_vetBy corresponds alike standard
      | some standIn =>
          dsimp only
          split
          · exact alike_vetBy corresponds alike (List.forall_mem_cons.mp standard).2
          · exact .done (.ok ⟨rfl, .none⟩)

end Rules

/-! ## Schemas -/

/-- **Validations side by side.**  Schemas of standard rules run alike in both validations, and what they report
corresponds. -/
theorem Schema.alike_checked (corresponds : Correspondence setting language traced moved faults reports)
    {schema : Schema} (standard : schema.Everywhere CallsStandard) :
    (schema.checked setting).Alike moved reports (schema.checked (setting.worded language traced)) := by
  induction standard with
  | @intro schema here _ ih =>
      intro path value
      obtain ⟨assembled, same⟩ := exists_assembled_over ih
      change (schema.vet setting path value).Alike _ (schema.vet (setting.worded language traced) (moved path) value)
      rw [vet_over same, vet_over same]
      split
      · exact .done (.error rfl)
      · refine .opening schema.handle ?_
        cases assembled with
        | error fault => exact .done (.error rfl)
        | ok entries =>
            have origins := allowed_of_assembled here (fun _ known => known) same
            simp only [judged]
            have rules : ∀ translate : _ → Checked, (entries.map fun entry => entry.rule.map translate) =
                (entries.map Instance.rule).map (Rule.map translate) := fun translate => by rw [List.map_map]; rfl
            rw [rules, rules]
            refine alike_vetWith corresponds (fun part => part.property) fun rule member => ?_
            obtain ⟨entry, listed, rfl⟩ := List.mem_map.mp member
            exact Rule.ne_declared_of_standard (origins entry listed)

/-- **Reports of a single validation.**  What holds of the report of every objection, and still holds when a schema
hands it on, holds of whatever a schema of standard rules reports. -/
theorem Schema.report_of_checked (made shown : Report → Prop)
    (objects : ∀ {rule : String} {particulars : Context}, Objection rule particulars → ∀ path,
      made (.ofRule rule path particulars))
    (refuses : ∀ words path, made (.ofRefusal words path))
    (shows : ∀ report, made report → shown (setting.shown report))
    (handsOn : ∀ report, shown report → made report) {schema : Schema} (standard : schema.Everywhere CallsStandard)
    {outcome : Outcome} (ended : (schema.vet setting path value).answer = .ok outcome) {report : Report}
    (failed : outcome.report = some report) : shown report := by
  -- A validation stands beside itself, and its reports are equal to themselves.
  have corresponds : Correspondence setting setting.language setting.traced id
      (fun report other => report = other ∧ made report) (fun report other => report = other ∧ shown report) :=
    { below := fun _ _ => rfl
      objects := fun objection path => ⟨rfl, objects objection path⟩
      refuses := fun words path => ⟨rfl, refuses words path⟩
      shows := fun both => ⟨congrArg setting.shown both.1, shows _ both.2⟩
      handsOn := fun both => ⟨both.1, handsOn _ both.2⟩ }
  have itself := (alike_checked corresponds standard path value).answer
  change AnswersCorrespond _ (schema.vet setting path value).answer (schema.vet setting path value).answer at itself
  rw [ended] at itself
  cases itself with
  | ok same =>
      have reported := same.report
      rw [failed] at reported
      cases reported with
      | some both => exact both.2

/-! ## Validators -/

/-- Done in the same workshop, both leave the same one behind, and what they come to is related. -/
def Crafting.Alike {α β : Type} (related : α → β → Prop) (first : Crafting α) (second : Crafting β) : Prop :=
  ∀ workshop, related (first.run workshop).1 (second.run workshop).1 ∧
    (first.run workshop).2 = (second.run workshop).2

namespace Validator

variable {related : Except Misuse Outcome → Except Misuse Outcome → Prop} {first second : Validator} {schema : Schema}
  {options others : Options} {now : Instant}

/-- Where validations run alike, validators come to related answers, and have opened the same schemas. -/
theorem vetAt_alike {place : Path} (alike : (schema.vet (first.setting options now) path value).Alike related
      (schema.vet (second.setting others now) place value)) :
    Crafting.Alike related (first.vetAt schema options now path value)
      (second.vetAt schema others now place value) := by
  intro workshop
  refine ⟨alike.answer, ?_⟩
  simp only [vetAt, alike.opened]
  rfl

/-- A run that is not over after its first turn is broken off on both sides. -/
theorem vetAtOnce_alike (suspended : related (.error .suspended) (.error .suspended))
    (alike : (schema.vet (first.setting options now) options.path value).Alike related
      (schema.vet (second.setting others now) others.path value)) :
    Crafting.Alike related (first.vetAtOnce schema options now value) (second.vetAtOnce schema others now value) := by
  have answers : ∀ answer answer', Option.Rel related answer answer' →
      related (answer.getD (.error .suspended)) (answer'.getD (.error .suspended)) := by
    intro answer answer' atOnce
    cases atOnce with
    | none => exact suspended
    | some same => exact same
  intro workshop
  refine ⟨answers _ _ alike.answerAtOnce?, ?_⟩
  simp only [vetAtOnce, alike.poll.1]
  rfl

end Validator

end Vetting
