import Vetting.Proofs.Listing.Verdicts
import Vetting.Proofs.Validation.Location
import Vetting.Proofs.Validation.Survey

/-!
# Where reports come from

A failed validation shows what one of the rules of the schema has found (`exists_judging_of_vetWith`).  The rule has
found fault with the value itself, or hands on what a schema inside it has found further in.  So whatever a schema
finds lies at the place of the value or below it (`Schema.findsBelow_checked`).
-/

namespace Vetting

variable {σ : Type} {setting : Setting} {path : Path} {value : Value}

/-! ## Reports of rules -/

/-- Where a report is shown nothing is added to a finding but words. -/
theorem Setting.exists_origin_of_shown {report : Report} {finding : Finding}
    (found : finding ∈ (setting.shown report).findings) :
    ∃ origin ∈ report.findings, finding.rule = origin.rule ∧ finding.path = origin.path ∧
      finding.context = origin.context := by
  unfold shown at found
  cases language : setting.language with
  | none =>
      rw [language] at found
      cases traced : setting.traced <;> rw [traced] at found <;> exact ⟨finding, found, rfl, rfl, rfl⟩
  | some own =>
      rw [language] at found
      have worded : finding ∈ (report.attach own.format?).findings := by
        cases traced : setting.traced <;> rw [traced] at found <;> exact found
      obtain ⟨origin, listed, rfl⟩ := List.mem_map.mp worded
      refine ⟨origin, listed, ?_⟩
      cases origin.message <;> exact ⟨rfl, rfl, rfl⟩

/-- A rule that turns a value down in an attempt does so when it judges this value. -/
theorem Rule.judge_of_attempt {rule : Rule Checked} {about : Value} {report : Report}
    (failed : (rule.attempt setting path value).answer = (about, .error (.invalid report))) :
    (rule.judge setting path about).answer = .error (.invalid report) := by
  rw [attempt, Run.answer_bind] at failed
  cases said : (rule.judge setting path value).answer with
  | ok verdict =>
      rw [said] at failed
      cases failed
  | error fault =>
      rw [said] at failed
      cases fault with
      | usage error => cases failed
      | invalid found =>
          dsimp only at failed
          split at failed
          · rw [Run.answer_bind] at failed
            obtain ⟨rfl, same⟩ := Prod.mk.inj failed
            exact same
          · obtain ⟨rfl, same⟩ := Prod.mk.inj failed
            exact said.trans same

/-- The report of a failure is the report of one of the rules. -/
theorem exists_judging_of_vetBy {rules : List (Rule Checked)} {outcome : Outcome}
    (ended : (vetBy setting path rules value).answer = .ok outcome) {report : Report}
    (failed : outcome.report = some report) :
    ∃ rule ∈ rules, ∃ about made, (rule.judge setting path about).answer = .error (.invalid made) ∧
      setting.shown made = report := by
  induction rules generalizing value with
  | nil =>
      obtain rfl := Except.ok.inj ended
      cases failed
  | cons rule rest ih =>
      have further : ∀ {next}, (vetBy setting path rest next).answer = .ok outcome →
          ∃ rule' ∈ rule :: rest, ∃ about made, (rule'.judge setting path about).answer = .error (.invalid made) ∧
            setting.shown made = report := fun later => by
        obtain ⟨other, member, told⟩ := ih later
        exact ⟨other, List.mem_cons_of_mem _ member, told⟩
      rw [vetBy, Run.answer_bind] at ended
      cases attempted : (rule.attempt setting path value).answer with
      | mk about said =>
          rw [attempted] at ended
          cases said with
          | ok verdict =>
              cases verdict with
              | pass => exact further ended
              | replace next => exact further ended
              | abort =>
                  obtain rfl := Except.ok.inj ended
                  cases failed
          | error fault =>
              cases fault with
              | usage error => cases ended
              | invalid made =>
                  obtain rfl := Except.ok.inj ended
                  exact ⟨rule, List.mem_cons_self, about, made, Rule.judge_of_attempt attempted, Option.some.inj failed⟩

/-- A report comes from one of the rules, which has turned down the value or what became of it. -/
theorem exists_judging_of_vetWith {rules : List (Rule Checked)} {outcome : Outcome}
    (ended : (vetWith setting rules path value).answer = .ok outcome) {report : Report}
    (failed : outcome.report = some report) :
    ∃ rule ∈ rules, ∃ about made, (rule.judge setting path about).answer = .error (.invalid made) ∧
      setting.shown made = report := by
  cases rules with
  | nil => exact exists_judging_of_vetBy ended failed
  | cons first rest =>
      rw [vetWith] at ended
      split at ended
      · exact exists_judging_of_vetBy ended failed
      · split at ended
        · obtain ⟨rule, member, told⟩ := exists_judging_of_vetBy ended failed
          exact ⟨rule, List.mem_cons_of_mem _ member, told⟩
        · obtain rfl := Except.ok.inj ended
          cases failed

/-! ## Places of findings -/

/-- All that has been found lies at the place or below it. -/
def Report.Below (path : Path) (report : Report) : Prop :=
  ∀ finding ∈ report.findings, path <+: finding.path

/-- A report about a place is below it. -/
theorem Report.below_ofRule (rule : String) (path : Path) (particulars : Context) :
    (ofRule rule path particulars).Below path := by
  intro finding found
  obtain rfl := List.mem_singleton.mp found
  exact List.prefix_rfl

/-- A refusal of a place is below it. -/
theorem Report.below_ofRefusal (words : String) (path : Path) : (ofRefusal words path).Below path := by
  intro finding found
  obtain rfl := List.mem_singleton.mp found
  exact List.prefix_rfl

/-- What is below a part is below the whole. -/
theorem Report.Below.above {report : Report} {step : Step} (below : report.Below (path ++ [step])) :
    report.Below path :=
  fun finding found => (List.prefix_append path [step]).trans (below finding found)

/-- A report that is shown is where it was. -/
theorem Report.Below.shown {report : Report} (below : report.Below path) (setting : Setting) :
    (setting.shown report).Below path := by
  intro finding found
  obtain ⟨origin, listed, -, place, -⟩ := Setting.exists_origin_of_shown found
  rw [place]
  exact below origin listed

/-- The judging finds fault with nothing outside the place. -/
def Judging.FindsBelow (path : Path) (judging : Judging) : Prop :=
  ∀ report, judging.answer = .error (.invalid report) → report.Below path

namespace Judging

/-- Good verdicts find no fault anywhere. -/
theorem findsBelow_say (verdict : Verdict) : (say verdict).FindsBelow path := by
  intro report failed
  cases failed

/-- A failure finds fault with its own place. -/
theorem findsBelow_fail (rule : String) (particulars : Context) : (fail path rule particulars).FindsBelow path := by
  intro report failed
  obtain rfl := Fault.invalid.inj (Except.error.inj failed)
  exact Report.below_ofRule rule path particulars

end Judging

/-- A predicate finds fault with its own place. -/
theorem Predicate.findsBelow_toJudging (predicate : Predicate) (about : Value) :
    (predicate.toJudging path about).FindsBelow path := by
  intro report failed
  obtain ⟨words, rfl⟩ := exists_words_of_toJudging failed
  exact Report.below_ofRefusal words path

/-- What is judged unaided finds fault with its own place. -/
theorem Judging.Unaided.findsBelow {judge : Path → Judging} (unaided : Unaided judge) (path : Path) :
    (judge path).FindsBelow path := by
  cases unaided with
  | answers verdict same =>
      rw [same]
      exact findsBelow_say verdict
  | objects objection same =>
      rw [same]
      exact findsBelow_fail _ _
  | leaves predicate about same =>
      rw [same]
      exact predicate.findsBelow_toJudging about

/-- A declared rule finds fault with the value itself. -/
theorem Declaration.findsBelow_judge (declaration : Declaration) : (declaration.judge path value).FindsBelow path := by
  intro report failed
  unfold judge at failed
  rw [Run.answer_pausing] at failed
  split at failed
  · cases answer : declaration.answer <;> rw [answer] at failed <;> cases failed
  · exact Judging.findsBelow_fail _ _ report failed

/-! ## Schemas inside -/

/-- Whatever the schema finds lies at the place of the value or below it. -/
def Checked.FindsBelow (schema : Checked) : Prop :=
  ∀ path value outcome, (schema.vet path value).answer = .ok outcome →
    ∀ report, outcome.report = some report → report.Below path

/-- A schema that finds faults below a place does so where a value is to be accepted. -/
theorem Checked.FindsBelow.accept {schema : Checked} (below : schema.FindsBelow) {report : Report}
    (failed : (schema.accept path value).answer = .error (.invalid report)) : report.Below path := by
  obtain ⟨about, vetted⟩ := outcome_of_accept_failed failed
  exact below path value _ vetted _ rfl

section Inside

variable {translate : σ → Checked} (below : ∀ part, (translate part).FindsBelow)

include below

/-- What the schemas inside find when a rule asks them lies further in. -/
theorem Inquiry.exists_step_of_judge {inquiry : Inquiry σ} {report : Report}
    (failed : (inquiry.judge translate setting path).answer = .error (.invalid report)) :
    ∃ step, report.Below (path ++ [step]) := by
  obtain ⟨check, given, answered⟩ := Judging.exists_part_of_ofParts failed
  obtain ⟨question, -, rfl⟩ := List.mem_map.mp given
  exact ⟨question.step, (below question.part).accept answered⟩

/-- A choice between schemas finds faults where they do. -/
theorem findsBelow_judgeAlternatives (parts : List σ) :
    (judgeAlternatives (parts.map translate) path value).FindsBelow path := by
  intro report failed
  rcases exists_schema_of_judgeAlternatives failed with ⟨schema, member, answered⟩ | same
  · obtain ⟨part, -, rfl⟩ := List.mem_map.mp member
    exact (below part).accept answered
  · obtain rfl := Fault.invalid.inj same
    exact Report.below_ofRule _ _ _

/-- A rule finds fault with nothing outside the value if the schemas inside do not. -/
theorem Rule.findsBelow_judge (rule : Rule σ) : ((rule.map translate).judge setting path value).FindsBelow path := by
  cases asks : rule.inquiry? value with
  | some inquiry =>
      rw [judge_of_inquiry asks]
      intro report failed
      obtain ⟨step, further⟩ := inquiry.exists_step_of_judge below failed
      exact further.above
  | none =>
      rcases rule.alternatives_or with ⟨parts, rfl⟩ | single
      · exact findsBelow_judgeAlternatives below parts
      · by_cases declared : ∃ declaration, rule = .declared declaration
        · obtain ⟨declaration, rfl⟩ := declared
          exact declaration.findsBelow_judge
        · exact (unaided_judge asks single (not_exists.mp declared) translate).findsBelow path

end Inside

/-! ## Schemas -/

namespace Schema

variable {schema : Schema} {kept : List (Instance Schema)}

/-- A value that comes to an outcome has been judged by rules. -/
theorem exists_rules_of_vet {outcome : Outcome} (ended : (schema.vet setting path value).answer = .ok outcome) :
    ∃ kept, schema.rules = .ok kept := by
  rw [rules_eq]
  rw [vet_eq] at ended
  cases error : schema.error with
  | some error =>
      rw [error] at ended
      cases ended
  | none =>
      rw [error] at ended
      cases assembled : Instance.assemble (schema.ruleset.instances schema.calls) with
      | error fault =>
          rw [assembled] at ended
          cases ended
      | ok kept => exact ⟨kept, rfl⟩

/-- **Findings lie inside.**  Whatever rules are called, a schema finds fault with nothing outside the value that it is
asked about. -/
theorem findsBelow_checked (setting : Setting) (schema : Schema) : (schema.checked setting).FindsBelow := by
  have everywhere : schema.Everywhere fun _ => True := everywhere_of_forall (fun _ => trivial) schema
  induction everywhere with
  | @intro schema _ _ ih =>
      intro path value outcome ended report failed
      change (schema.vet setting path value).answer = _ at ended
      obtain ⟨kept, compiles⟩ := exists_rules_of_vet ended
      rw [vet_eq_of_rules compiles] at ended
      obtain ⟨rule, member, about, made, turnedDown, rfl⟩ := exists_judging_of_vetWith ended failed
      obtain ⟨entry, listed, rfl⟩ := List.mem_map.mp member
      obtain ⟨narrow, same⟩ := exists_rule_over ih compiles listed
      rw [← same, Rule.map_map] at turnedDown
      exact (narrow.findsBelow_judge (fun part => part.property) made turnedDown).shown setting

end Schema

end Vetting
