import Vetting.Proofs.Validation.Objections

/-!
# Findings point into the value

Where conversion is off and nothing stands in for absent values, every schema inside a validation sees what lies
in the vetted value, one step below what the schema around it sees.  So the one finding of a failure is about a
place that can be reached from the vetted value, and it calls this place by the last step of its path
(`Schema.locates_of_not_convert`).
-/

namespace Vetting

variable {σ : Type} {setting : Setting} {path : Path} {value : Value}

/-- The finding calls its place by the last step of its path; only an unknown member is called by its own
name. -/
def Finding.CallsItsPlace (finding : Finding) : Prop :=
  finding.rule ≠ "object.unknown" → finding.context.get? "key" = some (.string finding.path.label)

/-- The report has one finding, about a place that can be reached from the value at the path. -/
def Report.Locates (path : Path) (value : Value) (report : Report) : Prop :=
  ∃ finding suffix, report.findings = [finding] ∧ finding.path = path ++ suffix ∧
    (value.follow? suffix).isSome ∧ finding.CallsItsPlace

namespace Report

/-- A failed rule is found at the place of the value that it judges. -/
theorem locates_ofRule (rule : String) (path : Path) (value : Value) (particulars : Context)
    (proper : rule = "object.unknown" ∨ "key" ∉ particulars.names) :
    (ofRule rule path particulars).Locates path value := by
  refine ⟨_, [], rfl, (List.append_nil path).symm, rfl, fun known => ?_⟩
  have own := proper.resolve_left known
  exact Members.get?_putAll_of_not_mem own _

/-- What is found one step below is found from above, too. -/
theorem Locates.above {report : Report} {step : Step} {inner : Value}
    (below : value.below? step = some inner) (located : report.Locates (path ++ [step]) inner) :
    report.Locates path value := by
  obtain ⟨finding, suffix, only, place, reached, called⟩ := located
  refine ⟨finding, step :: suffix, only, ?_, ?_, called⟩
  · rw [place, List.append_assoc]
    rfl
  · rwa [Value.follow?, below, Option.bind_some]

/-- A message changes nothing about the place. -/
theorem Locates.attach {report : Report} (located : report.Locates path value)
    (format : Finding → Option String) : (report.attach format).Locates path value := by
  obtain ⟨finding, suffix, only, place, reached, called⟩ := located
  cases message : finding.message with
  | some words =>
      refine ⟨finding, suffix, ?_, place, reached, called⟩
      simp only [Report.attach, only, List.map_cons, List.map_nil, message]
  | none =>
      refine ⟨{ finding with message := format finding }, suffix, ?_, place, reached, called⟩
      simp only [Report.attach, only, List.map_cons, List.map_nil, message]

/-- A report that is shown locates what it located before. -/
theorem Locates.failed {report : Report} (located : report.Locates path value) (setting : Setting)
    (about : Value) {shown : Report} (reported : (setting.failed about report).report = some shown) :
    shown.Locates path value := by
  obtain rfl := Option.some.inj reported
  cases setting.language with
  | none => cases setting.traced <;> exact located
  | some language => cases setting.traced <;> exact located.attach language.format?

end Report

/-- The judging finds faults only at places that can be reached from the value. -/
def Judging.Locates (path : Path) (value : Value) (judging : Judging) : Prop :=
  ∀ report, judging.answer = .error (.invalid report) → report.Locates path value

namespace Judging

/-- Good verdicts find no fault anywhere. -/
theorem locates_say (verdict : Verdict) : (say verdict).Locates path value := by
  intro report failed
  cases failed

/-- A failure at the place of the value locates it, if it names no member or names a stranger. -/
theorem locates_fail {rule : String} {particulars : Context}
    (proper : rule = "object.unknown" ∨ "key" ∉ particulars.names) :
    (fail path rule particulars).Locates path value := by
  intro report failed
  obtain rfl := Fault.invalid.inj (Except.error.inj failed)
  exact Report.locates_ofRule rule path value particulars proper

end Judging

/-! ## Rules that judge by themselves -/

/-- A predicate finds fault in its own words. -/
theorem Predicate.exists_words_of_toJudging {predicate : Predicate} {about : Value} {report : Report}
    (failed : (predicate.toJudging path about).answer = .error (.invalid report)) :
    ∃ words, report = .ofRefusal words path := by
  unfold toJudging at failed
  rw [Run.answer_pausing] at failed
  split at failed
  · cases failed
  next words _ => exact ⟨words, (Fault.invalid.inj (Except.error.inj failed)).symm⟩

/-- A predicate finds fault with the value itself. -/
theorem Predicate.locates_toJudging (predicate : Predicate) (about : Value) :
    (predicate.toJudging path about).Locates path value := by
  intro report failed
  obtain ⟨words, rfl⟩ := exists_words_of_toJudging failed
  refine Report.Locates.attach (Report.locates_ofRule _ _ _ _ (.inr ?_)) _
  simp [Members.names]

/-- A rule that asks no schema finds fault with the very value that it judges. -/
theorem Judging.Unaided.locates {judge : Path → Judging} (unaided : Unaided judge) (path : Path) (value : Value) :
    (judge path).Locates path value := by
  cases unaided with
  | answers verdict same =>
      rw [same]
      exact locates_say verdict
  | objects objection same =>
      rw [same]
      exact locates_fail (Classical.or_iff_not_imp_left.mpr objection.key_not_mem)
  | leaves predicate about same =>
      rw [same]
      exact predicate.locates_toJudging about

/-! ## Schemas inside -/

/-- Whatever the schema says of a value it says of that very value, and its report locates what is wrong. -/
def Checked.Locates (schema : Checked) : Prop :=
  ∀ path value outcome, (schema.vet path value).answer = .ok outcome →
    outcome.value = value ∧ ∀ report, outcome.report = some report → report.Locates path value

/-- A schema that locates its faults does so where a value is to be accepted. -/
theorem Checked.Locates.accept {schema : Checked} (locates : schema.Locates) {report : Report}
    (failed : (schema.accept path value).answer = .error (.invalid report)) : report.Locates path value := by
  obtain ⟨about, vetted⟩ := outcome_of_accept_failed failed
  exact (locates path value _ vetted).2 _ rfl

/-- A failure of a container is the failure of one of its parts. -/
theorem Judging.exists_part_of_ofParts {parts : List (Run (Except Fault Value))}
    {rebuild : List Value → Value} {fault : Fault}
    (failed : (ofParts setting parts rebuild).answer = .error fault) :
    ∃ part ∈ parts, part.answer = .error fault := by
  have together := Run.allPass_answer parts
  unfold ofParts at failed
  rw [Run.answer_bind] at failed
  cases joined : (Run.allPass parts).answer with
  | ok accepted =>
      rw [joined] at failed
      cases failed
  | error found =>
      rw [joined] at failed together
      obtain rfl := Except.error.inj failed
      obtain ⟨part, given, answered⟩ := List.mem_map.mp together
      exact ⟨part, given, answered⟩

/-- A failure of alternatives is the failure of one of them, or none of them accepts the value. -/
theorem exists_schema_of_judgeAlternatives {schemas : List Checked} {fault : Fault}
    (failed : (judgeAlternatives schemas path value).answer = .error fault) :
    (∃ schema ∈ schemas, (schema.accept path value).answer = .error fault) ∨
      fault = .invalid (.ofRule "alternatives" path []) := by
  have first := Run.firstPass_answer (schemas.map fun schema => schema.accept path value)
  unfold judgeAlternatives at failed
  rw [Run.answer_bind] at failed
  split at failed
  · cases failed
  next found joined =>
    obtain rfl := Except.error.inj failed
    rw [joined] at first
    obtain ⟨check, given, answered⟩ := List.mem_map.mp first.1
    obtain ⟨schema, member, rfl⟩ := List.mem_map.mp given
    exact .inl ⟨schema, member, answered⟩
  · exact .inr (Except.error.inj failed).symm

section Inside

variable {translate : σ → Checked} (locates : ∀ part, (translate part).Locates)

include locates

/-- An inquiry about the parts of a value locates the faults of these parts. -/
theorem Inquiry.locates_judge {inquiry : Inquiry σ} (descends : inquiry.Descends value) :
    (inquiry.judge translate setting path).Locates path value := by
  intro report failed
  obtain ⟨check, given, answered⟩ := Judging.exists_part_of_ofParts failed
  obtain ⟨question, asked, rfl⟩ := List.mem_map.mp given
  exact ((locates question.part).accept answered).above (descends question asked)

/-- A choice between schemas locates the faults of the one that explains. -/
theorem locates_judgeAlternatives (parts : List σ) :
    (judgeAlternatives (parts.map translate) path value).Locates path value := by
  intro report failed
  rcases exists_schema_of_judgeAlternatives failed with ⟨schema, member, answered⟩ | same
  · obtain ⟨part, -, rfl⟩ := List.mem_map.mp member
    exact (locates part).accept answered
  · obtain rfl := Fault.invalid.inj same
    exact Report.locates_ofRule _ _ _ _ (.inr List.not_mem_nil)

/-- A standard rule locates what is wrong if the schemas inside do. -/
theorem Rule.locates_judge {rule : Rule σ} (other : ∀ declaration, rule ≠ .declared declaration) :
    ((rule.map translate).judge setting path value).Locates path value := by
  cases asks : rule.inquiry? value with
  | some inquiry =>
      rw [judge_of_inquiry asks]
      exact Inquiry.locates_judge locates (descends_of_inquiry asks)
  | none =>
      rcases rule.alternatives_or with ⟨parts, rfl⟩ | single
      · exact locates_judgeAlternatives locates parts
      · exact (unaided_judge asks single other translate).locates path value

end Inside

/-! ## Schemas -/

/-- Rules that leave a value as it is locate what one of them finds wrong. -/
theorem report_of_vetBy (off : setting.convert = false) {rules : List (Rule Checked)}
    (leaves : ∀ rule ∈ rules, ∀ verdict, (rule.judge setting path value).answer = .ok verdict →
      verdict.Leaves value)
    (locates : ∀ rule ∈ rules, (rule.judge setting path value).Locates path value) {outcome : Outcome}
    (ended : (vetBy setting path rules value).answer = .ok outcome) {report : Report}
    (failed : outcome.report = some report) : report.Locates path value := by
  rcases ends_of_vetBy off leaves ended with rfl | ⟨rule, member, found, said, rfl⟩
  · cases failed
  · exact (locates rule member found said).failed setting value failed

namespace Schema

/-- Without conversion and stand-ins a schema locates its faults. -/
theorem locates_checked (off : setting.convert = false) {schema : Schema}
    (nothing : schema.Everywhere (CallsOnly Blueprint.WithoutStandIn)) : (schema.checked setting).Locates := by
  induction nothing with
  | @intro schema here inside ih =>
      intro path value outcome ended
      obtain ⟨entries, same, judgement⟩ := exists_judged_of_answer ih ended
      have origins := allowed_of_assembled here (fun _ known => known.1) same
      rw [judged_of_withoutStandIn origins] at judgement
      have translated : ∀ rule ∈ entries.map Instance.rule, Blueprint.WithoutStandIn rule.unwired :=
        List.forall_mem_map.mpr origins
      have leaves : ∀ rule ∈ (entries.map Instance.rule).map (Rule.map fun part => part.val.checked setting),
          ∀ verdict, (rule.judge setting path value).answer = .ok verdict → verdict.Leaves value := by
        intro rule member verdict said
        obtain ⟨original, listed, rfl⟩ := List.mem_map.mp member
        refine Rule.leaves_of_judge off (fun part outcome ended => ?_) (translated original listed).1 said
        exact (part.property path value outcome ended).1
      have locates : ∀ rule ∈ (entries.map Instance.rule).map (Rule.map fun part => part.val.checked setting),
          (rule.judge setting path value).Locates path value := by
        intro rule member
        obtain ⟨original, listed, rfl⟩ := List.mem_map.mp member
        exact Rule.locates_judge (fun part => part.property)
          (Rule.ne_declared_of_standard (translated original listed).1)
      exact ⟨value_of_vetBy off leaves judgement,
        fun report failed => report_of_vetBy off leaves locates judgement failed⟩

/-- **Findings point into the value.**  Without conversion, and where nothing stands in for absent values, a
failure has exactly one finding.  Its path leads on from the start of the validation into the vetted value: by
names in objects, whose members may be absent, and by places within arrays.  It calls the place by the last step
of the path, unless an unknown member was found. -/
theorem locates_of_not_convert {schema : Schema}
    (nothing : schema.Everywhere (CallsOnly Blueprint.WithoutStandIn)) (off : setting.convert = false)
    {outcome : Outcome}
    (ended : (schema.vet setting path value).answer = .ok outcome ∨
      (schema.vet setting path value).answerAtOnce? = some (.ok outcome))
    {report : Report} (failed : outcome.report = some report) : report.Locates path value := by
  have answered : (schema.vet setting path value).answer = .ok outcome := by
    rcases ended with ended | atOnce
    · exact ended
    · exact Run.answer_of_answerAtOnce? atOnce
  exact (locates_checked off nothing path value outcome answered).2 report failed

/-- An object of a list of texts. -/
def ofMemberOfTexts : Schema :=
  .ofCalls 0 [(.keys ⟨[], [], false, false⟩,
    [.keys [("a", .ofCalls 2 [(.items none, [.schema ofText])])]])]

/-- The schema calls for no stand-in. -/
theorem everywhere_ofMemberOfTexts : ofMemberOfTexts.Everywhere (CallsOnly Blueprint.WithoutStandIn) := by
  have text : Blueprint.WithoutStandIn (.check .string) := by
    simp [Blueprint.WithoutStandIn, Ruleset.standardRules, Ruleset.stringRules, Rule.name, Check.name]
  have items : Blueprint.WithoutStandIn (.items none) := by
    simp [Blueprint.WithoutStandIn, Ruleset.standardRules, Ruleset.arrayRules, Rule.name]
  have keys : Blueprint.WithoutStandIn (.keys ⟨[], [], false, false⟩) := by
    simp [Blueprint.WithoutStandIn, Ruleset.standardRules, Ruleset.objectRules, Rule.name]
  have inner : ofText.Everywhere (CallsOnly Blueprint.WithoutStandIn) := by
    refine everywhere_ofCalls (callsOnly_ofCalls ?_) ?_
    · simpa using text
    · simp
  refine everywhere_ofCalls (callsOnly_ofCalls ?_) ?_
  · simpa using keys
  · simp only [List.mem_singleton, forall_eq, List.flatMap_singleton, Argument.parts, List.map_singleton]
    refine everywhere_ofCalls (callsOnly_ofCalls ?_) ?_
    · simpa using items
    · simpa [Argument.parts] using inner

/-- The schema has standard calls only. -/
theorem callsStandard_ofMemberOfTexts : ofMemberOfTexts.Everywhere CallsStandard :=
  everywhere_ofMemberOfTexts.mono fun _ only call made blueprint bound => (only call made blueprint bound).1

/-- The failure of a validation, told by what can be seen of its report. -/
theorem exists_report_of_seen {answer : Except Misuse Outcome} {α : Type} {look : Report → α} {seen : α}
    (looked : answer.toOption.bind (fun outcome => outcome.report.map look) = some seen) :
    ∃ outcome report, answer = .ok outcome ∧ outcome.report = some report ∧ look report = seen := by
  cases answer with
  | error misuse => cases looked
  | ok outcome =>
      obtain ⟨report, failed, found⟩ := Option.map_eq_some_iff.mp looked
      exact ⟨outcome, report, rfl, failed, found⟩

/-- The second text of the list is no text: the finding is about the place where it lies. -/
theorem locates_of_not_convert_ofMemberOfTexts :
    ∃ outcome report,
      (ofMemberOfTexts.vet ⟨false, false, none, ⟨0, 0⟩⟩ [] (.object [("a", .array [.string "x", .null])])).answer =
        .ok outcome ∧
      outcome.report = some report ∧ report.findings.map Finding.path = [[.key "a", .index 1]] ∧
      report.Locates [] (.object [("a", .array [.string "x", .null])]) := by
  have found : (ofMemberOfTexts.vet ⟨false, false, none, ⟨0, 0⟩⟩ []
      (.object [("a", .array [.string "x", .null])])).answer.toOption.bind
        (fun outcome => outcome.report.map fun report => report.findings.map Finding.path) =
      some [[.key "a", .index 1]] := by
    decide +kernel
  obtain ⟨outcome, report, answered, failed, places⟩ := exists_report_of_seen found
  exact ⟨outcome, report, answered, failed, places,
    locates_of_not_convert everywhere_ofMemberOfTexts rfl (.inl answered) failed⟩

end Schema

end Vetting
