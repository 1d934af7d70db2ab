import Vetting.Proofs.Run.Answers
import Vetting.Proofs.Rule.Identity
import Vetting.Validation.Engine

/-!
# What rules can say

Most rules look at the value alone and say no more than that it passes or that it does not
(`Rule.judge_tests`), and all of these but the ones that judge by a predicate say so at once
(`Rule.immediate_judge`).  A rule with schemas inside says what they say together: a container passes if all its
parts are accepted (`Judging.accepted_of_ofParts`), and alternatives bring what one of them has accepted
(`accepted_of_judgeAlternatives`).
-/

namespace Vetting

variable {σ : Type}

/-- The judging is a test: it lets the value pass as it is, or turns it down. -/
def Judging.Tests (judging : Judging) : Prop :=
  judging.answer = .ok .pass ∨ ∃ report, judging.answer = .error (.invalid report)

/-- The judging is such a test and over at once. -/
def Judging.Immediate (judging : Judging) : Prop :=
  judging = say .pass ∨ ∃ report, judging = .done (.error (.invalid report))

namespace Judging

/-- To let a value pass takes no time. -/
theorem immediate_pass : (say .pass).Immediate :=
  .inl rfl

/-- To turn a value down takes no time. -/
theorem immediate_fail (path : Path) (rule : String) (particulars : Context) :
    (fail path rule particulars).Immediate :=
  .inr ⟨_, rfl⟩

/-- To decide by a switch takes no time. -/
theorem immediate_ofBool (passes : Bool) (path : Path) (rule : String) (particulars : Context) :
    (ofBool passes path rule particulars).Immediate := by
  cases passes with
  | true => exact immediate_pass
  | false => exact immediate_fail path rule particulars

/-- What is over at once is a test. -/
theorem Immediate.tests {judging : Judging} (immediate : judging.Immediate) : judging.Tests := by
  rcases immediate with rfl | ⟨report, rfl⟩
  · exact .inl rfl
  · exact .inr ⟨report, rfl⟩

/-- A test that says something good lets the value pass. -/
theorem Tests.pass_of_ok {judging : Judging} (tests : judging.Tests) {verdict : Verdict}
    (said : judging.answer = .ok verdict) : verdict = .pass := by
  rcases tests with pass | ⟨report, failed⟩
  · exact Except.ok.inj (said.symm.trans pass)
  · rw [failed] at said
    cases said

end Judging

/-! ## Rules without schemas inside -/

/-- A predicate is a test. -/
theorem Predicate.tests_toJudging (predicate : Predicate) (path : Path) (value : Value) :
    (predicate.toJudging path value).Tests := by
  unfold toJudging Judging.Tests
  rw [Run.answer_pausing]
  cases (predicate.judge value).refusal? with
  | none => exact .inl rfl
  | some words => exact .inr ⟨_, rfl⟩

/-- The search for a duplicate takes no time. -/
theorem Criterion.immediate_judge (criterion : Criterion) (path : Path) (value : Value) :
    (criterion.judge path value).Immediate := by
  unfold judge
  split
  · exact Judging.immediate_fail _ _ _
  · split
    · exact Judging.immediate_pass
    · exact Judging.immediate_fail _ _ _

/-- To count takes no time. -/
theorem immediate_judgeLength (measure : Measure) (bound : Bound) (limit : Nat) (path : Path) (value : Value) :
    (judgeLength measure bound limit path value).Immediate := by
  unfold judgeLength
  cases measure.of? value with
  | none => exact Judging.immediate_fail _ _ _
  | some count => exact Judging.immediate_ofBool _ _ _ _

/-- To look at decimal places takes no time. -/
theorem immediate_judgePrecision (limit : Nat) (path : Path) (value : Value) :
    (judgePrecision limit path value).Immediate := by
  unfold judgePrecision
  cases value.asNumber? with
  | none => exact Judging.immediate_fail _ _ _
  | some n => exact Judging.immediate_ofBool _ _ _ _

/-- To look at an address takes no time. -/
theorem AddressOptions.immediate_judge (options : AddressOptions) (path : Path) (value : Value) :
    (options.judge path value).Immediate := by
  simp only [judge]
  split
  · exact Judging.immediate_pass
  · exact Judging.immediate_fail _ _ _

/-- To look at a reference takes no time. -/
theorem ReferenceOptions.immediate_judge (options : ReferenceOptions) (path : Path) (value : Value) :
    (options.judge path value).Immediate := by
  simp only [judge]
  split
  · exact Judging.immediate_pass
  · exact Judging.immediate_fail _ _ _

/-- The rule puts the value to alternatives, or it is no alternatives. -/
theorem Rule.alternatives_or (rule : Rule σ) :
    (∃ parts, rule = .alternatives parts) ∨ ∀ parts, rule ≠ .alternatives parts :=
  (Classical.em _).imp_right not_exists.mp

/-- The rule has no schemas inside and never ends a validation early. -/
def Rule.isPlain : Rule σ → Bool
  | optional _ | listing _ _ _ | alternatives _ | keys _ | pattern _ | items _ | ordered _ | declared _ =>
    false
  | _ => true

/-- A plain rule that judges by no predicate is done at once. -/
theorem Rule.immediate_judge {rule : Rule Checked} (plain : rule.isPlain = true)
    (other : ∀ predicate, rule ≠ .custom (some predicate)) (setting : Setting) (path : Path) (value : Value) :
    (rule.judge setting path value).Immediate := by
  cases rule with
  | any | standIn _ _ | furtherAlternatives | allowUnknown | allowSparse | allowSingle | insensitive =>
      exact Judging.immediate_pass
  | custom predicate =>
      cases predicate with
      | none => exact Judging.immediate_pass
      | some predicate => exact absurd rfl (other predicate)
  | regex expression =>
      cases expression with
      | none => exact Judging.immediate_pass
      | some expression => exact Judging.immediate_ofBool _ _ _ _
  | unique criterion => exact criterion.immediate_judge path value
  | length measure bound limit => exact immediate_judgeLength measure bound limit path value
  | precision places => exact immediate_judgePrecision places path value
  | address options => exact options.immediate_judge path value
  | reference options => exact options.immediate_judge path value
  | array _ _ | number _ _ | multiple _ | check _ => exact Judging.immediate_ofBool _ _ _ _
  | optional _ | listing _ _ _ | alternatives _ | keys _ | pattern _ | items _ | ordered _ | declared _ =>
      cases plain

/-- A plain rule tests the value. -/
theorem Rule.judge_tests {rule : Rule Checked} (plain : rule.isPlain = true) (setting : Setting)
    (path : Path) (value : Value) : (rule.judge setting path value).Tests := by
  by_cases judges : ∃ predicate, rule = .custom (some predicate)
  · obtain ⟨predicate, rfl⟩ := judges
    exact predicate.tests_toJudging path value
  · exact (immediate_judge plain (not_exists.mp judges) setting path value).tests

/-- Where a rule lets a value pass, the rules behind it judge what it has left. -/
theorem vetBy_cons_of_pass {setting : Setting} {path : Path} {rule : Rule Checked} {value left : Value}
    (passes : rule.attempt setting path value = .done (left, .ok .pass)) (rest : List (Rule Checked)) :
    vetBy setting path (rule :: rest) value = vetBy setting path rest left := by
  rw [vetBy, passes]
  rfl

/-! ## Rules with schemas inside -/

/-- What a schema says of a value when it accepts it. -/
theorem Checked.outcome_of_accept {schema : Checked} {path : Path} {value accepted : Value}
    (accepts : (schema.accept path value).answer = .ok accepted) :
    (schema.vet path value).answer = .ok (.pass accepted) := by
  unfold accept at accepts
  rw [Run.answer_bind] at accepts
  cases vetted : (schema.vet path value).answer with
  | error error =>
      rw [vetted] at accepts
      cases accepts
  | ok outcome =>
      obtain ⟨found, report⟩ := outcome
      rw [vetted] at accepts
      cases report with
      | some report => cases accepts
      | none =>
          obtain rfl := Except.ok.inj accepts
          rfl

/-- A schema says no later than it has validated. -/
theorem Checked.pauses_accept (schema : Checked) (path : Path) (value : Value) :
    (schema.accept path value).pauses = (schema.vet path value).pauses := by
  unfold accept
  rw [Run.pauses_bind]
  match (schema.vet path value).answer with
  | .error error => rfl
  | .ok ⟨_, some report⟩ => rfl
  | .ok ⟨accepted, none⟩ => rfl

/-- What a schema says of a value when it does not accept it. -/
theorem Checked.outcome_of_accept_failed {schema : Checked} {path : Path} {value : Value} {report : Report}
    (failed : (schema.accept path value).answer = .error (.invalid report)) :
    ∃ about, (schema.vet path value).answer = .ok ⟨about, some report⟩ := by
  unfold accept at failed
  rw [Run.answer_bind] at failed
  cases vetted : (schema.vet path value).answer with
  | error error =>
      rw [vetted] at failed
      cases failed
  | ok outcome =>
      obtain ⟨about, reported⟩ := outcome
      rw [vetted] at failed
      cases reported with
      | none => cases failed
      | some shown =>
          obtain rfl := Fault.invalid.inj (Except.error.inj failed)
          exact ⟨about, rfl⟩

/-- A container says something good only if all its parts are accepted, and then it says that the value
passes, or brings the value made of the accepted parts. -/
theorem Judging.accepted_of_ofParts {setting : Setting} {parts : List (Run (Except Fault Value))}
    {rebuild : List Value → Value} {verdict : Verdict}
    (said : (ofParts setting parts rebuild).answer = .ok verdict) :
    ∃ accepted, parts.map Run.answer = accepted.map .ok ∧ (Run.allPass parts).answer = .ok accepted ∧
      verdict = if setting.convert then .replace (rebuild accepted) else .pass := by
  have together := Run.allPass_answer parts
  unfold ofParts at said
  rw [Run.answer_bind] at said
  cases joined : (Run.allPass parts).answer with
  | error fault =>
      rw [joined] at said
      cases said
  | ok accepted =>
      rw [joined] at said together
      exact ⟨accepted, together, rfl, (Except.ok.inj said).symm⟩

/-- Alternatives bring a value that one of them has accepted. -/
theorem accepted_of_judgeAlternatives {schemas : List Checked} {path : Path} {value : Value}
    {verdict : Verdict} (said : (judgeAlternatives schemas path value).answer = .ok verdict) :
    ∃ accepted, verdict = .replace accepted ∧
      ∃ schema ∈ schemas, (schema.accept path value).answer = .ok accepted := by
  have first := Run.firstPass_answer (schemas.map fun schema => schema.accept path value)
  unfold judgeAlternatives at said
  rw [Run.answer_bind] at said
  cases joined : (Run.firstPass (schemas.map fun schema => schema.accept path value)).answer with
  | none =>
      rw [joined] at said
      cases said
  | some result =>
      cases result with
      | error fault =>
          rw [joined] at said
          cases said
      | ok accepted =>
          rw [joined] at said first
          refine ⟨accepted, (Except.ok.inj said).symm, ?_⟩
          obtain ⟨check, member, answered⟩ := List.mem_map.mp first
          obtain ⟨schema, given, rfl⟩ := List.mem_map.mp member
          exact ⟨schema, given, answered⟩

/-- A container passes, or brings another form of the value where conversion is on. -/
theorem Judging.verdict_of_ofParts {setting : Setting} {parts : List (Run (Except Fault Value))}
    {rebuild : List Value → Value} {verdict : Verdict}
    (said : (ofParts setting parts rebuild).answer = .ok verdict) :
    verdict = .pass ∨ ∃ accepted, verdict = .replace accepted ∧ setting.convert = true := by
  obtain ⟨accepted, -, -, rfl⟩ := accepted_of_ofParts said
  cases on : setting.convert with
  | false => exact .inl rfl
  | true => exact .inr ⟨rebuild accepted, rfl, rfl⟩

namespace Listing

/-- A list of values lets a value through, at once or not, or turns it down. -/
theorem verdict_of_judge {kind : Listing} {set : ListedValues} {path : Path} {value : Value} {verdict : Verdict}
    (said : (kind.judge set path value).answer = .ok verdict) : verdict = .pass ∨ verdict = .abort := by
  cases kind with
  | valid =>
      simp only [judge] at said
      split at said
      · exact .inr (Except.ok.inj said).symm
      · cases said
  | invalid => exact .inl ((Judging.immediate_ofBool _ _ _ _).tests.pass_of_ok said)
  | allow =>
      simp only [judge, Judging.say, Run.answer, Except.ok.injEq] at said
      split at said
      · exact .inr said.symm
      · exact .inl said.symm

end Listing

namespace Rule

/-- A rule that is not declared is not so after a translation. -/
theorem ne_declared_of_map {translate : σ → Checked} {rule : Rule σ}
    (other : ∀ declaration, rule ≠ .declared declaration) (declaration : Declaration) :
    rule.map translate ≠ .declared declaration := by
  cases rule with
  | declared known => exact absurd rfl (other known)
  | _ => exact fun same => by cases same

/-- All the good that a rule can say of a value: that it passes, that it passes at once, if the rule is not one of
the last tier, or another form of it, which only conversion and alternatives bring. -/
theorem verdict_of_judge {rule : Rule Checked} (other : ∀ declaration, rule ≠ .declared declaration)
    {setting : Setting} {path : Path} {value : Value} {verdict : Verdict}
    (said : (rule.judge setting path value).answer = .ok verdict) :
    verdict = .pass ∨ (verdict = .abort ∧ rule.priority ≠ 100) ∨ ∃ accepted, verdict = .replace accepted ∧
      (setting.convert = true ∨ ∃ schemas, rule = .alternatives schemas ∧
        ∃ schema ∈ schemas, (schema.accept path value).answer = .ok accepted) := by
  have ofParts : ∀ {parts : List (Run (Except Fault Value))} {rebuild : List Value → Value},
      (Judging.ofParts setting parts rebuild).answer = .ok verdict →
        verdict = .pass ∨ (verdict = .abort ∧ rule.priority ≠ 100) ∨ ∃ accepted, verdict = .replace accepted ∧
          (setting.convert = true ∨ ∃ schemas, rule = .alternatives schemas ∧
            ∃ schema ∈ schemas, (schema.accept path value).answer = .ok accepted) := by
    intro parts rebuild said
    rcases Judging.verdict_of_ofParts said with pass | ⟨accepted, same, on⟩
    · exact .inl pass
    · exact .inr (.inr ⟨accepted, same, .inl on⟩)
  by_cases plain : rule.isPlain = true
  · exact .inl ((rule.judge_tests plain setting path value).pass_of_ok said)
  · cases rule with
    | optional enabled =>
        simp only [judge, Judging.say, Run.answer, Except.ok.injEq] at said
        split at said
        · exact .inr (.inl ⟨said.symm, fun level => by cases level⟩)
        · exact .inl said.symm
    | listing kind set operating =>
        rcases Listing.verdict_of_judge said with pass | abort
        · exact .inl pass
        · cases kind with
          | invalid => exact .inl ((Judging.immediate_ofBool _ _ _ _).tests.pass_of_ok said)
          | valid | allow => exact .inr (.inl ⟨abort, fun level => by cases level⟩)
    | alternatives schemas =>
        obtain ⟨accepted, same, schema, member, accepts⟩ := accepted_of_judgeAlternatives said
        exact .inr (.inr ⟨accepted, same, .inr ⟨schemas, rfl, schema, member, accepts⟩⟩)
    | keys rule =>
        simp only [judge, KeyRule.judge] at said
        split at said
        · cases said
        · split at said
          · cases said
          · exact ofParts said
    | pattern rule =>
        simp only [judge, PatternRule.judge] at said
        split at said
        · exact .inl (Except.ok.inj said).symm
        · split at said
          · cases said
          · split at said
            · cases said
            · exact ofParts said
    | items schema =>
        cases schema with
        | none => exact .inl (Except.ok.inj said).symm
        | some schema =>
            simp only [judge, judgeEach] at said
            split at said
            · cases said
            · exact ofParts said
    | ordered schemas =>
        simp only [judge, judgeOrdered] at said
        split at said
        · cases said
        · split at said
          · exact ofParts said
          · cases said
    | declared declaration => exact absurd rfl (other declaration)
    | _ => exact absurd rfl plain

end Rule

end Vetting
