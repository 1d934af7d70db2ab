import Vetting.Proofs.Schema.Standard
import Vetting.Proofs.Validation.Judging

/-!
# Values stay as they are without conversion

Where conversion is off, no standard rule has another form of a value to say.  Containers say no more than
that the value passes, and alternatives bring what one of them has accepted, which is the value itself by the
same argument one level below.  So the outcome of a value that is there is about that very value
(`Schema.value_of_not_convert`).
-/

namespace Vetting

variable {σ : Type} {setting : Setting} {path : Path} {value : Value}

/-- The verdict has no other form of the value. -/
def Verdict.Leaves (value : Value) : Verdict → Prop
  | pass | abort => True
  | replace next => next = value

/-- Whatever the schema says of a value that is there, it says of that very value. -/
def Checked.Preserves (schema : Checked) : Prop :=
  ∀ {path value outcome}, value.isPresent = true → (schema.vet path value).answer = .ok outcome →
    outcome.value = value

namespace Rule

/-- Without conversion a standard rule has no other form of a value, as long as the schemas inside have none. -/
theorem leaves_of_judge (off : setting.convert = false) {translate : σ → Checked}
    (preserves : ∀ part outcome, ((translate part).vet path value).answer = .ok outcome → outcome.value = value)
    {rule : Rule σ}
    (standard : rule.unwired ∈ Ruleset.standardRules) {verdict : Verdict}
    (said : ((rule.map translate).judge setting path value).answer = .ok verdict) :
    verdict.Leaves value := by
  rcases verdict_of_judge (ne_declared_of_map (ne_declared_of_standard standard)) said with
    rfl | ⟨rfl, -⟩ | ⟨accepted, rfl, on | ⟨schemas, same, schema, member, accepts⟩⟩
  · trivial
  · trivial
  · exact absurd (off.symm.trans on) Bool.false_ne_true
  · cases rule with
    | alternatives parts =>
        obtain rfl := Rule.alternatives.inj same
        obtain ⟨part, -, rfl⟩ := List.mem_map.mp member
        exact preserves part _ (Checked.outcome_of_accept accepts)
    | _ => cases same

/-- Without conversion no value is offered in place of one that is turned down. -/
theorem attempt_of_not_convert (off : setting.convert = false) (rule : Rule Checked) :
    rule.attempt setting path value =
      (rule.judge setting path value).bind fun verdict => .done (value, verdict) := by
  unfold attempt
  congr 1
  funext said
  simp only [off, Bool.false_eq_true, ↓reduceIte]
  split <;> rfl

end Rule

/-- The value passes as it is, or one of the rules turns it down as it is. -/
def Ends (setting : Setting) (path : Path) (rules : List (Rule Checked)) (value : Value) (outcome : Outcome) : Prop :=
  outcome = .pass value ∨ ∃ rule ∈ rules, ∃ report,
    (rule.judge setting path value).answer = .error (.invalid report) ∧ outcome = setting.failed value report

/-- A value that ends among some rules does so with one more rule before them. -/
theorem Ends.cons {rules : List (Rule Checked)} {outcome : Outcome} (ends : Ends setting path rules value outcome)
    (rule : Rule Checked) : Ends setting path (rule :: rules) value outcome := by
  rcases ends with passed | ⟨other, member, told⟩
  · exact .inl passed
  · exact .inr ⟨other, List.mem_cons_of_mem rule member, told⟩

/-- Rules that have no other form of a value let it pass as it is, or turn it down as it is. -/
theorem ends_of_vetBy (off : setting.convert = false) {rules : List (Rule Checked)}
    (leaves : ∀ rule ∈ rules, ∀ verdict, (rule.judge setting path value).answer = .ok verdict →
      verdict.Leaves value) {outcome : Outcome}
    (ended : (vetBy setting path rules value).answer = .ok outcome) : Ends setting path rules value outcome := by
  induction rules with
  | nil => exact .inl (Except.ok.inj ended).symm
  | cons rule rest ih =>
      have further (later : (vetBy setting path rest value).answer = .ok outcome) :=
        (ih (fun other member => leaves other (List.mem_cons_of_mem _ member)) later).cons rule
      rw [vetBy, Run.answer_bind, rule.attempt_of_not_convert off, Run.answer_bind] at ended
      cases said : (rule.judge setting path value).answer with
      | error fault =>
          rw [said] at ended
          cases fault with
          | usage error => cases ended
          | invalid report => exact .inr ⟨rule, List.mem_cons_self, report, said, (Except.ok.inj ended).symm⟩
      | ok verdict =>
          have left := leaves rule List.mem_cons_self verdict said
          rw [said] at ended
          cases verdict with
          | pass => exact further ended
          | abort => exact .inl (Except.ok.inj ended).symm
          | replace next =>
              obtain rfl : next = value := left
              exact further ended

/-- Rules that have no other form of a value leave it as it is, one after the other. -/
theorem value_of_vetBy (off : setting.convert = false) {rules : List (Rule Checked)}
    (leaves : ∀ rule ∈ rules, ∀ verdict, (rule.judge setting path value).answer = .ok verdict →
      verdict.Leaves value) {outcome : Outcome}
    (ended : (vetBy setting path rules value).answer = .ok outcome) : outcome.value = value := by
  rcases ends_of_vetBy off leaves ended with rfl | ⟨_, _, _, _, rfl⟩ <;> rfl

/-- The rules that judge a value that is there: a stand-in that comes first has no say about it. -/
def judges : List (Rule σ) → List (Rule σ)
  | [] => []
  | first :: rest => if first.standIn?.isSome then rest else first :: rest

/-- The rules that judge are taken from the rules in their order. -/
theorem judges_sublist (rules : List (Rule σ)) : (judges rules).Sublist rules := by
  cases rules with
  | nil => exact List.Sublist.refl _
  | cons first rest =>
      rw [judges]
      split
      · exact List.sublist_cons_self _ _
      · exact List.Sublist.refl _

/-- A value that is there meets the rules that judge, and no others. -/
theorem vetWith_of_isPresent (present : value.isPresent = true) (rules : List (Rule Checked)) :
    vetWith setting rules path value = vetBy setting path (judges rules) value := by
  cases rules with
  | nil => rfl
  | cons first rest =>
      cases standIn : first.standIn? with
      | none => simp only [vetWith, judges, standIn, Option.isSome_none, Bool.false_eq_true, ↓reduceIte]
      | some value => simp only [vetWith, judges, standIn, present, Option.isSome_some, ↓reduceIte]

namespace Schema

/-- Without conversion a schema of standard rules says whatever it says of a value that is there of that very
value. -/
theorem preserves_checked (off : setting.convert = false) {schema : Schema}
    (standard : schema.Everywhere CallsStandard) : (schema.checked setting).Preserves := by
  induction standard with
  | @intro schema here inside ih =>
      intro path value outcome present ended
      obtain ⟨entries, same, judgement⟩ := exists_judged_of_answer ih ended
      simp only [judged, vetWith_of_isPresent present] at judgement
      refine value_of_vetBy off (fun rule member verdict said => ?_) judgement
      obtain ⟨entry, listed, rfl⟩ := List.mem_map.mp ((judges_sublist _).subset member)
      exact Rule.leaves_of_judge off (fun part outcome => part.property present)
        (allowed_of_assembled here (fun _ known => known) same entry listed) said

/-- **Frame.**  Without conversion the outcome of a value that is there is about that very value, whether the
run is driven to its end or given a single turn. -/
theorem value_of_not_convert {schema : Schema} (standard : schema.Everywhere CallsStandard)
    (off : setting.convert = false) (present : value.isPresent = true) {outcome : Outcome}
    (ended : (schema.vet setting path value).answer = .ok outcome ∨
      (schema.vet setting path value).answerAtOnce? = some (.ok outcome)) :
    outcome.value = value := by
  have answered : (schema.vet setting path value).answer = .ok outcome := by
    rcases ended with ended | atOnce
    · exact ended
    · exact Run.answer_of_answerAtOnce? atOnce
  exact preserves_checked off standard present answered

/-- A text in place of an absent one. -/
def ofStandIn : Schema :=
  .ofCalls 1 [(.standIn .undefined false, [.value (.string "x")])]

/-- An object whose only member has a stand-in. -/
def ofMemberWithStandIn : Schema :=
  .ofCalls 0 [(.keys ⟨[], [], false, false⟩, [.keys [("a", ofStandIn)]])]

/-- The schema has standard calls only. -/
theorem everywhere_ofMemberWithStandIn : ofMemberWithStandIn.Everywhere CallsStandard := by
  have inner : ofStandIn.Everywhere CallsStandard := by
    refine everywhere_ofCalls (callsOnly_ofCalls ?_) ?_
    · simp [Ruleset.standardRules, Ruleset.generalRules]
    · simp [Argument.parts]
  refine everywhere_ofCalls (callsOnly_ofCalls ?_) ?_
  · simp [Ruleset.standardRules, Ruleset.objectRules]
  · simpa [Argument.parts] using inner

/-- The stand-in of a member is not written into an object that lacks the member. -/
theorem value_of_not_convert_ofMemberWithStandIn :
    ∃ outcome, (ofMemberWithStandIn.vet ⟨false, false, none, ⟨0, 0⟩⟩ [] (.object [])).answer = .ok outcome ∧
      outcome.report = none ∧ outcome.value = .object [] := by
  have passes : (ofMemberWithStandIn.vet ⟨false, false, none, ⟨0, 0⟩⟩ [] (.object [])).answer.toOption.map
      (fun outcome => outcome.report.isNone) = some true := by
    decide +kernel
  cases answered : (ofMemberWithStandIn.vet ⟨false, false, none, ⟨0, 0⟩⟩ [] (.object [])).answer with
  | error misuse =>
      rw [answered] at passes
      cases passes
  | ok outcome =>
      rw [answered] at passes
      exact ⟨outcome, rfl, Option.isNone_iff_eq_none.mp (Option.some.inj passes),
        value_of_not_convert everywhere_ofMemberWithStandIn rfl rfl (.inl answered)⟩

end Schema

end Vetting
