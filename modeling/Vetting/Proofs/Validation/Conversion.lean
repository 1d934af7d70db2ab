import Vetting.Proofs.Validation.Frame

/-!
# Conversion is conservative

A value that passes without conversion needs none: nothing is offered in its place, and a container is made
anew of the very parts that it had.  So the run with conversion is the run without it, turn for turn
(`Schema.vet_convert`), unless a stand-in or an alternative brings a value of its own.
-/

namespace Vetting

variable {σ : Type} {setting : Setting} {path : Path} {value : Value}

/-- The setting with conversion on or off. -/
def Setting.converting (setting : Setting) (convert : Bool) : Setting :=
  { setting with convert }

/-- Where the first schema lets a value pass, it is as it was, and the second one runs just as the first. -/
def Checked.Conserves (plain converting : Checked) : Prop :=
  ∀ path value accepted, (plain.vet path value).answer = .ok (.pass accepted) →
    accepted = value ∧ converting.vet path value = plain.vet path value

/-- A schema that accepts a value without conversion accepts it as it is, and runs alike with conversion. -/
theorem Checked.Conserves.accept {plain converting : Checked} (conserves : plain.Conserves converting)
    {accepted : Value} (accepts : (plain.accept path value).answer = .ok accepted) :
    accepted = value ∧ converting.accept path value = plain.accept path value := by
  obtain ⟨same, run⟩ := conserves path value accepted (outcome_of_accept accepts)
  refine ⟨same, ?_⟩
  unfold Checked.accept
  rw [run]

/-- The second judging takes the turns of the first, which passes or ends the validation, and says the same;
of a value that passes it may also say its very form. -/
def Judging.Conserves (value : Value) (plain converting : Judging) : Prop :=
  ∀ verdict, plain.answer = .ok verdict →
    (verdict = .abort ∧ converting = plain) ∨
    (verdict = .pass ∧ ∃ said, (said = .pass ∨ said = .replace value) ∧
      converting = plain.bind fun _ => .done (.ok said))

namespace Judging

/-- A run can be cut short to its answer. -/
theorem bind_answer {α : Type} (run : Run α) : (run.bind fun _ => .done run.answer) = run := by
  calc
    (run.bind fun _ => .done run.answer) = run.bind .done := Run.bind_congr rfl
    _ = run := run.bind_done

/-- A judging that has no other form of the value to say is conserved as it stands. -/
theorem conserves_self {judging : Judging}
    (never : ∀ verdict, judging.answer = .ok verdict → verdict = .pass ∨ verdict = .abort) :
    judging.Conserves value judging := by
  intro verdict said
  rcases never verdict said with rfl | rfl
  · refine .inr ⟨rfl, .pass, .inl rfl, ?_⟩
    rw [← said, bind_answer]
  · exact .inl ⟨rfl, rfl⟩

/-- A judging that fails has nothing to conserve. -/
theorem conserves_of_fail {path : Path} {name : String} {particulars : Context} {other : Judging} :
    (fail path name particulars).Conserves value other := by
  intro verdict said
  cases said

/-- A container whose parts are conserved is conserved if the old parts make the old value. -/
theorem conserves_ofParts {κ : Type} {items : List κ} {plain converting : κ → Run (Except Fault Value)}
    (original : κ → Value) {rebuild : List Value → Value}
    (parts : ∀ item ∈ items, ∀ accepted, (plain item).answer = .ok accepted →
      accepted = original item ∧ converting item = plain item)
    (rebuilt : rebuild (items.map original) = value) :
    (ofParts (setting.converting false) (items.map plain) rebuild).Conserves value
      (ofParts (setting.converting true) (items.map converting) rebuild) := by
  intro verdict said
  obtain ⟨accepted, answered, joined, rfl⟩ := accepted_of_ofParts said
  have each : ∀ item ∈ items, (plain item).answer = .ok (original item) ∧ converting item = plain item := by
    intro item member
    have answer : (plain item).answer ∈ accepted.map Except.ok := by
      rw [← answered, List.map_map]
      exact List.mem_map_of_mem (f := Run.answer ∘ plain) member
    obtain ⟨found, -, same⟩ := List.mem_map.mp answer
    obtain ⟨rfl, run⟩ := parts item member found same.symm
    exact ⟨same.symm, run⟩
  have sameRuns : items.map converting = items.map plain :=
    List.map_congr_left fun item member => (each item member).2
  have originals : accepted = items.map original := by
    have injective : Function.Injective (Except.ok : Value → Except Fault Value) := fun _ _ => Except.ok.inj
    refine List.map_injective_iff.mpr injective ?_
    rw [← answered, List.map_map, List.map_map]
    exact List.map_congr_left fun item member => (each item member).1
  refine .inr ⟨by simp only [Setting.converting, Bool.false_eq_true, ↓reduceIte], .replace value, .inr rfl, ?_⟩
  rw [ofParts, ofParts, sameRuns, Run.bind_bind]
  refine Run.bind_congr ?_
  simp only [joined, Setting.converting, ↓reduceIte, say, Run.done_bind, originals, rebuilt]

end Judging

/-! ## Containers -/

/-- Writing the old members back leaves an object as it was; those that are missing are not added. -/
theorem writeBack_self (members : Members Value) (names : List String) :
    writeBack members (names.map fun name => (name, (members.get? name).getD .undefined)) = members := by
  unfold writeBack
  induction names with
  | nil => rfl
  | cons name rest ih =>
      rw [List.map_cons, List.foldl_cons]
      have unchanged : (if ((members.get? name).getD .undefined).isPresent
          then members.put name ((members.get? name).getD .undefined) else members) = members := by
        cases found : members.get? name with
        | none => rfl
        | some member => simp only [Option.getD_some, Members.put_get? found, ite_self]
      simp only [unchanged]
      exact ih

/-- Which members a key map knows does not depend on what the schemas of the keys come to. -/
theorem KeyRule.knows_map {τ : Type} (f : σ → τ) (rule : KeyRule σ) (name : String) :
    knows { rule with keys := rule.keys.map fun (name, part) => (name, f part) } name = rule.knows name := by
  simp only [knows, Members.has, Members.get?_map, Option.isSome_map]

/-- Translated schemas do not show in which member is a stranger. -/
theorem KeyRule.stranger?_map {τ : Type} (f : σ → τ) (rule : KeyRule σ) (members : Members Value) :
    stranger? { rule with keys := rule.keys.map fun (name, part) => (name, f part) } members =
      rule.stranger? members := by
  simp only [stranger?, knows_map]

section Containers

variable {plain converting : σ → Checked} (conserves : ∀ part, (plain part).Conserves (converting part))

include conserves

/-- What members say without conversion is conserved by what they say with it. -/
theorem conserves_judgeMembers (setting : Setting) (path : Path) (members : Members Value) (schemas : Members σ) :
    (judgeMembers (setting.converting false) path members
        (schemas.map fun (name, part) => (name, plain part))).Conserves (.object members)
      (judgeMembers (setting.converting true) path members
        (schemas.map fun (name, part) => (name, converting part))) := by
  have names : ∀ translate : σ → Checked,
      Members.names (schemas.map fun (name, part) => (name, translate part)) = schemas.map Prod.fst := by
    intro translate
    simp only [Members.names, List.map_map, Function.comp_def]
  unfold judgeMembers
  simp only [List.map_map, Function.comp_def, names]
  refine Judging.conserves_ofParts
    (fun entry : String × σ => (members.get? entry.1).getD .undefined) ?_ ?_
  · rintro ⟨name, part⟩ - accepted accepts
    exact Checked.Conserves.accept (conserves part) accepts
  · rw [List.zip_map']
    have listed := writeBack_self members (schemas.map Prod.fst)
    rw [List.map_map] at listed
    exact congrArg Value.object listed

/-- What items say without conversion is conserved by what they say with it. -/
theorem conserves_judgeItems (setting : Setting) (path : Path) (items : List (Value × σ)) :
    (judgeItems (setting.converting false) path
        (items.map fun (item, part) => (item, plain part))).Conserves (.array (items.map Prod.fst))
      (judgeItems (setting.converting true) path
        (items.map fun (item, part) => (item, converting part))) := by
  unfold judgeItems
  simp only [List.zipIdx_map, List.map_map, Function.comp_def]
  refine Judging.conserves_ofParts (fun entry : (Value × σ) × Nat => entry.1.1) ?_ ?_
  · rintro ⟨⟨item, part⟩, place⟩ - accepted accepts
    exact Checked.Conserves.accept (conserves part) accepts
  · have items_eq : items.zipIdx.map (fun entry => entry.1.1) = items.map Prod.fst := by
      conv_rhs => rw [← items.zipIdx_map_fst 0, List.map_map]
      rfl
    rw [items_eq]

/-- What a key map says without conversion is conserved by what it says with it. -/
theorem conserves_judgeKeys (rule : KeyRule σ) :
    (KeyRule.judge { rule with keys := rule.keys.map fun (name, part) => (name, plain part) }
        (setting.converting false) path value).Conserves value
      (KeyRule.judge { rule with keys := rule.keys.map fun (name, part) => (name, converting part) }
        (setting.converting true) path value) := by
  cases value with
  | object members =>
      simp only [KeyRule.judge, Value.asMembers?, KeyRule.stranger?_map]
      cases rule.stranger? members with
      | some name => exact Judging.conserves_of_fail
      | none => exact conserves_judgeMembers conserves setting path members rule.keys
  | _ => exact Judging.conserves_of_fail

/-- What a pattern says without conversion is conserved by what it says with it. -/
theorem conserves_judgePattern (rule : PatternRule σ) :
    (PatternRule.judge { rule with match? := rule.match?.map fun (names, part) => (names, plain part) }
        (setting.converting false) path value).Conserves value
      (PatternRule.judge { rule with match? := rule.match?.map fun (names, part) => (names, converting part) }
        (setting.converting true) path value) := by
  obtain ⟨match?, hasKeys, allowsUnknown⟩ := rule
  cases match? with
  | none => exact Judging.conserves_self fun verdict said => .inl (Except.ok.inj said).symm
  | some names =>
      obtain ⟨expression, part⟩ := names
      cases value with
      | object members =>
          have judged := conserves_judgeMembers conserves setting path members
            (((Members.names members).filter expression.occursIn).map fun name => (name, part))
          simp only [List.map_map, Function.comp_def] at judged
          simp only [PatternRule.judge, Option.map_some, Value.asMembers?]
          generalize (if (hasKeys || allowsUnknown) = true then none
            else (Members.names members).find? fun name => !expression.occursIn name) = stranger
          cases stranger with
          | some name => exact Judging.conserves_of_fail
          | none => exact judged
      | _ => exact Judging.conserves_of_fail

/-- What is said of each item without conversion is conserved by what is said with it. -/
theorem conserves_judgeEach (part : σ) :
    (judgeEach (setting.converting false) (plain part) path value).Conserves value
      (judgeEach (setting.converting true) (converting part) path value) := by
  cases value with
  | array items =>
      have judged := conserves_judgeItems conserves setting path (items.map fun item => (item, part))
      simp only [List.map_map, Function.comp_def, List.map_id'] at judged
      exact judged
  | _ => exact Judging.conserves_of_fail

/-- What is said of ordered items without conversion is conserved by what is said with it. -/
theorem conserves_judgeOrdered (parts : List σ) :
    (judgeOrdered (setting.converting false) (parts.map plain) path value).Conserves value
      (judgeOrdered (setting.converting true) (parts.map converting) path value) := by
  cases value with
  | array items =>
      simp only [judgeOrdered, Value.asItems?, List.length_map]
      by_cases fits : items.length = parts.length
      · have judged := conserves_judgeItems conserves setting path (items.zip parts)
        rw [List.map_fst_zip (Nat.le_of_eq fits)] at judged
        simp only [fits, ↓reduceIte, List.zip_map_right]
        exact judged
      · simp only [fits, ↓reduceIte]
        exact Judging.conserves_of_fail
  | _ => exact Judging.conserves_of_fail

end Containers

/-! ## Rules -/

/-- A standard rule other than the one that brings a value in place of an absent one. -/
def Blueprint.WithoutStandIn (blueprint : Blueprint) : Prop :=
  blueprint ∈ Ruleset.standardRules ∧ blueprint.name ≠ "default"

/-- A standard rule that brings no value of its own. -/
def Blueprint.BringsNothing (blueprint : Blueprint) : Prop :=
  blueprint ∈ Ruleset.standardRules ∧ blueprint.name ≠ "default" ∧ blueprint.name ≠ "alternatives"

/-- A rule that brings nothing brings no stand-in. -/
theorem Blueprint.BringsNothing.withoutStandIn {blueprint : Blueprint} (nothing : blueprint.BringsNothing) :
    blueprint.WithoutStandIn :=
  ⟨nothing.1, nothing.2.1⟩

namespace Rule

/-- A plain rule does not know whether conversion is on, nor what its schemas come to. -/
theorem judge_of_isPlain {rule : Rule σ} (plain : rule.isPlain = true) (first second : σ → Checked)
    (convert other : Bool) :
    (rule.map first).judge (setting.converting convert) path value =
      (rule.map second).judge (setting.converting other) path value := by
  cases rule with
  | custom predicate => cases predicate <;> rfl
  | regex expression => cases expression <;> rfl
  | optional _ | listing _ _ _ | alternatives _ | keys _ | pattern _ | items _ | ordered _ | declared _ =>
      cases plain
  | _ => rfl

/-- Whether a rule is plain does not depend on the schemas inside. -/
theorem isPlain_map (f : σ → Checked) (rule : Rule σ) : (rule.map f).isPlain = rule.isPlain := by
  cases rule <;> rfl

/-- Where a rule lets a value pass without conversion, it does so with conversion. -/
theorem conserves_judge {plain converting : σ → Checked}
    (conserves : ∀ part, (plain part).Conserves (converting part)) {rule : Rule σ}
    (origin : Blueprint.BringsNothing rule.unwired) :
    ((rule.map plain).judge (setting.converting false) path value).Conserves value
      ((rule.map converting).judge (setting.converting true) path value) := by
  by_cases simple : rule.isPlain = true
  · rw [judge_of_isPlain simple converting plain true false]
    refine Judging.conserves_self fun verdict said => .inl ?_
    refine (judge_tests ?_ _ _ _).pass_of_ok said
    rw [isPlain_map, simple]
  · cases rule with
    | optional enabled =>
        refine Judging.conserves_self fun verdict said => ?_
        simp only [map, judge, Judging.say, Run.answer, Except.ok.injEq] at said
        split at said
        · exact .inr said.symm
        · exact .inl said.symm
    | listing kind set operating => exact Judging.conserves_self fun verdict said => Listing.verdict_of_judge said
    | alternatives schemas => exact absurd rfl origin.2.2
    | keys rule => exact conserves_judgeKeys conserves rule
    | pattern rule => exact conserves_judgePattern conserves rule
    | items schema =>
        cases schema with
        | none => exact Judging.conserves_self fun verdict said => .inl (Except.ok.inj said).symm
        | some part => exact conserves_judgeEach conserves part
    | ordered parts => exact conserves_judgeOrdered conserves parts
    | declared declaration => exact absurd rfl (ne_declared_of_standard origin.1 declaration)
    | _ => exact absurd rfl simple

end Rule

/-! ## Schemas -/

/-- An outcome with a report is no pass. -/
theorem Setting.failed_ne_pass (setting : Setting) (value accepted : Value) (report : Report) :
    setting.failed value report ≠ .pass accepted := by
  intro same
  have reports := congrArg Outcome.report same
  simp only [failed, Outcome.fail, Outcome.pass, reduceCtorEq] at reports

/-- What rules let pass without conversion they let pass with conversion, turn for turn. -/
theorem conserves_vetBy {plain converting : σ → Checked}
    (conserves : ∀ part, (plain part).Conserves (converting part)) {rules : List (Rule σ)}
    (origins : ∀ rule ∈ rules, Blueprint.BringsNothing rule.unwired) {accepted : Value}
    (passes : (vetBy (setting.converting false) path (rules.map (Rule.map plain)) value).answer =
      .ok (.pass accepted)) :
    accepted = value ∧
      vetBy (setting.converting true) path (rules.map (Rule.map converting)) value =
        vetBy (setting.converting false) path (rules.map (Rule.map plain)) value := by
  induction rules with
  | nil => exact ⟨(congrArg Outcome.value (Except.ok.inj passes)).symm, rfl⟩
  | cons rule rest ih =>
      have further := ih fun other member => origins other (List.mem_cons_of_mem _ member)
      have judged : ((rule.map plain).judge (setting.converting false) path value).Conserves value
          ((rule.map converting).judge (setting.converting true) path value) :=
        Rule.conserves_judge conserves (origins rule List.mem_cons_self)
      have off : (setting.converting false).convert = false := rfl
      simp only [List.map_cons, vetBy, Rule.attempt_of_not_convert off, Run.bind_bind, Run.done_bind,
        Run.answer_bind] at passes ⊢
      cases said : ((rule.map plain).judge (setting.converting false) path value).answer with
      | error fault =>
          rw [said] at passes
          cases fault with
          | usage error => cases passes
          | invalid report =>
              exact absurd (Except.ok.inj passes) ((setting.converting false).failed_ne_pass _ _ _)
      | ok verdict =>
          rw [said] at passes
          rcases judged verdict said with ⟨rfl, same⟩ | ⟨rfl, other, form, same⟩
          · refine ⟨(congrArg Outcome.value (Except.ok.inj passes)).symm, ?_⟩
            rw [Rule.attempt, same, Run.bind_bind]
            refine Run.bind_congr ?_
            simp only [said, Run.done_bind]
          · obtain ⟨unchanged, later⟩ := further passes
            refine ⟨unchanged, ?_⟩
            rw [Rule.attempt, same, Run.bind_bind, Run.bind_bind]
            refine Run.bind_congr ?_
            rcases form with rfl | rfl
            · simp only [said, Run.done_bind, later]
            · simp only [said, Run.done_bind, later]

/-- No stand-in comes first where none is called for. -/
theorem standIn?_of_withoutStandIn {rule : Rule σ} (origin : Blueprint.WithoutStandIn rule.unwired) :
    rule.standIn? = none := by
  cases rule with
  | standIn old operating => exact absurd rfl origin.2
  | declared declaration => exact absurd rfl (Rule.ne_declared_of_standard origin.1 declaration)
  | _ => rfl

/-- Where no stand-in is called for, absent values are judged like all others. -/
theorem vetWith_of_withoutStandIn {translate : σ → Checked} {rules : List (Rule σ)}
    (origins : ∀ rule ∈ rules, Blueprint.WithoutStandIn rule.unwired) :
    vetWith setting (rules.map (Rule.map translate)) path value =
      vetBy setting path (rules.map (Rule.map translate)) value := by
  cases rules with
  | nil => rfl
  | cons first rest =>
      have nothing := standIn?_of_withoutStandIn (origins first List.mem_cons_self)
      simp only [List.map_cons, vetWith, Rule.standIn?_map, nothing]

/-- What entries make of a value where no stand-in is called for: their rules judge it one after the other. -/
theorem Schema.judged_of_withoutStandIn {translate : σ → Checked} {entries : List (Instance σ)}
    (origins : ∀ entry ∈ entries, Blueprint.WithoutStandIn entry.rule.unwired) :
    judged setting translate path value (.ok entries) =
      vetBy setting path ((entries.map Instance.rule).map (Rule.map translate)) value := by
  rw [← vetWith_of_withoutStandIn (List.forall_mem_map.mpr origins), List.map_map]
  rfl

namespace Schema

/-- What a schema says without conversion is conserved by what it says with it. -/
theorem conserves_checked {schema : Schema}
    (nothing : schema.Everywhere (CallsOnly Blueprint.BringsNothing)) :
    (schema.checked (setting.converting false)).Conserves (schema.checked (setting.converting true)) := by
  induction nothing with
  | @intro schema here inside ih =>
      intro path value accepted passes
      change (schema.vet _ path value).answer = _ at passes
      change accepted = value ∧ schema.vet _ path value = schema.vet _ path value
      obtain ⟨assembled, same⟩ := exists_assembled_over ih
      rw [vet_over same] at passes
      rw [vet_over same, vet_over same]
      cases error : schema.error with
      | some fault =>
          rw [error] at passes
          cases passes
      | none =>
          rw [error] at passes
          cases assembled with
          | error fault => cases passes
          | ok entries =>
              have origins := allowed_of_assembled here (fun _ known => known.1) same
              simp only [Run.answer,
                judged_of_withoutStandIn fun entry member => (origins entry member).withoutStandIn] at passes ⊢
              obtain ⟨unchanged, run⟩ :=
                conserves_vetBy (fun part => part.property) (List.forall_mem_map.mpr origins) passes
              exact ⟨unchanged, congrArg (Run.opening schema.handle) run⟩

/-- **Conversion is conservative.**  Where nothing brings a value of its own, a value that passes without
conversion passes with it, as the value that it is and turn for turn. -/
theorem vet_converting {schema : Schema}
    (nothing : schema.Everywhere (CallsOnly Blueprint.BringsNothing)) {accepted : Value}
    (passes : (schema.vet (setting.converting false) path value).answer = .ok (.pass accepted)) :
    (schema.vet (setting.converting true) path value).answer = .ok (.pass value) ∧
      schema.vet (setting.converting true) path value = schema.vet (setting.converting false) path value := by
  obtain ⟨rfl, run⟩ := conserves_checked nothing path value accepted passes
  change schema.vet _ path accepted = schema.vet _ path accepted at run
  exact ⟨run ▸ passes, run⟩

/-- A text. -/
def ofText : Schema :=
  .ofCalls 1 [(.check .string, [])]

/-- A text that may be absent. -/
def ofOptionalText : Schema :=
  .ofCalls 2 [(.optional false, []), (.check .string, [])]

/-- An object of two texts, one of which may be absent. -/
def ofTwoTexts : Schema :=
  .ofCalls 0 [(.keys ⟨[], [], false, false⟩, [.keys [("a", ofText), ("b", ofOptionalText)]])]

/-- The schema is made of rules that bring nothing. -/
theorem everywhere_ofTwoTexts : ofTwoTexts.Everywhere (CallsOnly Blueprint.BringsNothing) := by
  have text : Blueprint.BringsNothing (.check .string) := by
    simp [Blueprint.BringsNothing, Ruleset.standardRules, Ruleset.stringRules, Rule.name, Check.name]
  have absence : Blueprint.BringsNothing (.optional false) := by
    simp [Blueprint.BringsNothing, Ruleset.standardRules, Ruleset.generalRules, Rule.name]
  have keys : Blueprint.BringsNothing (.keys ⟨[], [], false, false⟩) := by
    simp [Blueprint.BringsNothing, Ruleset.standardRules, Ruleset.objectRules, Rule.name]
  have first : ofText.Everywhere (CallsOnly Blueprint.BringsNothing) := by
    refine everywhere_ofCalls (callsOnly_ofCalls ?_) ?_
    · simpa using text
    · simp
  have second : ofOptionalText.Everywhere (CallsOnly Blueprint.BringsNothing) := by
    refine everywhere_ofCalls (callsOnly_ofCalls ?_) ?_
    · simpa using ⟨absence, text⟩
    · simp
  refine everywhere_ofCalls (callsOnly_ofCalls ?_) ?_
  · simpa using keys
  · simpa [Argument.parts] using ⟨first, second⟩

/-- With conversion the member that is there is written back as it was, and the other one is not made up. -/
theorem vet_converting_ofTwoTexts :
    (ofTwoTexts.vet ⟨true, false, none, ⟨0, 0⟩⟩ [] (.object [("a", .string "x")])).answer =
      .ok (.pass (.object [("a", .string "x")])) := by
  have passes : (ofTwoTexts.vet ⟨false, false, none, ⟨0, 0⟩⟩ [] (.object [("a", .string "x")])).answer.toOption.map
      (fun outcome => outcome.report.isNone) = some true := by
    decide +kernel
  cases answered : (ofTwoTexts.vet ⟨false, false, none, ⟨0, 0⟩⟩ [] (.object [("a", .string "x")])).answer with
  | error misuse =>
      rw [answered] at passes
      cases passes
  | ok outcome =>
      obtain ⟨accepted, report⟩ := outcome
      rw [answered] at passes
      obtain rfl : report = none := Option.isNone_iff_eq_none.mp (Option.some.inj passes)
      exact (@vet_converting ⟨false, false, none, ⟨0, 0⟩⟩ _ _ _ everywhere_ofTwoTexts _ answered).1

end Schema

end Vetting
