import Vetting.Proofs.Listing.Verdicts
import Vetting.Proofs.Run.Prompt
import Vetting.Proofs.Schema.Family
import Vetting.Proofs.Validation.Alerts
import Vetting.Proofs.Validation.AtOnce

/-!
# What becomes of errors of use

A validation that asks a schema without rules for its rules ends with the error of this schema, provided that its
rules keep faults (`Schema.answer_of_alert`).  Two rules do not always keep them.  Alternatives go on with the next
schema after any failure, so an error counts no more than a finding there.  And containers that join more than thirty
parts take the results in order: while an earlier part pauses, an error of a later one stays unseen, and the failure
of the earlier one comes first.  Alternatives keep faults if there is one of them at most or none of them raises an
alert, and containers do if they have few parts, or parts that never pause, or parts that raise no alert.
-/

namespace Vetting

open Run (Blamed)

variable {σ τ : Type} {setting : Setting} {path : Path} {value : Value} {blames : Handle → SchemaFault → Prop}

/-- The misuse is an error that the schema is to blame for. -/
def Misuse.Blamed (blames : Handle → SchemaFault → Prop) (schema : Handle) : Misuse → Prop
  | .schema error => blames schema error
  | .suspended => False

def Fault.Blamed (blames : Handle → SchemaFault → Prop) (schema : Handle) : Fault → Prop
  | .usage error => error.Blamed blames schema
  | .invalid _ => False

/-- Whatever the schema vets, the run is over with an error as soon as an alert is raised. -/
def Checked.Prompt (blames : Handle → SchemaFault → Prop) (schema : Checked) : Prop :=
  ∀ path value, (schema.vet path value).Prompt (Blamed (Misuse.Blamed blames))

/-- A schema that is prompt is so if more may be blamed. -/
theorem Checked.Prompt.mono {wider : Handle → SchemaFault → Prop}
    (weaker : ∀ handle error, blames handle error → wider handle error) {schema : Checked}
    (prompt : schema.Prompt blames) : schema.Prompt wider := by
  refine fun path value => (prompt path value).mono fun handle result blame => ?_
  match result with
  | .error (.schema error) => exact weaker handle error blame

/-- A prompt schema is prompt where a value is to be accepted. -/
theorem Checked.Prompt.accept {schema : Checked} (prompt : schema.Prompt blames) (path : Path) (value : Value) :
    (schema.accept path value).Prompt (Blamed (Fault.Blamed blames)) := by
  refine (prompt path value).bind (fun result => ?_) fun handle result blame => ?_
  · match result with
    | .error error => exact .done _
    | .ok ⟨_, some report⟩ => exact .done _
    | .ok ⟨accepted, none⟩ => exact .done _
  · match result with
    | .error error => exact ⟨_, rfl, blame⟩

/-- The judging is over with an error as soon as an alert is raised. -/
def Judging.Prompt (blames : Handle → SchemaFault → Prop) (judging : Judging) : Prop :=
  Run.Prompt (Blamed (Fault.Blamed blames)) judging

/-! ## Rules that keep faults -/

variable {steady quiet : σ → Prop}

/-- No error gets lost where the schemas are joined: there are few of them, or none of them ever pauses, or none of
them raises an alert. -/
def Orderly (steady quiet : σ → Prop) (parts : List σ) : Prop :=
  parts.length ≤ Run.roundLimit ∨ (∀ part ∈ parts, steady part) ∨ ∀ part ∈ parts, quiet part

/-- Parts are orderly before a translation as after it. -/
theorem orderly_map {steady quiet : τ → Prop} {f : σ → τ} {parts : List σ} :
    Orderly steady quiet (parts.map f) ↔ Orderly (fun part => steady (f part)) (fun part => quiet (f part)) parts := by
  simp only [Orderly, List.length_map, List.forall_mem_map]

/-- Where all schemas are the same one, this one has to be steady or quiet. -/
theorem orderly_of_same {part : σ} (keeps : steady part ∨ quiet part) {parts : List σ}
    (same : ∀ other ∈ parts, other = part) : Orderly steady quiet parts :=
  .inr (keeps.imp (fun own other member => same other member ▸ own) fun own other member => same other member ▸ own)

/-- Questions about members go to their schemas. -/
theorem Inquiry.parts_ofMembers (members : Members Value) (parts : Members σ) :
    (ofMembers members parts).questions.map Question.part = parts.map Prod.snd := by
  simp only [ofMembers, List.map_map, Function.comp_def]

/-- Questions about items go to their schemas. -/
theorem Inquiry.parts_ofItems (items : List (Value × σ)) :
    (ofItems items).questions.map Question.part = items.map Prod.snd := by
  conv_rhs => rw [← List.zipIdx_map_fst 0 items]
  simp only [ofItems, List.map_map, Function.comp_def]

namespace Rule

/-- No error of the schemas inside gets lost, if the steady ones never pause and the quiet ones raise no alerts. -/
def KeepsFaults (steady quiet : σ → Prop) : Rule σ → Prop
  | alternatives parts => parts.length ≤ 1 ∨ ∀ part ∈ parts, quiet part
  | keys rule => Orderly steady quiet (rule.keys.map Prod.snd)
  | pattern rule => ∀ entry ∈ rule.match?, steady entry.2 ∨ quiet entry.2
  | items (some part) => steady part ∨ quiet part
  | ordered parts => Orderly steady quiet parts
  | _ => True

/-- Where no schema inside ever pauses, all rules but alternatives keep faults. -/
theorem keepsFaults_of_steady {rule : Rule σ} (all : ∀ part, steady part)
    (other : ∀ parts, rule ≠ .alternatives parts) : rule.KeepsFaults steady quiet := by
  cases rule with
  | alternatives parts => exact absurd rfl (other parts)
  | keys _ | ordered _ => exact .inr (.inl fun part _ => all part)
  | pattern _ => exact fun entry _ => .inl (all entry.2)
  | items part =>
      cases part with
      | none => trivial
      | some part => exact .inl (all part)
  | _ => trivial

/-- A rule keeps faults before a translation as after it. -/
theorem keepsFaults_map {steady quiet : τ → Prop} (f : σ → τ) (rule : Rule σ) :
    (rule.map f).KeepsFaults steady quiet ↔
      rule.KeepsFaults (fun part => steady (f part)) (fun part => quiet (f part)) := by
  cases rule with
  | alternatives parts => simp only [map, KeepsFaults, List.length_map, List.forall_mem_map]
  | keys rule => simp only [map, KeepsFaults, ← orderly_map, List.map_map, Function.comp_def]
  | pattern rule =>
      obtain ⟨match?, hasKeys, allowsUnknown⟩ := rule
      cases match? <;> simp [map, KeepsFaults]
  | items part => cases part <;> exact .rfl
  | ordered parts => exact orderly_map
  | _ => exact .rfl

/-- Whatever such a rule asks about a value, no error gets lost. -/
theorem orderly_of_inquiry {rule : Rule σ} (keeps : rule.KeepsFaults steady quiet) {inquiry : Inquiry σ}
    (asks : rule.inquiry? value = some inquiry) : Orderly steady quiet (inquiry.questions.map Question.part) := by
  cases rule with
  | keys rule =>
      obtain ⟨members, rfl, -, rfl⟩ := KeyRule.eq_of_inquiry asks
      rw [Inquiry.parts_ofMembers]
      exact keeps
  | pattern rule =>
      obtain ⟨names, part, members, matched, rfl, -, rfl⟩ := PatternRule.eq_of_inquiry asks
      rw [Inquiry.parts_ofMembers, List.map_map]
      refine orderly_of_same (keeps _ matched) fun other member => ?_
      obtain ⟨name, -, rfl⟩ := List.mem_map.mp member
      rfl
  | items part =>
      cases part with
      | none => cases asks
      | some part =>
          obtain ⟨items, -, rfl⟩ := Option.map_eq_some_iff.mp asks
          rw [Inquiry.parts_ofItems, List.map_map]
          refine orderly_of_same keeps fun other member => ?_
          obtain ⟨item, -, rfl⟩ := List.mem_map.mp member
          rfl
  | ordered parts =>
      obtain ⟨items, rfl, fits, rfl⟩ := eq_of_orderedInquiry asks
      rw [Inquiry.parts_ofItems, List.map_snd_zip (Nat.le_of_eq fits.symm)]
      exact keeps
  | _ => cases asks

end Rule

/-! ## What rules make of alerts -/

/-- What is made of the schemas ends with the alerts that it raises; the steady ones never pause, and the quiet ones
raise no alerts. -/
structure Answerable (blames : Handle → SchemaFault → Prop) (steady quiet : σ → Prop) (translate : σ → Checked) :
    Prop where
  prompt : ∀ part, (translate part).Prompt blames
  steadily : ∀ part, steady part → ∀ path value, ((translate part).vet path value).pauses = 0
  quietly : ∀ part, quiet part → (translate part).silent = translate part

variable {translate : σ → Checked} (answerable : Answerable blames steady quiet translate)

include answerable

/-- What is asked of a schema is as prompt as the schema is. -/
theorem Answerable.accept (part : σ) (path : Path) (value : Value) :
    ((translate part).accept path value).Prompt (Blamed (Fault.Blamed blames)) ∧
      (steady part → ((translate part).accept path value).pauses = 0) ∧
      (quiet part → ((translate part).accept path value).silent = (translate part).accept path value) := by
  refine ⟨(answerable.prompt part).accept path value, fun own => ?_, fun own => ?_⟩
  · rw [Checked.pauses_accept, answerable.steadily part own]
  · rw [Checked.silent_accept, answerable.quietly part own]

/-- An inquiry of orderly parts is prompt. -/
theorem Inquiry.prompt_judge {inquiry : Inquiry σ}
    (orderly : Orderly steady quiet (inquiry.questions.map Question.part)) :
    (inquiry.judge translate setting path).Prompt blames := by
  have accept := fun question : Question σ =>
    answerable.accept question.part (path ++ [question.step]) question.value
  have checks : ∀ check ∈ inquiry.questions.map fun question =>
      (translate question.part).accept (path ++ [question.step]) question.value,
      check.Prompt (Blamed (Fault.Blamed blames)) :=
    List.forall_mem_map.mpr fun question _ => (accept question).1
  refine (Run.Prompt.allPass ?_ checks).bind (fun result => ?_) fun handle result blame => ?_
  · simp only [Orderly, List.length_map, List.forall_mem_map] at orderly ⊢
    exact orderly.imp_right (Or.imp (fun steady question asked => (accept question).2.1 (steady question asked))
      fun quiet question asked => (accept question).2.2 (quiet question asked))
  · cases result <;> exact .done _
  · match result with
    | .error fault => exact ⟨_, rfl, blame⟩

/-- A choice between schemas is prompt if there is one at most, or if none of them raises alerts. -/
theorem prompt_judgeAlternatives {parts : List σ} (alone : parts.length ≤ 1 ∨ ∀ part ∈ parts, quiet part) :
    (judgeAlternatives (parts.map translate) path value).Prompt blames := by
  have accept := fun part => answerable.accept part path value
  have checks : ∀ check ∈ parts.map fun part => (translate part).accept path value,
      check.Prompt (Blamed (Fault.Blamed blames)) :=
    List.forall_mem_map.mpr fun part _ => (accept part).1
  unfold judgeAlternatives
  rw [List.map_map]
  refine (Run.Prompt.firstPass ?_ checks).bind (fun first => ?_) fun handle first blame => ?_
  · simp only [List.length_map, List.forall_mem_map]
    exact alone.imp_right fun quiet part listed => (accept part).2.2 (quiet part listed)
  · match first with
    | some (.ok accepted) => exact .done _
    | some (.error fault) => exact .done _
    | none => exact .done _
  · obtain ⟨fault, rfl, blame⟩ := blame
    exact ⟨_, rfl, blame⟩

/-- A rule that keeps faults judges promptly. -/
theorem Rule.prompt_judge {rule : Rule σ} (keeps : rule.KeepsFaults steady quiet) (setting : Setting) (path : Path)
    (value : Value) : ((rule.map translate).judge setting path value).Prompt blames := by
  cases asks : rule.inquiry? value with
  | some inquiry =>
      rw [judge_of_inquiry asks]
      exact inquiry.prompt_judge answerable (orderly_of_inquiry keeps asks)
  | none =>
      rcases rule.alternatives_or with ⟨parts, rfl⟩ | other
      · exact prompt_judgeAlternatives answerable keeps
      · rw [← silent_of_no_inquiry asks other]
        exact .silent _

omit answerable

/-- Whatever the rule judges, the judging is over with an error as soon as an alert is raised. -/
def Rule.Prompt (blames : Handle → SchemaFault → Prop) (rule : Rule Checked) : Prop :=
  ∀ setting path value, (rule.judge setting path value).Prompt blames

/-- A rule that judges promptly attempts a value promptly. -/
theorem Rule.Prompt.attempt {rule : Rule Checked} (prompt : rule.Prompt blames) (setting : Setting) (path : Path)
    (value : Value) :
    (rule.attempt setting path value).Prompt fun handle said => Blamed (Fault.Blamed blames) handle said.2 := by
  refine Run.Prompt.bind (prompt setting path value) (fun said => ?_) fun handle said blame => ?_
  · match said with
    | .ok verdict => exact .done _
    | .error (.usage error) => exact .done _
    | .error (.invalid report) =>
        dsimp only
        split
        · exact Run.Prompt.bind (prompt setting path _) (fun _ => .done _) fun _ _ blame => ⟨_, rfl, blame⟩
        · exact .done _
  · match said with
    | .error (.usage error) => exact ⟨_, rfl, blame⟩

/-- Prompt rules vet a value promptly. -/
theorem prompt_vetBy {rules : List (Rule Checked)} (all : ∀ rule ∈ rules, rule.Prompt blames) (setting : Setting)
    (path : Path) (value : Value) :
    (vetBy setting path rules value).Prompt (Blamed (Misuse.Blamed blames)) := by
  induction rules generalizing value with
  | nil => exact .done _
  | cons rule rest ih =>
      obtain ⟨own, others⟩ := List.forall_mem_cons.mp all
      refine (own.attempt setting path value).bind (fun said => ?_) fun handle said blame => ?_
      · match said with
        | (value, .ok .pass) => exact ih others value
        | (_, .ok (.replace next)) => exact ih others next
        | (value, .ok .abort) => exact .done _
        | (_, .error (.usage error)) => exact .done _
        | (value, .error (.invalid report)) => exact .done _
      · match said with
        | (_, .error (.usage error)) => exact ⟨_, rfl, blame⟩

/-- Prompt rules vet a value promptly, with stand-ins and gates before them. -/
theorem prompt_vetWith {rules : List (Rule Checked)} (all : ∀ rule ∈ rules, rule.Prompt blames) (setting : Setting)
    (path : Path) (value : Value) :
    (vetWith setting rules path value).Prompt (Blamed (Misuse.Blamed blames)) := by
  cases rules with
  | nil => exact .done _
  | cons first rest =>
      simp only [vetWith]
      split
      · exact prompt_vetBy all setting path value
      · split
        · exact prompt_vetBy (List.forall_mem_cons.mp all).2 setting path value
        · exact .done _

/-! ## Schemas -/

namespace Schema

/-- The schema has rules. -/
def Compiles (schema : Schema) : Prop :=
  ∃ kept, schema.rules = .ok kept

/-- No validation by the schema pauses. -/
def NeverPauses (schema : Schema) : Prop :=
  ∀ setting path value, (schema.vet setting path value).pauses = 0

/-- The rules of the schema let no error of its parts get lost. -/
def KeepsFaults (schema : Schema) : Prop :=
  ∀ kept, schema.rules = .ok kept → ∀ entry ∈ kept, entry.rule.KeepsFaults NeverPauses (Everywhere Compiles)

/-! ### Schemas that keep faults -/

/-- A schema whose predicates never pause never pauses. -/
theorem neverPauses_of_steady {schema : Schema} (standard : schema.Everywhere CallsStandard)
    (steady : schema.Everywhere NeverSuspends) : schema.NeverPauses :=
  fun setting path value => (obeys_steady setting standard steady path value).pauses_eq_zero id

/-- Parts that never pause do not hide each other's errors, except for alternatives. -/
theorem keepsFaults_of_neverPauses {schema : Schema} (here : schema.CallsOnly Blueprint.WithoutAlternatives)
    (steady : ∀ part ∈ schema.parts, part.NeverPauses) : schema.KeepsFaults := by
  intro kept compiles entry member
  have origin := (allowed_of_rules here (fun _ known => known.1) compiles _ member).2
  obtain ⟨narrow, same⟩ := exists_rule_over steady compiles member
  rw [← same] at origin ⊢
  refine (Rule.keepsFaults_map _ _).mpr (Rule.keepsFaults_of_steady (fun part => part.property) fun parts same => ?_)
  simp only [same, Rule.map] at origin
  exact origin rfl

/-- Where no rule pauses and there are no alternatives, every schema keeps faults. -/
theorem everywhere_keepsFaults {schema : Schema} (nothing : schema.Everywhere (CallsOnly Blueprint.WithoutAlternatives))
    (steady : schema.Everywhere NeverSuspends) : schema.Everywhere KeepsFaults := by
  induction nothing with
  | intro here inside ih =>
      obtain ⟨-, steadyInside⟩ := steady
      refine .intro (keepsFaults_of_neverPauses here fun part member => ?_) fun part member =>
        ih part member (steadyInside part member)
      have standard := (inside part member).mono fun _ allowed call called blueprint bound =>
        (allowed call called blueprint bound).1
      exact neverPauses_of_steady standard (steadyInside part member)

end Schema

/-- A standard rule that neither puts a value to alternatives nor judges it by a predicate. -/
def Blueprint.Unhesitating (blueprint : Blueprint) : Prop :=
  blueprint.WithoutAlternatives ∧ blueprint ≠ .custom none

namespace Schema

/-- A schema without what hesitates keeps faults at every depth. -/
theorem everywhere_keepsFaults_of_unhesitating {schema : Schema}
    (unhesitating : schema.Everywhere (CallsOnly Blueprint.Unhesitating)) : schema.Everywhere KeepsFaults := by
  refine everywhere_keepsFaults ?_ ?_
  · exact unhesitating.mono fun _ here call called blueprint bound => (here call called blueprint bound).1
  · exact unhesitating.mono fun _ here call called bound => absurd rfl (here call called _ bound).2

/-! ### Alerts -/

/-- A schema of the family is to blame for the error. -/
def Blames (schema : Schema) (handle : Handle) (error : SchemaFault) : Prop :=
  ∃ part ∈ schema.family, part.handle = handle ∧ part.rules = .error error

/-- Where all schemas have rules no alert is raised. -/
theorem silent_of_compiles {schema : Schema} (compiles : schema.Everywhere Compiles) (setting : Setting) :
    (schema.alerting setting).silent = schema.alerting setting := by
  induction compiles with
  | @intro schema here _ ih =>
      obtain ⟨kept, compiles⟩ := here
      obtain ⟨narrow, same⟩ := exists_rules_over ih
      have quiet : (fun part : {part // (alerting setting part).silent = alerting setting part} =>
          (part.val.alerting setting).silent) = fun part => part.val.alerting setting :=
        funext fun part => part.property
      refine Checked.silent_of_vet fun path value => ?_
      rw [vet_alerting, same, raised_map, silent_raised, quiet]
      cases narrow with
      | error error => cases compiles.symm.trans same
      | ok kept => rfl

/-- A validation that raises alerts ends with the first of them. -/
theorem prompt_alerting {schema : Schema} (keeps : schema.Everywhere KeepsFaults) (setting : Setting) :
    (schema.alerting setting).Prompt schema.Blames := by
  induction keeps with
  | @intro schema here _ ih =>
      have inside : ∀ part ∈ schema.parts, (part.alerting setting).Prompt schema.Blames := by
        refine fun part member => (ih part member).mono fun handle error blame => ?_
        obtain ⟨other, deeper, named, faulty⟩ := blame
        exact ⟨other, mem_family_of_part member deeper, named, faulty⟩
      obtain ⟨narrow, same⟩ := exists_rules_over inside
      intro path value
      rw [vet_alerting, same, raised_map]
      cases narrow with
      | error error => exact .opening ⟨schema, mem_family_self schema, rfl, same⟩
      | ok kept =>
          have answerable : Answerable schema.Blames (fun part => NeverPauses part.val)
              (fun part => part.val.Everywhere Compiles)
              fun part : {part // (alerting setting part).Prompt schema.Blames} => part.val.alerting setting :=
            { prompt := fun part => part.property
              steadily := fun part steady path value => (pauses_alerting _ _ _ _).trans (steady setting path value)
              quietly := fun part compiles => silent_of_compiles compiles setting }
          refine prompt_vetWith (fun rule member => ?_) setting path value
          obtain ⟨entry, listed, rfl⟩ := List.mem_map.mp member
          have keeps := here _ same _ (List.mem_map_of_mem listed)
          exact Rule.prompt_judge answerable ((Rule.keepsFaults_map _ _).mp keeps)

/-- **Errors of use come out.**  Where rules keep faults, a validation that asks a schema without rules for its rules
raises no other alert, and ends with the error of this schema. -/
theorem answer_of_alert {schema : Schema} (keeps : schema.Everywhere KeepsFaults) {setting : Setting} {path : Path}
    {value : Value} {handle : Handle} (alert : handle ∈ schema.alerts setting path value) :
    schema.alerts setting path value = [handle] ∧
      ∃ part ∈ schema.family, ∃ error, part.handle = handle ∧ part.rules = .error error ∧
        (schema.vet setting path value).answer = .error (.schema error) := by
  obtain ⟨only, blame⟩ := (prompt_alerting keeps setting path value).blamed_of_opened alert
  refine ⟨only, ?_⟩
  rw [answer_alerting] at blame
  match answered : (schema.vet setting path value).answer, blame with
  | .error (.schema error), ⟨part, inside, named, faulty⟩ => exact ⟨part, inside, error, named, faulty, rfl⟩

/-- A text with a word for its least length. -/
def ofMisused : Schema :=
  .ofCalls 1 [(.check .string, []), (.length .characters .min 0, [.value (.string "three")])]

/-- An array of such texts. -/
def ofEachMisused : Schema :=
  .ofCalls 0 [(.items none, [.schema ofMisused])]

/-- The schema keeps faults at every depth. -/
theorem everywhere_ofEachMisused : ofEachMisused.Everywhere KeepsFaults := by
  have misused : ofMisused.Everywhere (CallsOnly Blueprint.Unhesitating) := by
    refine everywhere_ofCalls (callsOnly_ofCalls ?_) ?_
    · simp [Blueprint.Unhesitating, Blueprint.WithoutAlternatives, Ruleset.standardRules, Ruleset.stringRules,
        Rule.name, Check.name, Bound.ruleName]
    · simp [Argument.parts]
  have each : ofEachMisused.Everywhere (CallsOnly Blueprint.Unhesitating) := by
    refine everywhere_ofCalls (callsOnly_ofCalls ?_) ?_
    · simp [Blueprint.Unhesitating, Blueprint.WithoutAlternatives, Ruleset.standardRules, Ruleset.arrayRules,
        Rule.name]
    · simpa [Argument.parts] using misused
  exact everywhere_keepsFaults_of_unhesitating each

/-- The first of many items raises an alert. -/
theorem answer_of_alert_ofEachMisused :
    let setting : Setting := ⟨true, false, none, ⟨0, 0⟩⟩
    let items := Value.array (List.replicate 31 (.string "a"))
    ofEachMisused.alerts setting [] items = [1] ∧
      ∃ part ∈ ofEachMisused.family, ∃ error, part.handle = 1 ∧ part.rules = .error error ∧
        (ofEachMisused.vet setting [] items).answer = .error (.schema error) :=
  answer_of_alert everywhere_ofEachMisused (by decide +kernel)

/-- Such a text, or anything. -/
def ofMisusedOrAny : Schema :=
  .ofCalls 0 [(.alternatives [], [.schema ofMisused, .schema (.ofCalls 2 [(.any, [])])])]

/-- So an error of use does not always come out. -/
theorem not_alert_comes_out :
    ¬ ∀ (schema : Schema) (setting : Setting) (path : Path) (value : Value),
      ∀ handle ∈ schema.alerts setting path value,
        ∃ error, (schema.vet setting path value).answer = .error (.schema error) := by
  intro comesOut
  have alert : 1 ∈ ofMisusedOrAny.alerts ⟨true, false, none, ⟨0, 0⟩⟩ [] (.string "x") := by decide +kernel
  have passes : (ofMisusedOrAny.vet ⟨true, false, none, ⟨0, 0⟩⟩ [] (.string "x")).answer.toOption.map
      (fun outcome => outcome.report.isNone) = some true := by
    decide +kernel
  obtain ⟨error, answered⟩ := comesOut _ _ _ _ 1 alert
  rw [answered] at passes
  cases passes

/-- An object of many members, the first of which is refused after a pause. -/
def ofManyMembers : Schema :=
  .ofCalls 0 [(.keys ⟨[], [], false, false⟩, [.keys ((List.range 31).map fun place => (toString place,
    match place with
    | 0 => .ofCalls 2 [(.custom none, [.predicate ⟨0, fun _ => 1, fun _ => .refused "no"⟩])]
    | 1 => ofMisused
    | _ => .ofCalls 3 [(.any, [])]))])]

/- The second member raises an alert, and yet the first one is reported. -/
example :
    let setting : Setting := ⟨true, false, none, ⟨0, 0⟩⟩
    let about := Value.object ((List.range 31).map fun place => (toString place, .string "x"))
    1 ∈ ofManyMembers.alerts setting [] about ∧
      places (ofManyMembers.vet setting [] about).answer = some [[.key "0"]] := by
  decide +kernel

end Schema

end Vetting
