import Vetting.Proofs.Schema.Retiming
import Vetting.Proofs.Validation.Inquiry

/-!
# Timing does not decide acceptance

A join ends with the first failure that it meets, and which one this is depends on how often the checks pause.
A survey lets all checks come to their end instead and keeps all failures of a container together
(`Schema.survey`).  It knows no turns.  A run admits no more than its survey: it accepts just what the survey
accepts, and otherwise one of the surveyed failures comes out (`Schema.admits_retimed`).  So whatever the timing of
predicates is, the same values are accepted, in the same form (`Schema.vet_retimed`).

Alternatives are left out: the first one that accepts a value decides in which form it passes.
-/

namespace Vetting

variable {σ τ : Type} {setting : Setting} {path : Path} {value : Value}

/-! ## All failures of a join -/

section Join

variable {ε α : Type}

/-- All answers, or all failures of those that fail. -/
def joined : List (Except (List ε) α) → Except (List ε) (List α)
  | [] => .ok []
  | .ok answer :: rest => (joined rest).map (answer :: ·)
  | .error failures :: rest => .error (failures ++ match joined rest with
    | .ok _ => []
    | .error others => others)

/-- The result is the only one that was found, or one of the failures that were. -/
def Covers (found : Except (List ε) α) : Except ε α → Prop
  | .ok answer => found = .ok answer
  | .error failure => ∃ failures, found = .error failures ∧ failure ∈ failures

/-- What covers a result still does when something is made of the answer. -/
theorem Covers.map {β : Type} {found : Except (List ε) α} {result : Except ε α} (covers : Covers found result)
    (f : α → β) : Covers (found.map f) (result.map f) := by
  cases result with
  | ok answer =>
      obtain rfl : found = .ok answer := covers
      rfl
  | error failure =>
      obtain ⟨failures, rfl, inside⟩ := covers
      exact ⟨failures, rfl, inside⟩

/-- A result covers itself. -/
theorem covers_single (result : Except ε α) : Covers (result.mapError fun failure => [failure]) result := by
  cases result with
  | ok answer => rfl
  | error failure => exact ⟨[failure], rfl, List.mem_singleton_self failure⟩

/-- If all results are answers, what covers them is joined to these answers. -/
theorem covers_joined_ok {found : List (Except (List ε) α)} {answers : List α}
    (each : List.Forall₂ Covers found (answers.map .ok)) : joined found = .ok answers := by
  induction found generalizing answers with
  | nil =>
      cases answers with
      | nil => rfl
      | cons answer rest => cases each
  | cons head rest ih =>
      cases answers with
      | nil => cases each
      | cons answer others =>
          obtain ⟨own, further⟩ := List.forall₂_cons.mp each
          obtain rfl : head = .ok answer := own
          rw [joined, ih further]
          rfl

/-- If some result is a failure, what covers them is joined to faults among which it is. -/
theorem covers_joined_error {found : List (Except (List ε) α)} {results : List (Except ε α)} {failure : ε}
    (each : List.Forall₂ Covers found results) (member : .error failure ∈ results) :
    Covers (joined found) (.error failure) := by
  induction each with
  | nil => cases member
  | @cons head result rest others own further ih =>
      rcases List.mem_cons.mp member with rfl | later
      · obtain ⟨failures, rfl, inside⟩ := own
        exact ⟨_, rfl, List.mem_append_left _ inside⟩
      · obtain ⟨all, same, inside⟩ := ih later
        cases head with
        | ok answer => exact ⟨all, by rw [joined, same]; rfl, inside⟩
        | error failures => exact ⟨failures ++ all, by rw [joined, same], List.mem_append_right _ inside⟩

/-- What comes out of a join is covered by what was found of all its checks. -/
theorem covers_joined {found : List (Except (List ε) α)} {checks : List (Run (Except ε α))}
    (each : List.Forall₂ Covers found (checks.map Run.answer)) :
    Covers (joined found) (Run.allPass checks).answer := by
  have together := Run.allPass_answer checks
  cases answered : (Run.allPass checks).answer with
  | error failure =>
      rw [answered] at together
      exact covers_joined_error each together
  | ok answers =>
      rw [answered] at together
      have same : checks.map Run.answer = answers.map .ok := together
      rw [same] at each
      exact covers_joined_ok each

end Join

/-! ## Surveys -/

/-- The report as a schema hands it on. -/
def Setting.shown (setting : Setting) (report : Report) : Report :=
  let worded := match setting.language with
    | some language => report.attach language.format?
    | none => report
  if setting.traced then worded.trace else worded

/-- The fault as a schema hands it on. -/
def Fault.shown (setting : Setting) : Fault → Fault
  | invalid report => invalid (setting.shown report)
  | usage error => usage error

/-- All that a schema may say of a value. -/
inductive Survey where
  | accepts (accepted : Value)
  /-- One of the faults comes out, about the value as it was left. -/
  | rejects (left : Value) (faults : List Fault)

namespace Survey

/-- What the schema around gets to know. -/
def result : Survey → Except (List Fault) Value
  | accepts accepted => .ok accepted
  | rejects _ faults => .error faults

/-- The answer is the one of the survey, or shows one of its faults. -/
def Admits (survey : Survey) : Except Misuse Outcome → Prop
  | .ok ⟨accepted, none⟩ => survey = .accepts accepted
  | .ok ⟨left, some report⟩ => ∃ faults, survey = .rejects left faults ∧ .invalid report ∈ faults
  | .error misuse => ∃ left faults, survey = .rejects left faults ∧ .usage misuse ∈ faults

/-- An answer passes a value exactly if the survey that admits it accepts the value. -/
theorem Admits.pass_iff {survey : Survey} {answer : Except Misuse Outcome} (admits : survey.Admits answer)
    (accepted : Value) : answer = .ok (.pass accepted) ↔ survey = .accepts accepted := by
  constructor
  · rintro rfl
    exact admits
  · rintro rfl
    cases answer with
    | error misuse =>
        obtain ⟨left, faults, same, -⟩ := admits
        cases same
    | ok outcome =>
        obtain ⟨about, report⟩ := outcome
        cases report with
        | none =>
            obtain rfl := Survey.accepts.inj admits
            rfl
        | some report =>
            obtain ⟨faults, same, -⟩ := admits
            cases same

end Survey

/-- What is left of a schema in a survey. -/
structure Surveyed where
  handle : Handle
  /-- Surveys a value at a place. -/
  survey : Path → Value → Survey

instance : Identified Surveyed := ⟨Surveyed.handle⟩

/-- Accepts every value as it is; what a schema is taken for that nobody asks. -/
def Checked.indifferent : Checked :=
  ⟨0, fun _ value => .done (.ok (.pass value))⟩

/-- The schemas inside are asked about all values in question, even if one of them has failed. -/
def Inquiry.survey (inquiry : Inquiry Surveyed) (setting : Setting) (path : Path) : Except (List Fault) Verdict :=
  (joined (inquiry.questions.map fun question =>
    (question.part.survey (path ++ [question.step]) question.value).result)).map fun accepted =>
      if setting.convert then .replace (inquiry.rebuild accepted) else .pass

/-- What the rule may say, with the value that it is about. -/
def Rule.survey (setting : Setting) (path : Path) (rule : Rule Surveyed) (value : Value) :
    Value × Except (List Fault) Verdict :=
  match rule.inquiry? value with
  | some inquiry => (value, inquiry.survey setting path)
  | none =>
    let (about, said) := ((rule.map fun _ => .indifferent).attempt setting path value).answer
    (about, said.mapError fun fault => [fault])

/-- What the rules may say, one after the other. -/
def surveyBy (setting : Setting) (path : Path) : List (Rule Surveyed) → Value → Survey
  | [], value => .accepts value
  | rule :: rest, value =>
    match rule.survey setting path value with
    | (value, .ok .pass) => surveyBy setting path rest value
    | (_, .ok (.replace next)) => surveyBy setting path rest next
    | (value, .ok .abort) => .accepts value
    | (value, .error faults) => .rejects value (faults.map (Fault.shown setting))

/-- What the rules may say, unless a stand-in comes first and the value is absent. -/
def surveyWith (setting : Setting) (rules : List (Rule Surveyed)) (path : Path) (value : Value) : Survey :=
  match rules with
  | [] => surveyBy setting path [] value
  | first :: rest =>
    match first.standIn? with
    | none => surveyBy setting path (first :: rest) value
    | some standIn => if value.isPresent then surveyBy setting path rest value else .accepts standIn

/-- What a schema may say, given its rules. -/
def Surveyed.ofRules (setting : Setting) (handle : Handle) (error : Option SchemaFault)
    (rules : Except SchemaFault (List (Instance Surveyed))) : Surveyed where
  handle := handle
  survey path value :=
    match error with
    | some error => .rejects value [.usage (.schema error)]
    | none =>
      match rules with
      | .error error => .rejects value [.usage (.schema error)]
      | .ok rules => surveyWith setting (rules.map Instance.rule) path value

namespace Schema

/-- What is left of a schema in a survey. -/
def surveyed (setting : Setting) : Schema → Surveyed :=
  fold fun outline => .ofRules setting outline.handle outline.error
    (Instance.assemble (outline.ruleset.instances outline.calls))

/-- Surveys a value at a place. -/
def survey (schema : Schema) (setting : Setting) (path : Path) (value : Value) : Survey :=
  (schema.surveyed setting).survey path value

/-- A surveyed schema is one made of its rules, in which all schemas inside are surveyed. -/
theorem surveyed_eq (schema : Schema) (setting : Setting) :
    schema.surveyed setting = .ofRules setting schema.handle schema.error
      (Instance.assemble (schema.ruleset.instances (schema.calls.map (Call.map (surveyed setting))))) :=
  fold_eq _ schema

/-- Surveyed schemas keep their handles. -/
theorem surveyed_keepsHandles (setting : Setting) : KeepsHandles (surveyed setting) := by
  intro schema
  rw [surveyed_eq]
  rfl

/-- What entries may say of a value, with every schema in them translated. -/
def surveyedBy (setting : Setting) (translate : σ → Surveyed) (path : Path) (value : Value) :
    Except SchemaFault (List (Instance σ)) → Survey
  | .error error => .rejects value [.usage (.schema error)]
  | .ok entries => surveyWith setting (entries.map fun entry => entry.rule.map translate) path value

/-- A schema with an error rejects every value; the rules of any other one say what becomes of it. -/
theorem survey_eq (schema : Schema) (setting : Setting) (path : Path) (value : Value) :
    schema.survey setting path value =
      match schema.error with
      | some error => .rejects value [.usage (.schema error)]
      | none => surveyedBy setting (surveyed setting) path value
          (Instance.assemble (schema.ruleset.instances schema.calls)) := by
  rw [survey, surveyed_eq, Ruleset.instances_map, Instance.assemble_map (surveyed_keepsHandles setting)]
  cases error : schema.error with
  | some fault => simp only [Surveyed.ofRules]
  | none =>
      cases Instance.assemble (schema.ruleset.instances schema.calls) with
      | error fault => simp only [Surveyed.ofRules, Except.map, surveyedBy]
      | ok entries =>
          simp only [Surveyed.ofRules, Except.map, surveyedBy, List.map_map, Function.comp_def, Instance.map]

end Schema

/-! ## Runs keep to their surveys -/

/-- The schema says no more than its survey does. -/
def Surveyed.Admits (surveyed : Surveyed) (checked : Checked) : Prop :=
  ∀ path value, (surveyed.survey path value).Admits (checked.vet path value).answer

/-- A survey that admits a schema covers what it accepts. -/
theorem Surveyed.Admits.covers {surveyed : Surveyed} {checked : Checked} (admits : surveyed.Admits checked) :
    Covers (surveyed.survey path value).result (checked.accept path value).answer := by
  have admitted := admits path value
  unfold Checked.accept
  rw [Run.answer_bind]
  cases answered : (checked.vet path value).answer with
  | error misuse =>
      rw [answered] at admitted
      obtain ⟨left, faults, same, inside⟩ := admitted
      exact ⟨faults, by rw [same]; rfl, inside⟩
  | ok outcome =>
      obtain ⟨about, report⟩ := outcome
      rw [answered] at admitted
      cases report with
      | none =>
          have same : surveyed.survey path value = .accepts about := admitted
          rw [same]
          rfl
      | some report =>
          obtain ⟨faults, same, inside⟩ := admitted
          exact ⟨faults, by rw [same]; rfl, inside⟩

/-- Parts that are put together come to what all of them come to. -/
theorem Judging.answer_ofParts (setting : Setting) (parts : List (Run (Except Fault Value)))
    (rebuild : List Value → Value) :
    (ofParts setting parts rebuild).answer = (Run.allPass parts).answer.map fun accepted =>
      if setting.convert then .replace (rebuild accepted) else .pass := by
  rw [ofParts, Run.answer_bind]
  cases (Run.allPass parts).answer <;> rfl

/-- Pauses do not count for what a predicate says. -/
theorem answer_attempt_retimed (timing : Timing) (predicate : Option Predicate) :
    ((Rule.custom (predicate.map (Predicate.retimed timing))).attempt setting path value).answer =
      ((Rule.custom predicate).attempt setting path value).answer := by
  cases predicate with
  | none => rfl
  | some predicate =>
      simp only [Option.map_some, Rule.attempt, Rule.judge, Run.answer_bind, Rule.convert?, ite_self]
      congr 1
      simp only [Predicate.toJudging, Run.answer_pausing, Predicate.retimed]

/-- A rule other than a custom one is recast by translating its schemas. -/
theorem Rule.recast_of_ne_custom {rule : Rule σ} (other : ∀ predicate, rule ≠ .custom predicate) (f : σ → τ)
    (g : Predicate → Predicate) : rule.recast f g = rule.map f := by
  cases rule with
  | custom predicate => exact absurd rfl (other predicate)
  | _ => rfl

/-- Translations before and after other predicates are put into a rule come to one translation. -/
theorem Rule.map_recast_map {υ ω : Type} (f : σ → τ) (h : τ → υ) (k : υ → ω) (g : Predicate → Predicate)
    (rule : Rule σ) : ((rule.map f).recast h g).map k = rule.recast (fun part => k (h (f part))) g := by
  cases rule with
  | alternatives _ | keys _ | pattern _ | items _ | ordered _ =>
      simp only [recast, map, List.map_map, Option.map_map, Function.comp_def]
  | _ => rfl

section Rules

variable {translate : σ → Checked} {look : σ → Surveyed} (admits : ∀ part, (look part).Admits (translate part))

include admits

/-- The survey of an inquiry covers what it comes to, if the schemas inside are admitted. -/
theorem Inquiry.covers_survey (inquiry : Inquiry σ) :
    Covers ((inquiry.map look).survey setting path) (inquiry.judge translate setting path).answer := by
  rw [judge, Judging.answer_ofParts]
  refine Covers.map (covers_joined ?_) _
  simp only [map, List.map_map, List.forall₂_map_left_iff, List.forall₂_map_right_iff, List.forall₂_same]
  exact fun question _ => (admits question.part).covers

/-- Whatever the timing is, a rule says no more than its survey does. -/
theorem Rule.covers_survey (setting : Setting) (path : Path) (value : Value) (timing : Timing) {rule : Rule σ}
    (other : ∀ parts, rule ≠ .alternatives parts) :
    ((rule.map look).survey setting path value).1 =
        ((rule.recast translate (Predicate.retimed timing)).attempt setting path value).answer.1 ∧
      Covers ((rule.map look).survey setting path value).2
        ((rule.recast translate (Predicate.retimed timing)).attempt setting path value).answer.2 := by
  by_cases judges : ∃ predicate, rule = .custom predicate
  · obtain ⟨predicate, rfl⟩ := judges
    rw [recast, answer_attempt_retimed]
    exact ⟨rfl, covers_single _⟩
  · rw [recast_of_ne_custom (not_exists.mp judges)]
    cases asks : rule.inquiry? value with
    | some inquiry =>
        simp only [survey, inquiry?_map, asks, Option.map_some, attempt_of_inquiry asks, Run.answer_bind, Run.answer,
          true_and]
        exact Inquiry.covers_survey admits inquiry
    | none =>
        simp only [survey, inquiry?_map, asks, Option.map_none, map_map]
        rw [attempt_of_no_inquiry asks other translate fun _ => .indifferent]
        exact ⟨rfl, covers_single _⟩

/-- Whatever the timing is, rules say no more than their surveys do. -/
theorem admits_surveyBy (setting : Setting) (path : Path) (value : Value) (timing : Timing) {rules : List (Rule σ)}
    (other : ∀ rule ∈ rules, ∀ parts, rule ≠ .alternatives parts) :
    (surveyBy setting path (rules.map (Rule.map look)) value).Admits
      (vetBy setting path (rules.map (Rule.recast translate (Predicate.retimed timing))) value).answer := by
  induction rules generalizing value with
  | nil => rfl
  | cons rule rest ih =>
      obtain ⟨own, further⟩ := List.forall_mem_cons.mp other
      obtain ⟨about, covers⟩ := Rule.covers_survey admits setting path value timing own
      simp only [List.map_cons, surveyBy, vetBy, Run.answer_bind]
      generalize (rule.map look).survey setting path value = found at about covers ⊢
      generalize ((rule.recast translate (Predicate.retimed timing)).attempt setting path value).answer = said
        at about covers ⊢
      obtain ⟨value, found⟩ := found
      obtain ⟨same, said⟩ := said
      obtain rfl : value = same := about
      cases said with
      | ok verdict =>
          obtain rfl : found = .ok verdict := covers
          cases verdict with
          | pass => exact ih value further
          | replace next => exact ih next further
          | abort => rfl
      | error fault =>
          obtain ⟨faults, rfl, inside⟩ := covers
          have shown := List.mem_map_of_mem (f := Fault.shown setting) inside
          cases fault with
          | usage error => exact ⟨value, _, rfl, shown⟩
          | invalid report => exact ⟨_, rfl, shown⟩

/-- The survey of rules admits what they come to, with stand-ins and gates before them. -/
theorem admits_surveyWith (setting : Setting) (path : Path) (value : Value) (timing : Timing) {rules : List (Rule σ)}
    (other : ∀ rule ∈ rules, ∀ parts, rule ≠ .alternatives parts) :
    (surveyWith setting (rules.map (Rule.map look)) path value).Admits
      (vetWith setting (rules.map (Rule.recast translate (Predicate.retimed timing))) path value).answer := by
  cases rules with
  | nil => rfl
  | cons first rest =>
      have whole := admits_surveyBy admits setting path value timing other
      have later := admits_surveyBy admits setting path value timing (List.forall_mem_cons.mp other).2
      have standIn : (first.recast translate (Predicate.retimed timing)).standIn? = first.standIn? := by
        cases first <;> rfl
      simp only [List.map_cons, surveyWith, vetWith, standIn, Rule.standIn?_map]
      cases first.standIn? with
      | none => exact whole
      | some standIn =>
          by_cases present : value.isPresent = true
          · simp only [present, ↓reduceIte]
            exact later
          · simp only [present, Bool.false_eq_true, ↓reduceIte]
            rfl

end Rules

/-! ### Schemas -/

/-- A standard rule other than alternatives. -/
def Blueprint.WithoutAlternatives (blueprint : Blueprint) : Prop :=
  blueprint ∈ Ruleset.standardRules ∧ blueprint.name ≠ "alternatives"

namespace Schema

/-- **A run keeps to its survey.** -/
theorem admits_retimed {schema : Schema} (nothing : schema.Everywhere (CallsOnly Blueprint.WithoutAlternatives))
    (setting : Setting) (timing : Timing) :
    (schema.surveyed setting).Admits ((schema.retimed timing).checked setting) := by
  induction nothing with
  | @intro schema here inside ih =>
      intro path value
      have standard : schema.CallsStandard := fun call called blueprint bound => (here call called blueprint bound).1
      obtain ⟨assembled, same⟩ := exists_assembled_over ih
      change (schema.survey setting path value).Admits ((schema.retimed timing).vet setting path value).answer
      rw [survey_eq, vet_eq, error_retimed, assemble_retimed timing standard, same]
      cases schema.error with
      | some error => exact ⟨value, _, rfl, List.mem_singleton_self _⟩
      | none =>
          cases assembled with
          | error error => exact ⟨value, _, rfl, List.mem_singleton_self _⟩
          | ok entries =>
              have origins := allowed_of_assembled here (fun _ known => known.1) same
              have other : ∀ rule ∈ entries.map Instance.rule, ∀ parts, rule ≠ .alternatives parts := by
                intro rule member parts alternatives
                obtain ⟨entry, listed, rfl⟩ := List.mem_map.mp member
                have origin := (origins entry listed).2
                rw [alternatives] at origin
                exact origin rfl
              have admitted := admits_surveyWith (fun part => part.property) setting path value timing other
              simp only [Except.map, surveyedBy, judged, Run.answer, List.map_map, Function.comp_def, Instance.map,
                Instance.recast, Rule.map_map, Rule.map_recast_map] at admitted ⊢
              exact admitted

/-- **Timing does not decide acceptance.**  However often the predicates in a schema pause, it accepts the same
values, in the same form.  Where it does not accept, one of the faults of one survey comes out, so the timing has a
say only in which part is found fault with. -/
theorem vet_retimed {schema : Schema} (nothing : schema.Everywhere (CallsOnly Blueprint.WithoutAlternatives))
    (setting : Setting) (path : Path) (value : Value) (first second : Timing) :
    (∀ accepted, ((schema.retimed first).vet setting path value).answer = .ok (.pass accepted) ↔
      ((schema.retimed second).vet setting path value).answer = .ok (.pass accepted)) ∧
    (schema.survey setting path value).Admits ((schema.retimed first).vet setting path value).answer ∧
    (schema.survey setting path value).Admits ((schema.retimed second).vet setting path value).answer := by
  have early := admits_retimed nothing setting first path value
  have late := admits_retimed nothing setting second path value
  refine ⟨fun accepted => ?_, early, late⟩
  calc
    ((schema.retimed first).vet setting path value).answer = .ok (.pass accepted)
        ↔ schema.survey setting path value = .accepts accepted := early.pass_iff accepted
    _ ↔ ((schema.retimed second).vet setting path value).answer = .ok (.pass accepted) :=
        (late.pass_iff accepted).symm

/-- A predicate that refuses every value. -/
def refusing (identity : Nat) : Predicate :=
  ⟨identity, fun _ => 0, fun _ => .refused "no"⟩

/-- An object both members of which are refused. -/
def ofTwoRefusals : Schema :=
  .ofCalls 0 [(.keys ⟨[], [], false, false⟩,
    [.keys [("a", .ofCalls 1 [(.custom none, [.predicate (refusing 1)])]),
      ("b", .ofCalls 2 [(.custom none, [.predicate (refusing 2)])])]])]

/-- The schema calls for no alternatives. -/
theorem everywhere_ofTwoRefusals : ofTwoRefusals.Everywhere (CallsOnly Blueprint.WithoutAlternatives) := by
  have custom : Blueprint.WithoutAlternatives (.custom none) := by
    simp [Blueprint.WithoutAlternatives, Ruleset.standardRules, Ruleset.generalRules, Rule.name]
  have keys : Blueprint.WithoutAlternatives (.keys ⟨[], [], false, false⟩) := by
    simp [Blueprint.WithoutAlternatives, Ruleset.standardRules, Ruleset.objectRules, Rule.name]
  have inner : ∀ handle identity, (ofCalls handle [(.custom none, [.predicate (refusing identity)])]).Everywhere
      (CallsOnly Blueprint.WithoutAlternatives) := by
    intro handle identity
    refine everywhere_ofCalls (callsOnly_ofCalls ?_) ?_
    · simpa using custom
    · simp [Argument.parts]
  refine everywhere_ofCalls (callsOnly_ofCalls ?_) ?_
  · simpa using keys
  · simpa [Argument.parts] using ⟨inner 1 1, inner 2 2⟩

/-- The places that an answer finds fault with. -/
def places (answer : Except Misuse Outcome) : Option (List Path) :=
  answer.toOption.bind fun outcome => outcome.report.map fun report => report.findings.map Finding.path

/-- Whichever of the two predicates pauses, the other one is reported; the object passes in neither case. -/
theorem vet_retimed_ofTwoRefusals :
    let about := Value.object [("a", .null), ("b", .null)]
    let first : Timing := fun predicate _ => if predicate.identity = 1 then 1 else 0
    let second : Timing := fun predicate _ => if predicate.identity = 2 then 1 else 0
    let early := ((ofTwoRefusals.retimed first).vet ⟨false, false, none, ⟨0, 0⟩⟩ [] about).answer
    let late := ((ofTwoRefusals.retimed second).vet ⟨false, false, none, ⟨0, 0⟩⟩ [] about).answer
    (∀ accepted, early = .ok (.pass accepted) ↔ late = .ok (.pass accepted)) ∧
      (ofTwoRefusals.survey ⟨false, false, none, ⟨0, 0⟩⟩ [] about).Admits early ∧
      (ofTwoRefusals.survey ⟨false, false, none, ⟨0, 0⟩⟩ [] about).Admits late ∧
      places early = some [[.key "b"]] ∧ places late = some [[.key "a"]] := by
  intro about first second early late
  obtain ⟨same, admitsEarly, admitsLate⟩ :=
    vet_retimed everywhere_ofTwoRefusals ⟨false, false, none, ⟨0, 0⟩⟩ [] about first second
  exact ⟨same, admitsEarly, admitsLate, by decide +kernel, by decide +kernel⟩

end Schema

end Vetting
