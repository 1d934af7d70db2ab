import Vetting.Proofs.Assembly.Invariants
import Vetting.Proofs.Schema.Standard
import Vetting.Proofs.Validation.Licence

/-!
# Validations in a single turn

Of the standard rules only `custom` can pause, and it pauses as often as the predicate that it was called with
(`Instance.faithful_assemble`).  So a schema of standard rules whose predicates never pause has its answer in the
first turn, however deep its parts lie and however many of them are joined, and asking for the answer at once is the
same as waiting for it (`Validator.vetAtOnce_eq_vet`).
-/

namespace Vetting

variable {σ : Type}

/-! ## Where predicates come from -/

namespace Change

/-- No change reaches a custom rule. -/
theorem ne_custom_of_amendment {change : Change σ} {rule amended : Rule σ}
    (standard : ∀ declaration, rule ≠ .declared declaration) (made : change.amendment rule = some amended)
    (predicate : Option Predicate) : amended ≠ .custom predicate := by
  rintro rfl
  have aims : change.aims rule = true := by
    rw [← change.isSome_amendment standard, made]
    rfl
  have same : (Rule.custom none : Blueprint) = rule.unwired := change.keeps made
  rw [← aims_unwired, ← same] at aims
  cases change <;> cases aims

end Change

namespace Instance

/-- A standard rule that judges by no predicate but the one it was called with. -/
structure Faithful (entry : Instance σ) : Prop where
  standard : entry.IsStandard
  called : ∀ predicate, entry.rule = .custom (some predicate) → entry.arguments.predicate = .ok predicate

/-- A change leaves a faithful entry faithful. -/
theorem Faithful.amended {entry next : Instance σ} {change : Change σ} (faithful : entry.Faithful)
    (made : entry.amend change.amendment = some next) : next.Faithful where
  standard := faithful.standard.of_call_eq (keeps_call change.keeps made)
  called predicate same := by
    obtain ⟨rule, amended, rfl⟩ := Option.map_eq_some_iff.mp made
    exact absurd same (Change.ne_custom_of_amendment faithful.standard.ne_declared amended _)

/-- A faithful entry stays faithful when it is wired. -/
theorem Faithful.wired [Identified σ] {entry : Instance σ} {deed : Deed σ} (faithful : entry.Faithful)
    (found : entry.deed = .ok deed) (siblings : Siblings (Instance σ)) : (entry.wiredBy deed siblings).Faithful where
  standard := faithful.standard.of_call_eq (call_wiredBy faithful.standard found siblings)
  called predicate same := by
    have sort := (Prod.mk.inj (call_wiredBy faithful.standard found siblings)).1
    rw [same] at sort
    obtain ⟨rule, arguments⟩ := entry
    cases rule with
    | custom old =>
        obtain ⟨given, read, rfl⟩ := Rule.exists_of_map_eq_ok found
        obtain rfl := Option.some.inj (Rule.custom.inj same)
        exact read
    | _ => cases sort

/-- Rules that have just been called for judge by no predicate yet, so the ones that come out of an assembly judge by
those that they were called with. -/
theorem faithful_assemble [Identified σ] {entries kept : List (Instance σ)} (start : ∀ entry ∈ entries, entry.Faithful)
    (assembled : assemble entries = .ok kept) : ∀ entry ∈ kept, entry.Faithful :=
  forall_assemble (fun _ faithful => faithful.standard) (fun _ _ _ other made => other.amended made)
    (fun siblings faithful found => faithful.wired found siblings) start assembled

/-- A fresh instance of a standard rule is faithful. -/
theorem faithful_fresh {blueprint : Blueprint} (known : blueprint ∈ Ruleset.standardRules)
    (arguments : Arguments σ) : Faithful ⟨blueprint.fresh, arguments⟩ where
  standard := by
    unfold IsStandard
    rwa [Blueprint.fresh, Rule.unwired_map, Rule.unwired_of_standard known]
  called predicate same := by
    have unwired := Rule.unwired_of_standard known
    cases blueprint with
    | custom old =>
        cases unwired
        cases same
    | _ => cases same

end Instance

/-! ## Schemas that never wait -/

/-- Every schema may be opened, and nothing may be waited for. -/
def Run.Licence.steady : Run.Licence :=
  ⟨fun _ => True, False⟩

namespace Schema

/-- No predicate that a custom rule is called with ever pauses. -/
def NeverSuspends (schema : Schema) : Prop :=
  ∀ call ∈ schema.calls, schema.ruleset.blueprint? call.node = some (.custom none) →
    ∀ predicate, Arguments.predicate call.arguments = .ok predicate → ∀ value, predicate.pauses value = 0

/-- If its predicates never pause, no rule of a schema does. -/
theorem tame_of_neverSuspends {schema : Schema} (standard : schema.CallsStandard) (steady : schema.NeverSuspends)
    {entries : List (Instance Schema)}
    (assembled : Instance.assemble (schema.ruleset.instances schema.calls) = .ok entries) :
    ∀ entry ∈ entries, entry.rule.Tame .steady := by
  intro entry member
  have start : ∀ entry ∈ schema.ruleset.instances schema.calls, entry.Faithful := by
    intro entry brought
    obtain ⟨call, called, blueprint, bound, rfl⟩ := Ruleset.exists_call_of_instances brought
    exact Instance.faithful_fresh (standard call called blueprint bound) _
  have faithful := Instance.faithful_assemble start assembled entry member
  obtain ⟨rule, arguments⟩ := entry
  cases rule with
  | custom predicate =>
      cases predicate with
      | none => trivial
      | some predicate =>
          obtain ⟨call, called, blueprint, bound, sort, given⟩ :=
            Ruleset.exists_call_of_assemble assembled _ member
          have known := standard call called blueprint bound
          rw [Rule.unwired_of_standard known] at sort
          have read : Arguments.predicate call.arguments = .ok predicate := by
            rw [show call.arguments = arguments from given.symm]
            exact faithful.called predicate rfl
          rw [← sort] at bound
          exact fun value pauses => absurd (steady call called bound predicate read value) pauses
  | declared declaration => exact absurd rfl (faithful.standard.ne_declared declaration)
  | _ => trivial

/-- A schema whose predicates never pause, at any depth, never pauses. -/
theorem obeys_steady (setting : Setting) {schema : Schema} (standard : schema.Everywhere CallsStandard)
    (steady : schema.Everywhere NeverSuspends) : (schema.checked setting).Obeys .steady := by
  induction standard with
  | @intro schema here _ ih =>
      obtain ⟨steadyHere, steadyInside⟩ := steady
      exact obeys_checked (fun part member => ih part member (steadyInside part member)) (fun _ => trivial)
        fun entries => tame_of_neverSuspends here steadyHere

end Schema

/-- **At once.**  A validation by standard rules whose predicates never pause ends in its first turn.  So the answer
that is asked for at once is the answer that is waited for, schemas are opened alike, and nobody is told to wait. -/
theorem Validator.vetAtOnce_eq_vet (validator : Validator) {schema : Schema}
    (standard : schema.Everywhere Schema.CallsStandard) (steady : schema.Everywhere Schema.NeverSuspends)
    (options : Options) (now : Instant) (value : Value) :
    (∃ answer, (schema.vet (validator.setting options now) options.path value).poll.2 = .finished answer) ∧
      validator.vetAtOnce schema options now value = validator.vet schema options now value ∧
      ∀ workshop, ((validator.vetAtOnce schema options now value).run workshop).1 ≠ .error .suspended := by
  have obeys := Schema.obeys_steady (validator.setting options now) standard steady options.path value
  have pauses := obeys.pauses_eq_zero id
  have turn := Run.poll_of_pauses_eq_zero pauses
  have same : validator.vetAtOnce schema options now value = validator.vet schema options now value := by
    unfold vetAtOnce vet vetAt
    simp only [Schema.vet] at turn ⊢
    rw [Run.answerAtOnce?_of_pauses_eq_zero pauses, turn, Option.getD_some]
  refine ⟨⟨_, congrArg Prod.snd turn⟩, same, fun workshop told => ?_⟩
  rw [same] at told
  have allowed := obeys.answer
  rw [show ((schema.checked (validator.setting options now)).vet options.path value).answer = .error .suspended
    from told] at allowed
  exact allowed

namespace Schema

/-- The schema is made of standard rules whose predicates never pause. -/
def Steady (schema : Schema) : Prop :=
  schema.CallsStandard ∧ schema.NeverSuspends

/-- A schema of one call is steady if the predicate of the call is, and the schemas inside are. -/
theorem steady_ofCall {handle : Handle} {blueprint : Blueprint} {arguments : Arguments Schema}
    (known : blueprint ∈ Ruleset.standardRules)
    (steady : ∀ predicate, arguments.predicate = .ok predicate → ∀ value, predicate.pauses value = 0)
    (inside : ∀ part ∈ arguments.flatMap Argument.parts, part.Everywhere Steady) :
    (ofCalls handle [(blueprint, arguments)]).Everywhere Steady := by
  refine everywhere_ofCalls ⟨callsOnly_ofCalls (List.forall_mem_singleton.mpr known), ?_⟩
    (List.forall_mem_singleton.mpr inside)
  intro call made _
  obtain rfl := List.mem_singleton.mp made
  exact steady

/-- A predicate breaks down on every value. -/
def ofCrash : Schema :=
  .ofCalls 2 [(.custom none, [.predicate ⟨0, fun _ => 0, fun _ => .crashed none⟩])]

/-- What gets past a predicate that breaks down, or anything that is there. -/
def ofCrashOrPresent : Schema :=
  .ofCalls 1 [(.alternatives [], [.schema ofCrash, .schema (.ofCalls 3 [(.check .required, [])])])]

/-- An array of such items. -/
def ofEachCrashOrPresent : Schema :=
  .ofCalls 0 [(.items none, [.schema ofCrashOrPresent])]

/-- None of the predicates in the schema pauses. -/
theorem steady_ofEachCrashOrPresent : ofEachCrashOrPresent.Everywhere Steady := by
  have crash : ofCrash.Everywhere Steady := by
    refine steady_ofCall (by simp [Ruleset.standardRules, Ruleset.generalRules]) ?_ (List.forall_mem_nil _)
    intro predicate read value
    obtain rfl := Except.ok.inj read
    rfl
  have present : (ofCalls 3 [(.check .required, [])]).Everywhere Steady :=
    steady_ofCall (by simp [Ruleset.standardRules, Ruleset.generalRules]) (fun _ read => by cases read)
      (List.forall_mem_nil _)
  have either : ofCrashOrPresent.Everywhere Steady :=
    steady_ofCall (by simp [Ruleset.standardRules, Ruleset.generalRules]) (fun _ read => by cases read)
      (List.forall_mem_cons.mpr ⟨crash, List.forall_mem_singleton.mpr present⟩)
  exact steady_ofCall (by simp [Ruleset.standardRules, Ruleset.arrayRules]) (fun _ read => by cases read)
    (List.forall_mem_singleton.mpr either)

end Schema

/-- Forty items, each of them put to two alternatives, of which the first breaks down. -/
theorem Validator.vetAtOnce_eq_vet_ofEachCrashOrPresent :
    let items := Value.array (List.replicate 40 .null)
    standard.vetAtOnce Schema.ofEachCrashOrPresent {} ⟨0, 0⟩ items =
      standard.vet Schema.ofEachCrashOrPresent {} ⟨0, 0⟩ items :=
  (vetAtOnce_eq_vet standard (Schema.steady_ofEachCrashOrPresent.mono fun _ => And.left)
    (Schema.steady_ofEachCrashOrPresent.mono fun _ => And.right) {} ⟨0, 0⟩ _).2.1

end Vetting
