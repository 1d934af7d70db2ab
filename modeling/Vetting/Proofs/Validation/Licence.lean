import Vetting.Proofs.Run.Licence
import Vetting.Proofs.Schema.Parts
import Vetting.Proofs.Validation.Judging

/-!
# What validations are allowed to do

Apart from the predicate of a `custom` rule and from declared rules, a rule neither pauses nor opens a schema by
itself.  So a schema keeps to a licence if its parts do, it may be opened, and its rules are tame
(`Schema.obeys_checked`).
-/

namespace Vetting

open Run (Licence FailsOnly)

variable {σ : Type} {licence : Licence} {setting : Setting} {path : Path} {value : Value}

/-- Only a run that may pause can find that it would have to wait. -/
def Misuse.Allowed (licence : Licence) : Misuse → Prop
  | suspended => licence.waits
  | schema _ => True

def Fault.Allowed (licence : Licence) : Fault → Prop
  | usage error => error.Allowed licence
  | invalid _ => True

/-- Whatever the schema vets, it keeps to the licence. -/
def Checked.Obeys (licence : Licence) (schema : Checked) : Prop :=
  ∀ path value, (schema.vet path value).Obeys licence (FailsOnly (Misuse.Allowed licence))

/-- A schema that keeps to a licence keeps to a wider one. -/
theorem Checked.Obeys.mono {wider : Licence} (opens : ∀ handle, licence.opens handle → wider.opens handle)
    (waits : licence.waits → wider.waits) {schema : Checked} (obeys : schema.Obeys licence) : schema.Obeys wider := by
  refine fun path value => (obeys path value).mono opens waits fun result allowed => ?_
  match result with
  | .ok outcome => trivial
  | .error .suspended => exact waits allowed
  | .error (.schema error) => trivial

/-- A schema accepts values within its licence. -/
theorem Checked.Obeys.accept {schema : Checked} (obeys : schema.Obeys licence) (path : Path) (value : Value) :
    (schema.accept path value).Obeys licence (FailsOnly (Fault.Allowed licence)) := by
  refine (obeys path value).bind fun result allowed => ?_
  match result with
  | .error error => exact allowed
  | .ok ⟨_, some report⟩ => exact trivial
  | .ok ⟨accepted, none⟩ => exact trivial

/-- The judging keeps to the licence. -/
def Judging.Lawful (licence : Licence) (judging : Judging) : Prop :=
  judging.Obeys licence (FailsOnly (Fault.Allowed licence))

namespace Judging

/-- To say something good needs no licence. -/
theorem lawful_say (verdict : Verdict) : (say verdict).Lawful licence :=
  trivial

/-- To turn a value down needs no licence. -/
theorem lawful_fail (path : Path) (rule : String) (particulars : Context) :
    (fail path rule particulars).Lawful licence :=
  trivial

/-- What is over at once keeps to every licence. -/
theorem Immediate.lawful {judging : Judging} (immediate : judging.Immediate) : judging.Lawful licence := by
  rcases immediate with rfl | ⟨report, rfl⟩
  · exact lawful_say _
  · exact trivial

/-- Parts that keep to a licence are put together within it. -/
theorem lawful_ofParts {parts : List (Run (Except Fault Value))} {rebuild : List Value → Value}
    (all : ∀ part ∈ parts, part.Obeys licence (FailsOnly (Fault.Allowed licence))) :
    (ofParts setting parts rebuild).Lawful licence := by
  refine (Run.Obeys.allPass all).bind fun result allowed => ?_
  cases result with
  | error fault => exact allowed
  | ok accepted => exact lawful_say _

end Judging

/-! ## Rules without schemas inside -/

/-- To look a value up in a list needs no licence. -/
theorem Listing.lawful_judge (kind : Listing) (set : ListedValues) (path : Path) (value : Value) :
    (kind.judge set path value).Lawful licence := by
  cases kind with
  | valid =>
      simp only [judge]
      split
      · exact Judging.lawful_say _
      · exact Judging.lawful_fail _ _ _
  | invalid => exact (Judging.immediate_ofBool _ _ _ _).lawful
  | allow => exact Judging.lawful_say _

/-- The predicate pauses only where it may. -/
def Predicate.Tame (licence : Licence) (predicate : Predicate) : Prop :=
  ∀ value, predicate.pauses value ≠ 0 → licence.waits

/-- A predicate that fails or breaks down does so without waiting. -/
theorem Predicate.lawful_toJudging {predicate : Predicate} (tame : predicate.Tame licence) (path : Path)
    (value : Value) : (predicate.toJudging path value).Lawful licence := by
  refine .pausing (tame value) ?_
  cases (predicate.judge value).refusal? with
  | none => exact Judging.lawful_say _
  | some words => exact trivial

/-- The declared rule pauses, or says that it would have to, only where it may. -/
def Declaration.Tame (licence : Licence) (declaration : Declaration) : Prop :=
  (declaration.pauses ≠ 0 → licence.waits) ∧ (declaration.answer = .suspended → licence.waits)

/-- A declared rule that is tame judges within the licence. -/
theorem Declaration.lawful_judge {declaration : Declaration} (tame : declaration.Tame licence) (path : Path)
    (value : Value) : (declaration.judge path value).Lawful licence := by
  refine .pausing tame.1 ?_
  split
  · cases answer : declaration.answer with
    | suspended => exact tame.2 answer
    | _ => exact trivial
  · exact Judging.lawful_fail _ _ _

/-! ## Rules with schemas inside -/

/-- A choice between schemas keeps to the licence that each of them keeps to. -/
theorem lawful_judgeAlternatives {schemas : List Checked} (all : ∀ schema ∈ schemas, schema.Obeys licence)
    (path : Path) (value : Value) : (judgeAlternatives schemas path value).Lawful licence := by
  have checks : ∀ check ∈ schemas.map fun schema => schema.accept path value,
      check.Obeys licence (FailsOnly (Fault.Allowed licence)) := by
    intro check member
    obtain ⟨schema, given, rfl⟩ := List.mem_map.mp member
    exact (all schema given).accept path value
  refine (Run.Obeys.firstPass checks).bind fun first allowed => ?_
  match first with
  | some (.ok accepted) => exact Judging.lawful_say _
  | some (.error fault) => exact allowed fault rfl
  | none => exact Judging.lawful_fail _ _ _

/-- Members are judged within the licence that their schemas keep to. -/
theorem lawful_judgeMembers {schemas : Members Checked} (all : ∀ entry ∈ schemas, entry.2.Obeys licence)
    (members : Members Value) : (judgeMembers setting path members schemas).Lawful licence := by
  refine Judging.lawful_ofParts fun part member => ?_
  obtain ⟨⟨name, schema⟩, given, rfl⟩ := List.mem_map.mp member
  exact (all (name, schema) given).accept _ _

/-- A key map judges within the licence that its schemas keep to. -/
theorem KeyRule.lawful_judge {rule : KeyRule Checked} (all : ∀ entry ∈ rule.keys, entry.2.Obeys licence) :
    (rule.judge setting path value).Lawful licence := by
  unfold judge
  split
  · exact Judging.lawful_fail _ _ _
  · split
    · exact Judging.lawful_fail _ _ _
    · exact lawful_judgeMembers all _

/-- A pattern judges within the licence that its schema keeps to. -/
theorem PatternRule.lawful_judge {rule : PatternRule Checked} (all : ∀ entry ∈ rule.match?, entry.2.Obeys licence) :
    (rule.judge setting path value).Lawful licence := by
  unfold judge
  split
  · exact Judging.lawful_say _
  next pattern schema found =>
    split
    · exact Judging.lawful_fail _ _ _
    · dsimp only
      split
      · exact Judging.lawful_fail _ _ _
      · refine lawful_judgeMembers (fun entry member => ?_) _
        obtain ⟨name, -, rfl⟩ := List.mem_map.mp member
        exact all _ found

/-- Items are judged within the licence that their schemas keep to. -/
theorem lawful_judgeItems {items : List (Value × Checked)} (all : ∀ item ∈ items, item.2.Obeys licence) :
    (judgeItems setting path items).Lawful licence := by
  refine Judging.lawful_ofParts fun part member => ?_
  obtain ⟨⟨⟨item, schema⟩, place⟩, given, rfl⟩ := List.mem_map.mp member
  exact (all (item, schema) (List.fst_mem_of_mem_zipIdx given)).accept _ _

/-- Each item is judged within the licence that the schema keeps to. -/
theorem lawful_judgeEach {schema : Checked} (obeys : schema.Obeys licence) :
    (judgeEach setting schema path value).Lawful licence := by
  unfold judgeEach
  split
  · exact Judging.lawful_fail _ _ _
  · refine lawful_judgeItems fun entry member => ?_
    obtain ⟨item, -, rfl⟩ := List.mem_map.mp member
    exact obeys

/-- Ordered items are judged within the licence that their schemas keep to. -/
theorem lawful_judgeOrdered {schemas : List Checked} (all : ∀ schema ∈ schemas, schema.Obeys licence) :
    (judgeOrdered setting schemas path value).Lawful licence := by
  unfold judgeOrdered
  split
  · exact Judging.lawful_fail _ _ _
  · split
    · exact lawful_judgeItems fun entry member => all entry.2 (List.of_mem_zip member).2
    · exact Judging.lawful_fail _ _ _

namespace Rule

/-- Neither a predicate nor a declaration pauses where it may not. -/
def Tame (licence : Licence) : Rule σ → Prop
  | custom (some predicate) => predicate.Tame licence
  | declared declaration => declaration.Tame licence
  | _ => True

/-- Where pausing is allowed every rule is tame. -/
theorem tame_of_waits (waits : licence.waits) (rule : Rule σ) : rule.Tame licence := by
  cases rule with
  | custom predicate =>
      cases predicate with
      | none => trivial
      | some predicate => exact fun _ _ => waits
  | declared declaration => exact ⟨fun _ => waits, fun _ => waits⟩
  | _ => trivial

/-- A tame rule keeps to a licence that all schemas inside keep to. -/
theorem lawful_judge {translate : σ → Checked} (all : ∀ part, (translate part).Obeys licence) {rule : Rule σ}
    (tame : rule.Tame licence) (setting : Setting) (path : Path) (value : Value) :
    ((rule.map translate).judge setting path value).Lawful licence := by
  have translated : ∀ (parts : List σ), ∀ schema ∈ parts.map translate, schema.Obeys licence := by
    intro parts schema member
    obtain ⟨part, -, rfl⟩ := List.mem_map.mp member
    exact all part
  cases rule with
  | optional _ => exact Judging.lawful_say _
  | listing kind set operating => exact kind.lawful_judge set path value
  | custom predicate =>
      cases predicate with
      | none => exact Judging.lawful_say _
      | some predicate => exact predicate.lawful_toJudging tame path value
  | alternatives parts => exact lawful_judgeAlternatives (translated parts) path value
  | keys rule =>
      refine KeyRule.lawful_judge fun entry member => ?_
      obtain ⟨⟨name, part⟩, -, rfl⟩ := List.mem_map.mp member
      exact all part
  | pattern rule =>
      refine PatternRule.lawful_judge fun entry member => ?_
      obtain ⟨⟨expression, part⟩, -, rfl⟩ := Option.map_eq_some_iff.mp member
      exact all part
  | items schema =>
      cases schema with
      | none => exact Judging.lawful_say _
      | some part => exact lawful_judgeEach (all part)
  | ordered parts => exact lawful_judgeOrdered (translated parts)
  | declared declaration => exact declaration.lawful_judge tame path value
  | _ => exact (immediate_judge rfl (fun _ same => by cases same) setting path value).lawful

end Rule

/-! ## Schemas -/

/-- Whatever the rule judges, it keeps to the licence. -/
def Rule.Obeys (licence : Licence) (rule : Rule Checked) : Prop :=
  ∀ setting path value, (rule.judge setting path value).Lawful licence

/-- The second judgement keeps to the licence that the first one keeps to. -/
theorem Rule.Obeys.attempt {rule : Rule Checked} (obeys : rule.Obeys licence) (setting : Setting) (path : Path)
    (value : Value) :
    (rule.attempt setting path value).Obeys licence fun said => FailsOnly (Fault.Allowed licence) said.2 := by
  refine (obeys setting path value).bind fun said allowed => ?_
  match said with
  | .ok verdict => exact allowed
  | .error (.usage error) => exact allowed
  | .error (.invalid report) =>
      dsimp only
      split
      · exact (obeys setting path _).bind fun again allowed => allowed
      · exact trivial

/-- Rules that keep to a licence vet a value within it. -/
theorem obeys_vetBy {rules : List (Rule Checked)} (all : ∀ rule ∈ rules, rule.Obeys licence) (setting : Setting)
    (path : Path) (value : Value) :
    (vetBy setting path rules value).Obeys licence (FailsOnly (Misuse.Allowed licence)) := by
  induction rules generalizing value with
  | nil => exact trivial
  | cons rule rest ih =>
      obtain ⟨own, others⟩ := List.forall_mem_cons.mp all
      refine (own.attempt setting path value).bind fun said allowed => ?_
      match said with
      | (value, .ok .pass) => exact ih others value
      | (_, .ok (.replace next)) => exact ih others next
      | (value, .ok .abort) => exact trivial
      | (_, .error (.usage error)) => exact allowed
      | (value, .error (.invalid report)) => exact trivial

/-- Rules that keep to a licence vet a value within it, with stand-ins and gates before them. -/
theorem obeys_vetWith {rules : List (Rule Checked)} (all : ∀ rule ∈ rules, rule.Obeys licence) (setting : Setting)
    (path : Path) (value : Value) :
    (vetWith setting rules path value).Obeys licence (FailsOnly (Misuse.Allowed licence)) := by
  cases rules with
  | nil => exact trivial
  | cons first rest =>
      simp only [vetWith]
      split
      · exact obeys_vetBy all setting path value
      · split
        · exact obeys_vetBy (List.forall_mem_cons.mp all).2 setting path value
        · exact trivial

namespace Schema

/-- A schema keeps to a licence if its parts do, it may be opened unless it has an error, and its rules are tame. -/
theorem obeys_checked {schema : Schema} (inside : ∀ part ∈ schema.parts, (part.checked setting).Obeys licence)
    (opens : schema.error = none → licence.opens schema.handle)
    (tame : ∀ entries, Instance.assemble (schema.ruleset.instances schema.calls) = .ok entries →
      ∀ entry ∈ entries, entry.rule.Tame licence) :
    (schema.checked setting).Obeys licence := by
  intro path value
  obtain ⟨assembled, same⟩ := exists_assembled_over inside
  change (schema.vet setting path value).Obeys _ _
  rw [vet_over same]
  split
  · exact trivial
  next sound =>
    refine ⟨opens sound, ?_⟩
    cases assembled with
    | error fault => exact trivial
    | ok entries =>
        refine obeys_vetWith (fun rule member setting path value => ?_) setting path value
        obtain ⟨entry, listed, rfl⟩ := List.mem_map.mp member
        refine Rule.lawful_judge (fun part => part.property) ?_ setting path value
        have wide := tame _ same _ (List.mem_map_of_mem listed)
        obtain ⟨rule, arguments⟩ := entry
        cases rule with
        | custom predicate => cases predicate <;> exact wide
        | declared declaration => exact wide
        | _ => exact trivial

end Schema

end Vetting
