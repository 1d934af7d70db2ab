import Vetting.Proofs.Absence.Optional
import Vetting.Proofs.Listing.Invalid
import Vetting.Proofs.Repetition.Standing
import Vetting.Proofs.Repetition.Verdicts

/-!
# Required values

A rule by which a value is required turns every gate for absent values off and rejects what is absent.  It judges
after the rules of its tier that are called for before it, though, and two of these may put a value in place of an
absent one: alternatives bring what one of their schemas has accepted, and an array rule that takes single values
and absent items wraps the absent value (`Rule.Fills`).  An absent value passes only where this has happened
(`Schema.exists_fills_of_required`).
-/

namespace Vetting

variable {σ : Type} {setting : Setting} {path : Path}

/-! ## Rules and absent values -/

namespace Rule

/-- The rule may put a value in place of an absent one, given what the schemas inside it make of that. -/
def Fills (setting : Setting) (vet : σ → Run (Except Misuse Outcome)) : Rule σ → Prop
  | alternatives parts => ∃ part ∈ parts, ∃ value, value.isPresent = true ∧ (vet part).answer = .ok (.pass value)
  | array single sparse => setting.convert = true ∧ single = true ∧ sparse = true
  | _ => False

/-- A translated rule may fill an absent value in exactly if the rule may, given what its schemas make of that. -/
theorem fills_map {τ : Type} (f : σ → τ) (vet : τ → Run (Except Misuse Outcome)) (rule : Rule σ) :
    (rule.map f).Fills setting vet ↔ rule.Fills setting fun part => vet (f part) := by
  cases rule with
  | alternatives parts => simp [map, Fills]
  | _ => exact Iff.rfl

/-- Apart from alternatives, a late rule tests an absent value. -/
theorem tests_undefined {rule : Rule Checked} (standard : rule.unwired ∈ Ruleset.standardRules)
    (late : 0 < rule.priority) (other : ∀ parts, rule ≠ .alternatives parts) :
    (rule.judge setting path .undefined).Tests := by
  by_cases plain : rule.isPlain = true
  · exact rule.judge_tests plain setting path .undefined
  · cases rule with
    | optional enabled => exact absurd late (lt_irrefl 0)
    | listing kind set operating =>
        cases kind with
        | invalid => exact (Judging.immediate_ofBool _ _ _ _).tests
        | valid | allow => exact absurd late (lt_irrefl 0)
    | alternatives parts => exact absurd rfl (other parts)
    | keys rule => exact (Judging.immediate_fail _ _ _).tests
    | pattern rule =>
        obtain ⟨matched, hasKeys, allowsUnknown⟩ := rule
        cases matched with
        | none => exact Judging.immediate_pass.tests
        | some found => exact (Judging.immediate_fail _ _ _).tests
    | items part =>
        cases part with
        | none => exact Judging.immediate_pass.tests
        | some part => exact (Judging.immediate_fail _ _ _).tests
    | ordered parts => exact (Judging.immediate_fail _ _ _).tests
    | declared declaration => exact absurd rfl (Rule.ne_declared_of_standard standard declaration)
    | _ => exact absurd rfl plain

/-- In place of an absent value a standard rule offers no more than an array of it. -/
theorem eq_array_of_convert? {rule : Rule Checked} (standard : rule.unwired ∈ Ruleset.standardRules) {offered : Value}
    (offers : rule.convert? .undefined = some offered) :
    ∃ sparse, rule = .array true sparse ∧ offered = .array [.undefined] := by
  cases rule with
  | array single sparse =>
      cases single with
      | true => exact ⟨sparse, rfl, (Option.some.inj offers).symm⟩
      | false => cases offers
  | check test => cases test <;> cases offers
  | declared declaration => exact absurd rfl (Rule.ne_declared_of_standard standard declaration)
  | _ => cases offers

/-- A late rule that does not fill an absent value leaves it to the others, if it does not reject it. -/
theorem leaves_undefined {rule : Rule Checked} (standard : rule.unwired ∈ Ruleset.standardRules)
    (late : 0 < rule.priority) (fills : ¬ rule.Fills setting fun part => part.vet path .undefined) {about : Value}
    {verdict : Verdict} (said : (rule.attempt setting path .undefined).answer = (about, .ok verdict)) :
    about = .undefined ∧ (verdict = .pass ∨ verdict = .replace .undefined) := by
  rcases answer_attempt_eq_ok.mp said with ⟨rfl, judged⟩ | ⟨-, on, offers, judged⟩
  · refine ⟨rfl, ?_⟩
    rcases rule.alternatives_or with ⟨parts, rfl⟩ | other
    · obtain ⟨accepted, rfl, part, member, accepts⟩ := accepted_of_judgeAlternatives judged
      have passes := Checked.outcome_of_accept accepts
      cases accepted with
      | undefined => exact .inr rfl
      | _ => exact absurd ⟨part, member, _, rfl, passes⟩ fills
    · exact .inl ((tests_undefined standard late other).pass_of_ok judged)
  · obtain ⟨sparse, rfl, rfl⟩ := eq_array_of_convert? standard offers
    cases sparse with
    | true => exact absurd ⟨on, rfl, rfl⟩ fills
    | false => cases judged

end Rule

/-- Late rules, one of which requires a value, let an absent one pass only if a rule before that one fills it. -/
theorem exists_fills {rules : List (Rule Checked)} (standard : ∀ rule ∈ rules, rule.unwired ∈ Ruleset.standardRules)
    (late : ∀ rule ∈ rules, 0 < rule.priority) (required : .check .required ∈ rules) {accepted : Value}
    (passes : Passes setting path rules .undefined accepted) :
    ∃ front rule back, rules = front ++ rule :: back ∧ (rule.Fills setting fun part => part.vet path .undefined) ∧
      .check .required ∉ front := by
  induction rules with
  | nil => cases required
  | cons rule rest ih =>
      by_cases fills : rule.Fills setting fun part => part.vet path .undefined
      · exact ⟨[], rule, rest, rfl, fills, List.not_mem_nil⟩
      obtain ⟨own, others⟩ := List.forall_mem_cons.mp standard
      obtain ⟨ownLate, othersLate⟩ := List.forall_mem_cons.mp late
      obtain ⟨about, verdict, said, leads⟩ := passes_cons.mp passes
      have unlike : .check .required ≠ rule := by
        rintro rfl
        rcases Rule.answer_attempt_eq_ok.mp said with ⟨-, judged⟩ | ⟨-, -, offers, -⟩
        · cases judged
        · cases offers
      obtain ⟨rfl, left⟩ := Rule.leaves_undefined own ownLate fills said
      have further : Passes setting path rest .undefined accepted := by
        rcases left with rfl | rfl
        · exact leads
        · exact leads
      obtain ⟨front, filling, back, rfl, here, before⟩ :=
        ih others othersLate ((List.mem_cons.mp required).resolve_left unlike) further
      exact ⟨rule :: front, filling, back, rfl, here, fun member => (List.mem_cons.mp member).elim unlike before⟩

/-! ## Schemas -/

/-- What stands before one of the chosen entries is not chosen, or stands before it among the chosen ones. -/
theorem exists_split_of_filter {ι : Type} {choose : ι → Bool} {entries front back : List ι} {entry : ι}
    (chosen : entries.filter choose = front ++ entry :: back) :
    ∃ first last, entries = first ++ entry :: last ∧ ∀ other ∈ first, choose other = true → other ∈ front := by
  obtain ⟨left, right, rfl, rfl, rest⟩ := List.filter_eq_append_iff.mp chosen
  obtain ⟨skipped, last, rfl, none, -, -⟩ := List.filter_eq_cons_iff.mp rest
  refine ⟨left ++ skipped, last, by simp, fun other member good => ?_⟩
  rcases List.mem_append.mp member with before | between
  · exact List.mem_filter.mpr ⟨before, good⟩
  · exact absurd good (none other between)

/-- Where something is required, that is said last. -/
theorem Notice.getLast?_arranged {notices : List (Notice σ)} (required : .required ∈ notices) :
    (arranged notices).getLast? = some .required := by
  have late : ∀ notice ∈ notices.filter fun notice => !notice.isEarly, notice = .required := by
    intro notice member
    cases notice with
    | required => rfl
    | optional arguments | valid => cases (List.mem_filter.mp member).2
  have some : notices.filter (fun notice => !notice.isEarly) ≠ [] :=
    List.ne_nil_of_mem (List.mem_filter.mpr ⟨required, rfl⟩)
  rw [arranged, List.getLast?_append_of_ne_nil _ some, List.getLast?_eq_some_getLast some,
    late _ (List.getLast_mem some)]

namespace Schema

variable {schema : Schema} {kept : List (Instance Schema)}

/-- A rule by which a value is required is among the rules if it is called for. -/
theorem required_mem_rules (standard : schema.CallsStandard) (compiles : schema.rules = .ok kept)
    (required : .required ∈ schema.notices) : ∃ entry ∈ kept, entry.rule = .check .required := by
  have only : ∀ {rule : Rule Schema}, rule.unwired = .check .required → rule = .check .required := by
    intro rule same
    cases rule with
    | check test => exact congrArg Rule.check (Rule.check.inj same)
    | _ => cases same
  obtain ⟨-, -, assembled⟩ := exists_of_bind_eq_ok compiles
  obtain ⟨call, called, said⟩ := List.mem_filterMap.mp required
  have own : call.rule = .check .required := by
    cases rule : call.rule with
    | listing kind set operating => cases kind <;> (rw [Instance.notice?, rule] at said; cases said)
    | check test => cases test <;> first | rfl | (rw [Instance.notice?, rule] at said; cases said)
    | _ =>
        rw [Instance.notice?, rule] at said
        cases said
  obtain ⟨entry, stands, same⟩ := Instance.exists_sort_of_stays
    (fun entry member => (Ruleset.fresh_of_mem_instances standard entry member).1) assembled called (by rw [own]; rfl)
  exact ⟨entry, stands, only (same.trans (by rw [own]; rfl))⟩

/-- **Required values.**  Where nothing stands in for absent values and these are not listed, one of them passes a
schema that requires a value only if a rule has filled it, before a value is required. -/
theorem exists_fills_of_required (calls : schema.CallsOnly Blueprint.WithoutStandIn) (compiles : schema.rules = .ok kept)
    (required : .required ∈ schema.notices) (unlisted : ¬ schema.notes.Admits .undefined) {accepted : Value}
    (passes : (schema.vet setting path .undefined).answer = .ok (.pass accepted)) :
    ∃ front entry back, kept = front ++ entry :: back ∧
      (entry.rule.Fills setting fun part => part.vet setting path .undefined) ∧
        ∀ other ∈ front, other.rule ≠ .check .required := by
  have shut : Gate.opens (Gate.posted (Notice.arranged schema.notices)) = false :=
    Gate.not_opens_posted (Notice.getLast?_arranged required)
  rw [vet_undefined calls compiles, shut, if_neg Bool.false_ne_true, Run.answer] at passes
  cases decided : decision? .undefined (Book.ofNotes schema.notes.arranged).sets with
  | some decision =>
      rw [decided] at passes
      cases decision with
      | accepted => exact absurd (Book.decision?_arranged.mp decided) unlisted
      | rejected allowed => exact absurd (Except.ok.inj passes) (setting.failed_ne_pass _ _ _)
  | none =>
      rw [decided] at passes
      obtain ⟨requiring, stands, own⟩ := required_mem_rules calls.standard compiles required
      have inside : .check .required ∈ lateOnes (judging setting kept) :=
        List.mem_filter.mpr ⟨List.mem_map.mpr ⟨requiring, stands, by rw [own]; rfl⟩, rfl⟩
      obtain ⟨front, filling, back, split, fills, before⟩ := exists_fills
        (fun rule member => standard_judging calls.standard compiles setting rule (List.mem_filter.mp member).1)
        (fun rule member => by simpa using (List.mem_filter.mp member).2) inside passes
      obtain ⟨first, last, whole, earlier⟩ := exists_split_of_filter split
      obtain ⟨firstEntries, more, rfl, rfl, rest⟩ := List.map_eq_append_iff.mp whole
      obtain ⟨entry, lastEntries, rfl, rfl, rfl⟩ := List.map_eq_cons_iff.mp rest
      refine ⟨firstEntries, entry, lastEntries, rfl, (Rule.fills_map _ _ _).mp fills, fun other member same => ?_⟩
      refine before (earlier _ (List.mem_map.mpr ⟨other, member, by rw [same]; rfl⟩) rfl)

/-- A schema that puts a text in place of an absent value is the alternative before a value is required. -/
def ofFilled : Schema :=
  .ofCalls 1 [(.alternatives [], [.schema (.ofCalls 0 [(.standIn .undefined false, [.value (.string "x")])])]),
    (.check .required, [])]

/-- The schema calls for no stand-in itself. -/
theorem withoutStandIn_ofFilled : ofFilled.CallsOnly Blueprint.WithoutStandIn := by
  refine callsOnly_ofCalls ?_
  simp [Blueprint.WithoutStandIn, Ruleset.standardRules, Ruleset.generalRules, Rule.name, Check.name]

/-- The schema compiles. -/
theorem exists_rules_ofFilled : ∃ kept, ofFilled.rules = .ok kept :=
  exists_rules (by decide +kernel)

/-- The schema notices `required` and notes no values down. -/
theorem notices_ofFilled : ofFilled.notices = [.required] ∧ ofFilled.notes = [] :=
  ⟨rfl, rfl⟩

/-- The absent value passes all the same. -/
theorem vet_ofFilled :
    ∃ accepted, (ofFilled.vet ⟨false, false, none, ⟨0, 0⟩⟩ [] .undefined).answer = .ok (.pass accepted) := by
  have passes : (ofFilled.vet ⟨false, false, none, ⟨0, 0⟩⟩ [] .undefined).answer.toOption.map
      (fun outcome => outcome.report.isNone) = some true := by
    decide +kernel
  cases answered : (ofFilled.vet ⟨false, false, none, ⟨0, 0⟩⟩ [] .undefined).answer with
  | error misuse =>
      rw [answered] at passes
      cases passes
  | ok outcome =>
      rw [answered] at passes
      obtain ⟨accepted, report⟩ := outcome
      obtain rfl : report = none := Option.isNone_iff_eq_none.mp (Option.some.inj passes)
      exact ⟨accepted, rfl⟩

/-- There is a rule that has filled it. -/
theorem exists_fills_of_required_ofFilled : ∃ kept, ofFilled.rules = .ok kept ∧
    ∃ front entry back, kept = front ++ entry :: back ∧
      (entry.rule.Fills ⟨false, false, none, ⟨0, 0⟩⟩ fun part =>
        part.vet ⟨false, false, none, ⟨0, 0⟩⟩ [] .undefined) ∧
        ∀ other ∈ front, other.rule ≠ .check .required := by
  obtain ⟨kept, compiles⟩ := exists_rules_ofFilled
  obtain ⟨_, passes⟩ := vet_ofFilled
  refine ⟨kept, compiles, exists_fills_of_required withoutStandIn_ofFilled compiles ?_ ?_ passes⟩
  · simp [notices_ofFilled.1]
  · rw [Notes.admits_undefined, notices_ofFilled.2]
    simp [Notes.Eligible, Notes.listed]

/-- So a schema that requires a value does not always reject an absent one. -/
theorem not_required_rejects :
    ¬ ∀ (schema : Schema) (kept : List (Instance Schema)) (setting : Setting) (path : Path),
      schema.CallsOnly Blueprint.WithoutStandIn → schema.rules = .ok kept → .required ∈ schema.notices →
        (∀ kind, .undefined ∉ schema.notes.listed kind) →
          ∀ accepted, (schema.vet setting path .undefined).answer ≠ .ok (.pass accepted) := by
  intro rejects
  obtain ⟨kept, compiles⟩ := exists_rules_ofFilled
  obtain ⟨accepted, passes⟩ := vet_ofFilled
  refine rejects ofFilled kept ⟨false, false, none, ⟨0, 0⟩⟩ [] withoutStandIn_ofFilled compiles ?_ ?_ accepted passes
  · simp [notices_ofFilled.1]
  · simp [notices_ofFilled.2, Notes.listed]

end Schema

end Vetting
