import Vetting.Proofs.Repetition.Lookalikes
import Vetting.Proofs.Validation.Frame

/-!
# Rules that come to the same let the same values pass

Rules that resemble each other say the same of a value, except for what they report when they turn it down
(`Rule.Resembles.agree_judge`).  So lists that resemble each other let the same values pass, in the same form
(`passes_of_resembles`), and lists that are loosely alike do so with values that are there
(`Lookalikes.passes`).
-/

namespace Vetting

variable {σ : Type} {setting : Setting} {path : Path} {value accepted about : Value} {verdict : Verdict}

/-! ## Values that pass -/

namespace Rule

/-- A rule says something good of the value, or turns it down and then says it of one that it offers. -/
theorem answer_attempt_eq_ok {rule : Rule Checked} :
    (rule.attempt setting path value).answer = (about, .ok verdict) ↔
      (about = value ∧ (rule.judge setting path value).answer = .ok verdict) ∨
      (∃ report, (rule.judge setting path value).answer = .error (.invalid report)) ∧ setting.convert = true ∧
        rule.convert? value = some about ∧ (rule.judge setting path about).answer = .ok verdict := by
  rw [attempt, Run.answer_bind]
  cases said : (rule.judge setting path value).answer with
  | ok known =>
      simp only [Run.answer, Prod.mk.injEq, reduceCtorEq, exists_false, false_and, or_false]
      exact and_congr_left' eq_comm
  | error fault =>
      cases fault with
      | usage error =>
          simp only [Run.answer, Prod.mk.injEq, reduceCtorEq, Except.error.injEq, exists_false, false_and,
            and_false, or_false]
      | invalid report =>
          cases on : setting.convert with
          | false => simp only [Bool.false_eq_true, ↓reduceIte, Run.answer, Prod.mk.injEq, reduceCtorEq, and_false,
              false_and, or_false]
          | true =>
              cases offer : rule.convert? value with
              | none => simp only [↓reduceIte, Run.answer, Prod.mk.injEq, reduceCtorEq, and_false, false_and,
                  or_false]
              | some offered =>
                  simp only [↓reduceIte, Run.answer_bind, Run.answer, Prod.mk.injEq, reduceCtorEq, and_false,
                    false_or, Except.error.injEq, Fault.invalid.injEq, exists_eq', true_and, Option.some.injEq]
                  constructor
                  · rintro ⟨rfl, good⟩
                    exact ⟨rfl, good⟩
                  · rintro ⟨rfl, good⟩
                    exact ⟨rfl, good⟩

end Rule

/-- The rules let the value pass in the accepted form. -/
def Passes (setting : Setting) (path : Path) (rules : List (Rule Checked)) (value accepted : Value) : Prop :=
  (vetBy setting path rules value).answer = .ok (.pass accepted)

/-- After the verdict about a value, the rest lets it pass in the accepted form. -/
def Verdict.LeadsTo (rest : Value → Prop) (about accepted : Value) : Verdict → Prop
  | pass => rest about
  | replace next => rest next
  | abort => accepted = about

/-- A value passes if the first rule says something good of it that leads to its passing. -/
theorem passes_cons {rule : Rule Checked} {rest : List (Rule Checked)} :
    Passes setting path (rule :: rest) value accepted ↔
      ∃ about verdict, (rule.attempt setting path value).answer = (about, .ok verdict) ∧
        verdict.LeadsTo (fun next => Passes setting path rest next accepted) about accepted := by
  rw [Passes, vetBy, Run.answer_bind]
  generalize (rule.attempt setting path value).answer = attempted
  obtain ⟨about, said⟩ := attempted
  cases said with
  | ok verdict =>
      simp only [Prod.mk.injEq, Except.ok.injEq]
      have only : ∀ {holds : Value → Verdict → Prop},
          (∃ other told, (about = other ∧ verdict = told) ∧ holds other told) ↔ holds about verdict := by
        refine ⟨?_, fun good => ⟨_, _, ⟨rfl, rfl⟩, good⟩⟩
        rintro ⟨_, _, ⟨rfl, rfl⟩, good⟩
        exact good
      rw [only]
      cases verdict with
      | pass | replace next => rfl
      | abort => simp only [Run.answer, Except.ok.injEq, Outcome.pass, Outcome.mk.injEq, and_true,
          Verdict.LeadsTo, eq_comm]
  | error fault =>
      simp only [Prod.mk.injEq, reduceCtorEq, and_false, false_and, exists_false, iff_false]
      cases fault with
      | usage error =>
          intro same
          cases same
      | invalid report =>
          intro same
          cases Except.ok.inj same

/-! ## Rules that judge alike -/

/-- The answers have the same verdict, or both turn the value down. -/
structure Agree (first second : Except Fault Verdict) : Prop where
  verdicts : ∀ verdict, first = .ok verdict ↔ second = .ok verdict
  turnedDown : (∃ report, first = .error (.invalid report)) ↔ ∃ report, second = .error (.invalid report)

/-- The same answers agree. -/
theorem Agree.of_eq {first second : Except Fault Verdict} (same : first = second) : Agree first second := by
  subst same
  exact ⟨fun _ => Iff.rfl, Iff.rfl⟩

/-- Answers agree that differ in the report of a value that is turned down. -/
theorem Agree.of_turnedDown (first second : Report) : Agree (.error (.invalid first)) (.error (.invalid second)) where
  verdicts _ := iff_of_false (fun same => nomatch same) fun same => nomatch same
  turnedDown := ⟨fun _ => ⟨second, rfl⟩, fun _ => ⟨first, rfl⟩⟩

/-- Tests that come out alike agree, although they report other things. -/
theorem agree_ofBool {first second : Bool} (path : Path) (same : first = second) {name : String}
    {particulars others : Context} :
    Agree (Judging.ofBool first path name particulars).answer (Judging.ofBool second path name others).answer := by
  subst same
  cases first with
  | true => exact .of_eq rfl
  | false => exact .of_turnedDown _ _

/-- The rules agree about every value, and offer the same in place of it. -/
structure Rule.JudgesAlike (left right : Rule Checked) : Prop where
  agree : ∀ setting path value, Agree (left.judge setting path value).answer (right.judge setting path value).answer
  convert?_eq : ∀ value, left.convert? value = right.convert? value

/-- Rules that judge alike say the same good of a value. -/
theorem Rule.JudgesAlike.answer_attempt {left right : Rule Checked} (alike : left.JudgesAlike right) :
    (left.attempt setting path value).answer = (about, .ok verdict) ↔
      (right.attempt setting path value).answer = (about, .ok verdict) := by
  have here := alike.agree setting path value
  have there := alike.agree setting path about
  rw [answer_attempt_eq_ok, answer_attempt_eq_ok, here.verdicts, here.turnedDown, there.verdicts, alike.convert?_eq]

/-- Rules that judge alike one by one let the same values pass in the same form. -/
theorem passes_of_judgesAlike {first second : List (Rule Checked)}
    (alike : List.Forall₂ Rule.JudgesAlike first second) :
    Passes setting path first value accepted ↔ Passes setting path second value accepted := by
  induction alike generalizing value with
  | nil => rfl
  | cons head _ ih =>
      simp only [passes_cons, head.answer_attempt]
      refine exists_congr fun about => exists_congr fun verdict => and_congr_right fun _ => ?_
      cases verdict with
      | pass | replace next => exact ih
      | abort => exact Iff.rfl

/-! ## Rules that resemble each other -/

/-- Lists of values that contain the same agree, although they report what they list. -/
theorem Listing.agree_judge (kind : Listing) {first second : ListedValues} (path : Path)
    (same : first.contains value = second.contains value) :
    Agree (kind.judge first path value).answer (kind.judge second path value).answer := by
  cases kind with
  | valid =>
      simp only [judge, same]
      cases second.contains value with
      | true => exact .of_eq rfl
      | false => exact .of_turnedDown _ _
  | invalid | allow =>
      simp only [judge, same]
      exact .of_eq rfl

/-- A key map knows the names that its patterns occur in, in whatever order they stand. -/
theorem KeyRule.knows_eq (entries : Members σ) {first second : List Regex}
    (agree : ∀ pattern, pattern ∈ first ↔ pattern ∈ second) (unknown operating : Bool) (name : String) :
    KeyRule.knows ⟨entries, first, unknown, operating⟩ name =
      KeyRule.knows ⟨entries, second, unknown, operating⟩ name := by
  have patterns : (first.any fun pattern => pattern.occursIn name) =
      second.any fun pattern => pattern.occursIn name := by
    rw [Bool.eq_iff_iff]
    simp only [List.any_eq_true, agree]
  simp only [knows, patterns]

namespace Rule.Resembles

variable {left right : Rule σ} (translate : σ → Checked)

/-- Rules that resemble each other judge alike. -/
theorem judgesAlike (same : left.Resembles right) : (left.map translate).JudgesAlike (right.map translate) where
  agree setting path value := by
    cases same with
    | refl => exact .of_eq rfl
    | listing kind operating agree => exact kind.agree_judge path (agree.contains_eq value)
    | @keys entries unknown operating first second agree =>
        simp only [map, judge, KeyRule.judge, KeyRule.stranger?, KeyRule.knows_eq _ agree]
        exact .of_eq rfl
    | @alternatives first second alike =>
        have answers := Run.firstPass_answer_of_raceAlike (alike.map translate)
          fun schema => schema.accept path value
        simp only [map, judge, judgeAlternatives, Run.answer_bind, answers]
        exact .of_eq rfl
  convert?_eq value := by
    cases same <;> rfl

end Rule.Resembles

/-- Rules that resemble each other one by one let the same values pass in the same form. -/
theorem passes_of_resembles (translate : σ → Checked) {first second : List (Instance σ)}
    (same : List.Forall₂ Instance.Resembles first second) :
    Passes setting path (first.map fun entry => entry.rule.map translate) value accepted ↔
      Passes setting path (second.map fun entry => entry.rule.map translate) value accepted := by
  refine passes_of_judgesAlike (List.rel_map (fun left right resembles => ?_) same)
  exact resembles.rule.judgesAlike translate

/-! ## Lists that look alike -/

/-- Rules below the last tier let a value pass as it is, or turn it down. -/
theorem Rule.settles_of_priority {rule : Rule σ} (standard : rule.unwired ∈ Ruleset.standardRules)
    (early : rule.priority ≠ 100) {translate : σ → Checked}
    (said : ((rule.map translate).attempt setting path value).answer = (about, .ok verdict)) :
    about = value ∧ (verdict = .pass ∨ verdict = .abort) := by
  have told := answer_attempt_eq_ok.mp said
  cases rule with
  | optional enabled =>
      rcases told with ⟨rfl, judged⟩ | ⟨-, -, offer, -⟩
      · refine ⟨rfl, ?_⟩
        simp only [map, judge, Judging.say, Run.answer, Except.ok.injEq] at judged
        split at judged
        · exact .inr judged.symm
        · exact .inl judged.symm
      · cases offer
  | listing kind set operating =>
      rcases told with ⟨rfl, judged⟩ | ⟨-, -, offer, -⟩
      · exact ⟨rfl, Listing.verdict_of_judge judged⟩
      · cases offer
  | standIn old operating =>
      rcases told with ⟨rfl, judged⟩ | ⟨-, -, offer, -⟩
      · exact ⟨rfl, .inl (Except.ok.inj judged).symm⟩
      · cases offer
  | declared declaration => exact absurd rfl (ne_declared_of_standard standard declaration)
  | _ => exact absurd rfl early

/-- A rule `optional` has no say about a value that is there. -/
theorem Instance.IsOptional.passes {entry : Instance σ} (optional : entry.IsOptional)
    (present : value.isPresent = true) (translate : σ → Checked) {rest : List (Rule Checked)} :
    Passes setting path (entry.rule.map translate :: rest) value accepted ↔
      Passes setting path rest value accepted := by
  obtain ⟨rule, arguments⟩ := entry
  cases rule with
  | optional enabled =>
      have said : ((Rule.optional enabled).attempt setting path value).answer = (value, .ok .pass) := by
        refine Rule.answer_attempt_eq_ok.mpr (.inl ⟨rfl, ?_⟩)
        simp only [Rule.judge, present, Bool.not_true, Bool.and_false, Bool.false_eq_true, ↓reduceIte]
        rfl
      simp only [Rule.map, passes_cons, said, Prod.mk.injEq, Except.ok.injEq]
      constructor
      · rintro ⟨_, _, ⟨rfl, rfl⟩, leads⟩
        exact leads
      · exact fun leads => ⟨_, _, ⟨rfl, rfl⟩, leads⟩
  | _ => cases optional

namespace Lookalikes

variable {loose : Prop} {first second : List (Instance σ)}

/-- Lists that look alike without `optional` rules resemble each other one by one. -/
theorem forall₂ (alike : Lookalikes loose first second)
    (tight : loose → ∀ entry ∈ first ++ second, ¬ entry.IsOptional) :
    List.Forall₂ Instance.Resembles first second := by
  induction alike with
  | nil => exact .nil
  | cons same _ ih =>
      refine .cons same (ih fun allowed entry member => tight allowed entry ?_)
      simp only [List.mem_append, List.mem_cons] at member ⊢
      tauto
  | left allowed optional => exact absurd optional (tight allowed _ (by simp))
  | right allowed optional => exact absurd optional (tight allowed _ (by simp))

variable [Identified σ]

/-- Lists that look alike let the same values that are there pass in the same form: up to the last `optional`
rule, no rule changes the value. -/
theorem passes (alike : Lookalikes loose first second) (present : value.isPresent = true)
    (standard : ∀ entry ∈ first, entry.IsStandard) (rising : first.Pairwise Instance.wiring.Precedes)
    (alsoRising : second.Pairwise Instance.wiring.Precedes) (translate : σ → Checked) :
    Passes setting path (first.map fun entry => entry.rule.map translate) value accepted ↔
      Passes setting path (second.map fun entry => entry.rule.map translate) value accepted := by
  induction alike with
  | nil => rfl
  | @cons left right firstRest secondRest same rest ih =>
      by_cases last : left.rule.priority = 100
      · refine passes_of_resembles translate (.cons same (rest.forall₂ fun _ entry member optional => ?_))
        have level : entry.rule.priority = 0 := by
          rw [← Rule.priority_unwired, optional]
          rfl
        rcases List.mem_append.mp member with inside | inside
        · have order : left.rule.priority ≤ entry.rule.priority := List.rel_of_pairwise_cons rising inside
          omega
        · have order : right.rule.priority ≤ entry.rule.priority := List.rel_of_pairwise_cons alsoRising inside
          rw [← Instance.priority_of_call same.call_eq] at order
          omega
      · simp only [List.map_cons, passes_cons, (same.rule.judgesAlike translate).answer_attempt]
        refine exists_congr fun about => exists_congr fun verdict => and_congr_right fun said => ?_
        have settled := Rule.settles_of_priority (standard left List.mem_cons_self) last
          (((same.rule.judgesAlike translate).answer_attempt).mpr said)
        obtain ⟨rfl, rfl | rfl⟩ := settled
        · exact ih (fun entry member => standard entry (List.mem_cons_of_mem _ member)) rising.of_cons
            alsoRising.of_cons
        · exact Iff.rfl
  | left allowed optional _ ih =>
      rw [List.map_cons, optional.passes present]
      exact ih (fun entry member => standard entry (List.mem_cons_of_mem _ member)) rising.of_cons alsoRising
  | right allowed optional _ ih =>
      rw [List.map_cons, optional.passes present]
      exact ih standard rising alsoRising.of_cons

end Lookalikes

/-! ## Stand-ins that come first -/

/-- A stand-in has no say when it is its turn. -/
theorem passes_standIn {standIn : Value} {operating : Bool} {rest : List (Rule Checked)} :
    Passes setting path (.standIn standIn operating :: rest) value accepted ↔
      Passes setting path rest value accepted := by
  have said : ((Rule.standIn standIn operating).attempt setting path value).answer = (value, .ok .pass) :=
    Rule.answer_attempt_eq_ok.mpr (.inl ⟨rfl, rfl⟩)
  simp only [passes_cons, said, Prod.mk.injEq, Except.ok.injEq]
  constructor
  · rintro ⟨_, _, ⟨rfl, rfl⟩, leads⟩
    exact leads
  · exact fun leads => ⟨_, _, ⟨rfl, rfl⟩, leads⟩

/-- Asked from the start, the rules let the value pass in the accepted form. -/
def Admits (setting : Setting) (translate : σ → Checked) (path : Path) (value accepted : Value)
    (entries : List (Instance σ)) : Prop :=
  (vetWith setting (entries.map fun entry => entry.rule.map translate) path value).answer = .ok (.pass accepted)

/-- The value that settles the matter if the value is absent: a stand-in that comes first. -/
def settledBy (entries : List (Instance σ)) (value : Value) : Option Value :=
  if value.isPresent then none else entries.head?.bind fun entry => entry.rule.standIn?

/-- A stand-in that comes first settles the matter for an absent value, and else the rules do. -/
theorem admits_iff {entries : List (Instance σ)} (standard : ∀ entry ∈ entries, entry.IsStandard)
    (translate : σ → Checked) :
    Admits setting translate path value accepted entries ↔
      match settledBy entries value with
      | some standIn => accepted = standIn
      | none => Passes setting path (entries.map fun entry => entry.rule.map translate) value accepted := by
  unfold Admits settledBy
  cases entries with
  | nil => simp only [List.head?_nil, Option.bind_none, ite_self]; rfl
  | cons first rest =>
      have declared := (standard first List.mem_cons_self).ne_declared
      simp only [List.map_cons, List.head?_cons, Option.bind_some, vetWith, Rule.standIn?_map]
      cases same : first.rule with
      | standIn value operating =>
          simp only [Rule.standIn?]
          split
          · simp only [Rule.map, passes_standIn]
            exact Iff.rfl
          · simp only [Run.answer, Except.ok.injEq, Outcome.pass, Outcome.mk.injEq, and_true, eq_comm]
      | declared declaration => exact absurd same (declared declaration)
      | _ => simp only [Rule.standIn?, ite_self]; exact Iff.rfl

/-- Entries that judge alike, and have the same stand-ins, let the same values pass, absent ones as well. -/
theorem admits_of_judgesAlike {translate : σ → Checked} {first second : List (Instance σ)}
    (alike : List.Forall₂ (fun left right => (left.rule.map translate).JudgesAlike (right.rule.map translate) ∧
      left.rule.standIn? = right.rule.standIn?) first second)
    (standard : ∀ entry ∈ first, entry.IsStandard) (alsoStandard : ∀ entry ∈ second, entry.IsStandard) :
    Admits setting translate path value accepted first ↔ Admits setting translate path value accepted second := by
  have settled : settledBy first value = settledBy second value := by
    unfold settledBy
    cases alike with
    | nil => rfl
    | cons head _ => simp only [List.head?_cons, Option.bind_some, head.2]
  rw [admits_iff standard, admits_iff alsoStandard, settled]
  cases settledBy second value with
  | some standIn => exact Iff.rfl
  | none => exact passes_of_judgesAlike (List.rel_map (fun _ _ both => both.1) alike)

/-- Entries that resemble each other let the same values pass, absent ones as well. -/
theorem admits_of_resembles {first second : List (Instance σ)}
    (same : List.Forall₂ Instance.Resembles first second) (standard : ∀ entry ∈ first, entry.IsStandard)
    (translate : σ → Checked) :
    Admits setting translate path value accepted first ↔ Admits setting translate path value accepted second := by
  refine admits_of_judgesAlike (same.imp fun _ _ resembles =>
    ⟨resembles.rule.judgesAlike translate, resembles.rule.standIn?_eq⟩) standard fun entry member => ?_
  obtain ⟨origin, inside, resembles⟩ := exists_of_mem_right same member
  exact (standard origin inside).of_call_eq resembles.call_eq.symm

end Vetting
