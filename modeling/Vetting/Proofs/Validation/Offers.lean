import Vetting.Proofs.Run.Deciding
import Vetting.Proofs.Text.Forms
import Vetting.Proofs.Validation.Judging

/-!
# What is offered is accepted

A check that offers a value in place of one that it has rejected accepts the offered one
(`Check.accepts_of_convert?`), and so does an array rule that wraps a single value.  So where conversion is on, the
second judgement of such a rule never fails, and the value that it leaves stays as it is when it is validated again
(`Rule.settles_of_offer`).
-/

namespace Vetting

variable {setting : Setting} {path : Path} {value offered : Value}

/-- A check accepts what it offers, at any time. -/
theorem Check.accepts_of_convert? {test : Check} (offers : test.convert? value = some offered) (now : Instant) :
    test.accepts now offered = true := by
  cases test with
  | number =>
      obtain ⟨n, read, rfl⟩ := Option.map_eq_some_iff.mp offers
      exact (Option.filter_eq_some_iff.mp read).2
  | boolean =>
      obtain ⟨flag, -, rfl⟩ := Option.map_eq_some_iff.mp offers
      rfl
  | date =>
      obtain ⟨instant, -, rfl⟩ := Option.map_eq_some_iff.mp offers
      rfl
  | lowercase =>
      obtain ⟨text, -, rfl⟩ := Option.map_eq_some_iff.mp offers
      exact beq_iff_eq.mpr (Text.toLower_toLower text)
  | uppercase =>
      obtain ⟨text, -, rfl⟩ := Option.map_eq_some_iff.mp offers
      exact beq_iff_eq.mpr (Text.toUpper_toUpper text)
  | trimmed =>
      obtain ⟨text, -, rfl⟩ := Option.map_eq_some_iff.mp offers
      exact beq_iff_eq.mpr (Text.trim_trim text)
  | _ => cases offers

/-- An array rule accepts the array of one value that it offers, unless that is a hole. -/
theorem judgeArray_of_convert? {σ : Type} {single sparse : Bool} (defined : value.isPresent = true)
    (offers : (Rule.array single sparse : Rule σ).convert? value = some offered) (path : Path) :
    judgeArray sparse path offered = .say .pass := by
  rw [Rule.convert?, Option.ite_none_right_eq_some] at offers
  obtain rfl := Option.some.inj offers.2
  rw [judgeArray, Value.asItems?, Option.any_some, List.all_cons, defined, List.all_nil, Bool.and_true, Bool.or_true]
  rfl

namespace Rule

/-- The rule may offer a value of its kind, or a text of its form, in place of another value. -/
def coerces {σ : Type} : Rule σ → Bool
  | array _ _ | check .number | check .boolean | check .date | check .lowercase | check .uppercase | check .trimmed =>
    true
  | _ => false

/-- Such a rule judges by the type of arrays, or it is a check. -/
theorem array_or_check {σ : Type} {rule : Rule σ} (coerces : rule.coerces = true) :
    (∃ single sparse, rule = .array single sparse) ∨ ∃ test, rule = .check test := by
  cases rule with
  | array single sparse => exact .inl ⟨single, sparse, rfl⟩
  | check test => exact .inr ⟨test, rfl⟩
  | _ => cases coerces

/-- It lets pass what it offers in place of a value that is there. -/
theorem judge_of_convert? {rule : Rule Checked} (coerces : rule.coerces = true) (defined : value.isPresent = true)
    (offers : rule.convert? value = some offered) (setting : Setting) (path : Path) :
    rule.judge setting path offered = .say .pass := by
  obtain ⟨single, sparse, rfl⟩ | ⟨test, rfl⟩ := array_or_check coerces
  · exact judgeArray_of_convert? defined offers path
  · rw [judge, Check.accepts_of_convert? offers, Judging.ofBool, if_pos rfl]

/-- It judges at once, and never by a predicate. -/
theorem immediate_of_coerces {rule : Rule Checked} (coerces : rule.coerces = true) (setting : Setting) (path : Path)
    (value : Value) : (rule.judge setting path value).Immediate := by
  obtain ⟨single, sparse, rfl⟩ | ⟨test, rfl⟩ := array_or_check coerces
  · exact Judging.immediate_ofBool _ _ _ _
  · exact Judging.immediate_ofBool _ _ _ _

/-- A rule that rejects a value at once, and lets pass what it offers, leaves what it offers. -/
theorem attempt_of_offer {rule : Rule Checked} (immediate : (rule.judge setting path value).Immediate)
    (rejects : ¬ (rule.judge setting path value).Succeeds) (convert : setting.convert = true)
    (offers : rule.convert? value = some offered) (passes : rule.judge setting path offered = .say .pass) :
    rule.attempt setting path value = .done (offered, .ok .pass) := by
  rcases immediate with passed | ⟨report, fails⟩
  · exact absurd ⟨.pass, by rw [passed]; rfl⟩ rejects
  · rw [attempt, fails, Run.done_bind]
    simp only [convert, ↓reduceIte, offers, passes]
    rfl

/-- A rule that lets a value pass as it is, and is no stand-in, leaves it as it is. -/
theorem vetWith_of_pass {rule : Rule Checked} (noStandIn : rule.standIn? = none)
    (passes : rule.judge setting path value = .say .pass) :
    vetWith setting [rule] path value = .done (.ok (.pass value)) := by
  have attempted : rule.attempt setting path value = .done (value, .ok .pass) := by
    rw [attempt, passes]
    rfl
  rw [vetWith, noStandIn]
  exact vetBy_cons_of_pass attempted []

/-- What a rule offers in place of a value settles the matter. -/
structure Settles (rule : Rule Checked) (value offered : Value) : Prop where
  /-- The rule accepts what it offers, wherever and in whichever setting. -/
  accepted : ∀ setting path, rule.judge setting path offered = .say .pass
  /-- Where conversion is on and the rule rejects the value, the second judgement passes. -/
  retried : ∀ setting path, setting.convert = true → ¬ (rule.judge setting path value).Succeeds →
    rule.attempt setting path value = .done (offered, .ok .pass)
  /-- Then the rules behind it judge what has been offered. -/
  replaced : ∀ setting path, setting.convert = true → ¬ (rule.judge setting path value).Succeeds →
    ∀ rest, vetBy setting path (rule :: rest) value = vetBy setting path rest offered
  /-- When it is validated again, it stays as it is. -/
  again : ∀ setting path, vetWith setting [rule] path offered = .done (.ok (.pass offered))

/-- **What is offered is accepted.**  A rule for numbers, truth values, dates or arrays, or for texts in lower case, in
upper case or without blanks at the ends, lets pass whatever it offers in place of a value that is there. -/
theorem settles_of_offer {rule : Rule Checked} (coerces : rule.coerces = true) (defined : value.isPresent = true)
    (offers : rule.convert? value = some offered) : rule.Settles value offered := by
  have accepted := judge_of_convert? coerces defined offers
  have retried : ∀ setting path, setting.convert = true → ¬ (rule.judge setting path value).Succeeds →
      rule.attempt setting path value = .done (offered, .ok .pass) := fun setting path convert rejects =>
    attempt_of_offer (immediate_of_coerces coerces setting path value) rejects convert offers (accepted setting path)
  have noStandIn : rule.standIn? = none := by
    obtain ⟨single, sparse, rfl⟩ | ⟨test, rfl⟩ := array_or_check coerces
    · rfl
    · rfl
  refine ⟨accepted, retried, fun setting path convert rejects rest => ?_, fun setting path => ?_⟩
  · exact vetBy_cons_of_pass (retried setting path convert rejects) rest
  · exact vetWith_of_pass noStandIn (accepted setting path)

/-- A word in capital letters has a sigma inside and one at its end, which become small in different forms. -/
theorem settles_of_offer_sigmas :
    (Rule.check (σ := Checked) .lowercase).convert? (.string "ΟΔΥΣΣΕΥΣ") = some (.string "οδυσσευς") ∧
      (Rule.check .lowercase).Settles (.string "ΟΔΥΣΣΕΥΣ") (.string "οδυσσευς") ∧
      (Rule.check .lowercase).attempt ⟨true, false, none, ⟨0, 0⟩⟩ [] (.string "ΟΔΥΣΣΕΥΣ") =
        .done (.string "οδυσσευς", .ok .pass) := by
  have lowered : Text.toLower "ΟΔΥΣΣΕΥΣ" = "οδυσσευς" := by decide +kernel
  have offers : (Rule.check (σ := Checked) .lowercase).convert? (.string "ΟΔΥΣΣΕΥΣ") = some (.string "οδυσσευς") :=
    congrArg (some ∘ Value.string) lowered
  have settles : (Rule.check (σ := Checked) .lowercase).Settles (.string "ΟΔΥΣΣΕΥΣ") (.string "οδυσσευς") :=
    settles_of_offer rfl rfl offers
  have rejected : Check.lowercase.accepts ⟨0, 0⟩ (.string "ΟΔΥΣΣΕΥΣ") = false := by decide +kernel
  refine ⟨offers, settles, settles.retried _ _ rfl fun ⟨verdict, said⟩ => ?_⟩
  rw [judge, rejected] at said
  cases said

end Rule

end Vetting
