import Vetting.Validation.Judging

/-!
# Checks of texts

What the rule of a check says of a text is the same in every setting and at every place: the text passes, or it is
turned down under the name of the rule (`Check.passes_iff`, `Check.fails_iff`).  A check of a shape lets the texts
pass in which the shape occurs (`Check.passes_iff_of_shape`).
-/

namespace Vetting.Check

/-- The rule of the check lets the text pass, wherever and in whichever setting. -/
def Passes (test : Check) (text : String) : Prop :=
  ∀ setting path, (Rule.check test).judge setting path (.string text) = .say .pass

/-- The rule of the check turns the text down, wherever and in whichever setting. -/
def Fails (test : Check) (text : String) : Prop :=
  ∀ setting path, (Rule.check test).judge setting path (.string text) = .fail path test.name []

variable {test : Check} {text : String}

/-- A check other than that a value is there looks at the text. -/
theorem accepts_string (textual : test ≠ required) (now : Instant) (text : String) :
    test.accepts now (.string text) = test.acceptsText text := by
  cases test with
  | required => exact absurd rfl textual
  | _ => rfl

/-- A check of texts says whether it accepts the text. -/
theorem judge_string (textual : test ≠ required) (setting : Setting) (path : Path) (text : String) :
    (Rule.check test).judge setting path (.string text) = .ofBool (test.acceptsText text) path test.name [] := by
  rw [Rule.judge, accepts_string textual]

/-- Some setting, to tell what is the same in all of them. -/
def aside : Setting :=
  ⟨false, false, none, ⟨0, 0⟩⟩

/-- A check of texts passes what it accepts. -/
theorem passes_iff (textual : test ≠ required) : test.Passes text ↔ test.acceptsText text = true := by
  simp only [Passes, judge_string textual]
  cases test.acceptsText text with
  | true => exact iff_of_true (fun _ _ => rfl) rfl
  | false => exact iff_of_false (fun passes => nomatch passes aside []) Bool.false_ne_true

/-- A check of texts turns down what it does not pass. -/
theorem fails_iff (textual : test ≠ required) : test.Fails text ↔ ¬ test.Passes text := by
  rw [passes_iff textual]
  simp only [Fails, judge_string textual]
  cases test.acceptsText text with
  | true => exact iff_of_false (fun fails => nomatch fails aside []) (not_not_intro rfl)
  | false => exact iff_of_true (fun _ _ => rfl) Bool.false_ne_true

/-- A check by shape passes the texts that the shape occurs in. -/
theorem passes_iff_of_shape {shape : Pattern} (shaped : test.shape? = some shape) :
    test.Passes text ↔ shape.occursIn text = true := by
  have textual : test ≠ required := by
    rintro rfl
    cases shaped
  rw [passes_iff textual]
  unfold acceptsText
  split
  case h_7 => rw [shaped, Option.any_some]
  all_goals cases shaped

end Vetting.Check
