import Vetting.Proofs.Validation.Location
import Vetting.Proofs.Validation.Parallel

/-!
# Validations at other places

Where a value stands has no say in what becomes of it.  Validated at a path, a value is accepted or fails just as
it does at the outermost place, and what is found, is found below that path (`Validator.vetAt_relocated`).  The path
shows in one more respect: a finding about the value itself calls it by the last step of the path.
-/

namespace Vetting

/-! ## Paths -/

/-- What a path ends with gives the place its name; without steps, it is called as before. -/
theorem Path.label_append (above path : Path) :
    label (above ++ path) = if path = [] then label above else label path := by
  split
  next empty => rw [empty, List.append_nil]
  next steps =>
    unfold label
    rw [List.getLast?_append, Option.or_of_isSome (List.getLast?_isSome.mpr steps)]

/-! ## Reports -/

/-- The particulars of a finding when its value stands at a path: only what is found in the value itself, and called
by its place, is called by another name there. -/
def Finding.contextBelow (above : Path) (finding : Finding) : Context :=
  if finding.path = [] ∧ finding.rule ≠ "object.unknown" then finding.context.put "key" (.string above.label)
  else finding.context

/-- The second finding is the first one, found in a value that stands at a path.  The first one calls its place by
the last step that leads there, and an outermost value by the name of such values. -/
structure Finding.Relocated (above : Path) (first second : Finding) : Prop where
  path_eq : second.path = above ++ first.path
  rule_eq : second.rule = first.rule
  context_eq : second.context = first.contextBelow above
  called : first.CallsItsPlace

/-- The same has been found in both, one by one, behind the same opening. -/
structure Report.Relocated (above : Path) (first second : Report) : Prop where
  findings : List.Forall₂ (Finding.Relocated above) first.findings second.findings
  opening_eq : second.opening = first.opening
  traced_eq : second.traced = first.traced

/-- The answers are the same mistake, or outcomes about the same value, which both pass or have the same found in
them. -/
abbrev SameBelow (above : Path) : Except Misuse Outcome → Except Misuse Outcome → Prop :=
  AnswersCorrespond (Report.Relocated above)

namespace Report

variable {above path : Path} {rule : String} {particulars : Context} {first second : Report}

/-- A failed rule is told from the place further out. -/
theorem relocated_ofRule (known : rule ≠ "object.unknown") (proper : "key" ∉ particulars.names) :
    (ofRule rule path particulars).Relocated above (ofRule rule (above ++ path) particulars) := by
  refine ⟨.cons ⟨rfl, rfl, ?_, fun _ => Members.get?_putAll_of_not_mem proper _⟩ .nil, rfl, rfl⟩
  rw [Finding.contextBelow, Path.label_append]
  by_cases outermost : path = []
  · rw [if_pos outermost, if_pos ⟨outermost, known⟩, Members.put_putAll proper rfl]
    rfl
  · rw [if_neg outermost, if_neg fun both => outermost both.1]

/-- A member without a place in its object bears its own name wherever the object stands. -/
theorem relocated_ofStranger (name : String) :
    (ofRule "object.unknown" path [("key", .string name)]).Relocated above
      (ofRule "object.unknown" (above ++ path) [("key", .string name)]) := by
  refine ⟨.cons ⟨rfl, rfl, ?_, fun known => absurd rfl known⟩ .nil, rfl, rfl⟩
  exact (if_neg fun both => both.2 rfl).symm

/-- An objection is the same at a relocated place. -/
theorem relocated_of_objection (objection : Objection rule particulars) :
    (ofRule rule path particulars).Relocated above (ofRule rule (above ++ path) particulars) := by
  by_cases known : rule = "object.unknown"
  · obtain ⟨name, rfl⟩ := objection.eq_stranger known
    rw [known]
    exact relocated_ofStranger name
  · exact relocated_ofRule known (objection.key_not_mem known)

namespace Relocated

/-- Messages do not change where something has been found. -/
theorem attach (relocated : first.Relocated above second) (format format' : Finding → Option String) :
    (first.attach format).Relocated above (second.attach format') := by
  refine ⟨?_, relocated.opening_eq, relocated.traced_eq⟩
  simp only [Report.attach, List.forall₂_map_left_iff, List.forall₂_map_right_iff]
  refine relocated.findings.imp fun finding other same => ?_
  cases finding.message <;> cases other.message <;>
    exact ⟨same.path_eq, same.rule_eq, same.context_eq, same.called⟩

/-- Tracing a report leaves it relocated. -/
theorem trace (relocated : first.Relocated above second) : first.trace.Relocated above second.trace :=
  ⟨relocated.findings, relocated.opening_eq, rfl⟩

/-- Nor does anything else that a schema adds to a report before it hands it on. -/
theorem shown (relocated : first.Relocated above second) (setting : Setting) :
    (setting.shown first).Relocated above (setting.shown second) := by
  unfold Setting.shown
  cases setting.language with
  | none => cases setting.traced <;> [exact relocated; exact relocated.trace]
  | some language =>
      have worded := relocated.attach language.format? language.format?
      cases setting.traced <;> [exact worded; exact worded.trace]

end Relocated

/-- What a predicate has refused. -/
theorem relocated_ofRefusal (words : String) :
    (ofRefusal words path).Relocated above (ofRefusal words (above ++ path)) :=
  (relocated_ofRule (by decide) (by simp [Members.names])).attach _ _

end Report

/-! ## Schemas -/

/-- A place further in is below the path just as it is below the outermost place. -/
theorem Setting.correspondence_below (setting : Setting) (above : Path) :
    Correspondence setting setting.language setting.traced (above ++ ·) (Report.Relocated above)
      (Report.Relocated above) where
  below path step := (List.append_assoc above path [step]).symm
  objects objection _ := Report.relocated_of_objection objection
  refuses words _ := Report.relocated_ofRefusal words
  shows relocated := relocated.shown setting
  handsOn relocated := relocated

/-- A schema of standard rules runs alike at every place. -/
theorem Schema.alike_below (setting : Setting) (above : Path) {schema : Schema}
    (standard : schema.Everywhere CallsStandard) (path : Path) (value : Value) :
    (schema.vet setting path value).Alike (SameBelow above) (schema.vet setting (above ++ path) value) :=
  alike_checked (setting.correspondence_below above) standard path value

/-! ## Validators -/

/-- **Where a value stands decides nothing.**  A value that is validated at a path comes to the same mistake as at the
outermost place, or to the same outcome: the same accepted value, or a failure in which the same has been found, in
the same order, below the path.  Only the name of the vetted value itself is another one.  The same schemas are opened
on the way, and a value vetted in a single turn fares no differently. -/
theorem Validator.vetAt_relocated (validator : Validator) (options : Options) {schema : Schema}
    (standard : schema.Everywhere Schema.CallsStandard) (now : Instant) (path : Path) (value : Value) :
    Crafting.Alike (SameBelow path) (validator.vetAt schema options now [] value)
        (validator.vetAt schema options now path value) ∧
      Crafting.Alike (SameBelow path) (validator.vetAtOnce schema { options with path := [] } now value)
        (validator.vetAtOnce schema { options with path } now value) := by
  have alike := Schema.alike_below (validator.setting options now) path standard [] value
  rw [List.append_nil] at alike
  exact ⟨vetAt_alike alike, vetAtOnce_alike (.error rfl) alike⟩

/-- Where something has been found, and how the place is called. -/
def Outcome.places (outcome : Outcome) : List (Path × Option String) :=
  (outcome.report.map fun report => report.findings.map fun finding =>
    (finding.path, (finding.context.get? "key").map Value.text)).getD []

/-- What is no object is called by its member, where it lies in one; an item is called by its place all along. -/
theorem Validator.vetAt_relocated_ofMemberOfTexts :
    let places (path : Path) (value : Value) :=
      ((standard.vetAt Schema.ofMemberOfTexts {} ⟨0, 0⟩ path value).run .fresh).1.toOption.map Outcome.places
    places [] .null = some [([], some "value")] ∧
      places [.key "b"] .null = some [([.key "b"], some "b")] ∧
      places [.key "b"] (.object [("a", .array [.null])]) =
        some [([.key "b", .key "a", .index 0], some "[0]")] ∧
      ∀ value, Crafting.Alike (SameBelow [.key "b"])
        (standard.vetAt Schema.ofMemberOfTexts {} ⟨0, 0⟩ [] value)
        (standard.vetAt Schema.ofMemberOfTexts {} ⟨0, 0⟩ [.key "b"] value) :=
  ⟨by decide +kernel, by decide +kernel, by decide +kernel, fun value =>
    (vetAt_relocated standard {} Schema.callsStandard_ofMemberOfTexts ⟨0, 0⟩ [.key "b"] value).1⟩

end Vetting
