import Vetting.Proofs.Schema.Standard
import Vetting.Proofs.Validation.Location
import Vetting.Proofs.Validation.Parallel

/-!
# Messages decide nothing

Validations that differ only in the language of their messages, and in whether reports are traced, run alike: they
open the same schemas, pause at the same points, and come to the same mistake or to outcomes that differ in the
words of their findings alone (`Schema.alike_worded`).  Only a predicate brings words of its own, and what it
brings stays (`Finding.Alike`).  So two validators that share their rules but not their language say the same of
every value (`Validator.vetAt_speaking`).
-/

namespace Vetting

/-! ## Reports -/

/-- The findings say the same of the same place.  What a predicate has found is put in its own words, and these are
the same in both. -/
structure Finding.Alike (first second : Finding) : Prop where
  path_eq : first.path = second.path
  rule_eq : first.rule = second.rule
  context_eq : first.context = second.context
  own : first.rule = "custom" → first.message.isSome ∧ first.message = second.message

/-- The findings are alike one by one, behind the same opening. -/
structure Report.Alike (first second : Report) : Prop where
  findings : List.Forall₂ Finding.Alike first.findings second.findings
  opening_eq : first.opening = second.opening

/-- The outcomes are about the same value; both pass, or both fail with reports that are alike. -/
structure Outcome.Alike (first second : Outcome) : Prop where
  value_eq : first.value = second.value
  report : Option.Rel Report.Alike first.report second.report

/-- The answers are the same mistake, or outcomes that are alike. -/
abbrev SameButWords : Except Misuse Outcome → Except Misuse Outcome → Prop :=
  Matching Eq Outcome.Alike

theorem Finding.Alike.symm {first second : Finding} (alike : first.Alike second) : second.Alike first where
  path_eq := alike.path_eq.symm
  rule_eq := alike.rule_eq.symm
  context_eq := alike.context_eq.symm
  own custom := by
    obtain ⟨worded, same⟩ := alike.own (alike.rule_eq.trans custom)
    exact ⟨same ▸ worded, same.symm⟩

namespace Report.Alike

variable {first second : Report}

theorem symm (alike : first.Alike second) : second.Alike first :=
  ⟨(alike.findings.imp fun _ _ => Finding.Alike.symm).flip, alike.opening_eq.symm⟩

/-- Findings without words get some; a finding of a predicate has its own already. -/
theorem attach (alike : first.Alike second) (format : Finding → Option String) :
    (first.attach format).Alike second := by
  refine ⟨List.forall₂_map_left_iff.mpr (alike.findings.imp fun finding other same => ?_), alike.opening_eq⟩
  cases message : finding.message with
  | some words => exact same
  | none =>
      refine ⟨same.path_eq, same.rule_eq, same.context_eq, fun custom => ?_⟩
      have worded := (same.own custom).1
      rw [message] at worded
      cases worded

/-- What a schema adds to a report that it hands on are words and the trace. -/
theorem shown (alike : first.Alike second) (setting : Setting) : (setting.shown first).Alike second := by
  unfold Setting.shown
  cases setting.language with
  | none => cases setting.traced <;> exact ⟨alike.findings, alike.opening_eq⟩
  | some language =>
      have worded := alike.attach language.format?
      cases setting.traced <;> exact ⟨worded.findings, worded.opening_eq⟩

end Report.Alike

/-- A failed rule that is no predicate is reported without words. -/
theorem Report.alike_ofRule {rule : String} (other : rule ≠ "custom") (path : Path) (particulars : Context) :
    (ofRule rule path particulars).Alike (ofRule rule path particulars) :=
  ⟨.cons ⟨rfl, rfl, rfl, fun custom => absurd custom other⟩ .nil, rfl⟩

/-- What a predicate has refused is reported in its own words. -/
theorem Report.alike_ofRefusal (words : String) (path : Path) :
    (ofRefusal words path).Alike (ofRefusal words path) :=
  ⟨.cons ⟨rfl, rfl, rfl, fun _ => ⟨rfl, rfl⟩⟩ .nil, rfl⟩

/-! ## Schemas -/

/-- In another language, reports are alike. -/
theorem Setting.correspondence_worded (setting : Setting) (language : Option Language) (traced : Bool) :
    Correspondence setting language traced id Report.Alike Report.Alike where
  below _ _ := rfl
  objects objection path := Report.alike_ofRule objection.name_ne_custom path _
  refuses := Report.alike_ofRefusal
  shows alike := ((alike.shown _).symm.shown _).symm
  handsOn alike := alike

/-- Schemas of standard rules run alike in every language, traced or not. -/
theorem Schema.alike_worded (setting : Setting) (language : Option Language) (traced : Bool) {schema : Schema}
    (standard : schema.Everywhere CallsStandard) (path : Path) (value : Value) :
    (schema.vet setting path value).Alike SameButWords (schema.vet (setting.worded language traced) path value) := by
  refine (alike_checked (setting.correspondence_worded language traced) standard path value).mono fun _ _ same => ?_
  exact same.mono (fun _ _ same => same) fun _ _ corresponds => ⟨corresponds.value_eq, corresponds.report⟩

/-! ## Validators -/

/-- **Messages decide nothing.**  Two validators with the same rules, whatever languages they speak, come to the same
mistake, or to outcomes about the same value that both pass, or both fail for the same rules at the same places with
the same particulars, in the same order; tracing changes nothing about this either.  What a predicate has to say it
says in the same words to both.  They open the same schemas on the way, and a value vetted in a single turn fares no
differently. -/
theorem Validator.vetAt_speaking (validator : Validator) (language : Option Language) (options : Options)
    (traced : Bool) {schema : Schema} (standard : schema.Everywhere Schema.CallsStandard) (now : Instant)
    (path : Path) (value : Value) :
    Crafting.Alike SameButWords (validator.vetAt schema options now path value)
        ({ validator with language }.vetAt schema { options with traced } now path value) ∧
      Crafting.Alike SameButWords (validator.vetAtOnce schema options now value)
        ({ validator with language }.vetAtOnce schema { options with traced } now value) := by
  have alike : ∀ path, (schema.vet (validator.setting options now) path value).Alike SameButWords
      (schema.vet ({ validator with language }.setting { options with traced } now) path value) := fun path =>
    Schema.alike_worded (validator.setting options now) language traced standard path value
  exact ⟨vetAt_alike (alike path), vetAtOnce_alike (.error rfl) (alike options.path)⟩

/-- The words of all findings. -/
def Outcome.messages (outcome : Outcome) : List (Option String) :=
  (outcome.report.map fun report => report.findings.map Finding.message).getD []

/-- The same item is no text, with a word for this and without one. -/
theorem Validator.vetAt_speaking_ofMemberOfTexts :
    let brief : Validator := ⟨.standard, some ⟨"brief", [("string", fun _ => "no text")]⟩⟩
    let silent : Validator := ⟨.standard, none⟩
    let value := Value.object [("a", .array [.string "x", .null])]
    ((brief.vet Schema.ofMemberOfTexts {} ⟨0, 0⟩ value).run .fresh).1.toOption.map Outcome.messages =
        some [some "no text"] ∧
      ((silent.vet Schema.ofMemberOfTexts {} ⟨0, 0⟩ value).run .fresh).1.toOption.map Outcome.messages =
        some [none] ∧
      Crafting.Alike SameButWords (brief.vetAt Schema.ofMemberOfTexts {} ⟨0, 0⟩ [] value)
        (silent.vetAt Schema.ofMemberOfTexts { traced := true } ⟨0, 0⟩ [] value) :=
  ⟨by decide +kernel, by decide +kernel,
    (vetAt_speaking ⟨.standard, some ⟨"brief", [("string", fun _ => "no text")]⟩⟩ none {} true
      Schema.callsStandard_ofMemberOfTexts ⟨0, 0⟩ [] _).1⟩

end Vetting
