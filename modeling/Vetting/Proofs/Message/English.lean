import Vetting.Message.English
import Vetting.Proofs.Message.Template
import Vetting.Proofs.Validation.Objections

/-!
# What English says

English puts a finding into words by a template, with more words behind it here and there (`format?_english`).  It
has words for every objection of the standard rules, and the templates that it chooses ask for no particulars but
those that come with the objection (`Objection.hasPhrase`).  There is one exception: a length that cannot be counted
is objected to without the limit that the words should tell (`not_resolves_of_uncounted`).
-/

namespace Vetting

/-- A template, and words that follow. -/
structure Phrase where
  template : String
  rest : String

namespace Phrase

/-- The words of the phrase about a finding. -/
def say (phrase : Phrase) (finding : Finding) : String :=
  Message.render phrase.template finding ++ phrase.rest

/-- The words are those of the phrase, with values in place of all placeholders. -/
def Spells (phrase : Phrase) (finding : Finding) (words : String) : Prop :=
  ∃ head, Message.Spells finding phrase.template head ∧ words = head ++ phrase.rest

/-- The words still have one of the placeholders, with its braces. -/
def Leaks (phrase : Phrase) (finding : Finding) (words : String) : Prop :=
  ∃ name ∈ Message.placeholders phrase.template, Message.placeholder? finding name = none ∧
    '\x7b' :: name.toList ++ ['\x7d'] <:+: words.toList

variable {phrase : Phrase} {finding : Finding}

/-- A phrase whose placeholders all stand for something spells it out. -/
theorem spells_say (resolves : Message.Resolves finding phrase.template) :
    phrase.Spells finding (phrase.say finding) :=
  ⟨_, Message.spells_render resolves, rfl⟩

/-- A phrase with a placeholder that stands for nothing leaks it. -/
theorem leaks_say (unresolved : ¬ Message.Resolves finding phrase.template) :
    phrase.Leaks finding (phrase.say finding) := by
  simp only [Message.Resolves, not_forall, Option.not_isSome_iff_eq_none] at unresolved
  obtain ⟨name, member, unknown⟩ := unresolved
  refine ⟨name, member, unknown, (Message.infix_render member unknown).trans ?_⟩
  rw [say, String.toList_append]
  exact (List.prefix_append _ _).isInfix

end Phrase

namespace Language

/-! ## The phrases of English -/

/-- How a predicate is reported that has not said anything itself. -/
def customPhrase (finding : Finding) : Phrase :=
  match Message.placeholder? finding "message" with
  | some message => ⟨"", message.text⟩
  | none => ⟨"\"{label}\" failed custom validation.", ""⟩

/-- How a value is reported that is not listed. -/
def validPhrase (finding : Finding) : Phrase :=
  match Message.placeholder? finding "allowed" with
  | some (.array []) => ⟨"\"{label}\" is not valid.", ""⟩
  | _ => ⟨"\"{label}\" is not valid and must be {allowed}.", ""⟩

/-- How an address is reported. -/
def ipPhrase (finding : Finding) : Phrase :=
  if reason? finding = some "cidr-required" then ⟨"\"{label}\" must contain a valid CIDR.", ""⟩
  else if reason? finding = some "cidr-not-allowed" then ⟨"\"{label}\" must not contain a CIDR.", ""⟩
  else ⟨"\"{label}\"", " must be a valid " ++ Message.join finding "allowed" " or " ++ " address."⟩

/-- How a reference is reported. -/
def uriPhrase (finding : Finding) : Phrase :=
  if reason? finding = some "scheme-not-allowed" then
    ⟨"\"{label}\"", " scheme must be " ++ Message.join finding "allowed" " or " ++ "."⟩
  else if reason? finding = some "relative-not-allowed" then ⟨"\"{label}\" must be an absolute URL.", ""⟩
  else ⟨"\"{label}\" must be a valid URL.", ""⟩

/-- The phrase that English chooses for a finding. -/
def englishPhrase? (finding : Finding) : Option Phrase :=
  if finding.rule = "string.uri" then some (uriPhrase finding)
  else if finding.rule = "string.ip" then some (ipPhrase finding)
  else if finding.rule = "valid" then some (validPhrase finding)
  else if finding.rule = "custom" then some (customPhrase finding)
  else (Members.get? englishTemplates finding.rule).map fun template => ⟨template, ""⟩

variable {finding : Finding}

/-- Templates that are added one after the other make a wording for each of their rules. -/
theorem wordings_foldl_addTemplate (templates : List (String × String)) (language : Language) :
    (templates.foldl (fun language (rule, template) => language.addTemplate rule template) language).wordings =
      language.wordings.putAll (templates.map fun (rule, template) => (rule, Message.render template)) := by
  induction templates generalizing language with
  | nil => rfl
  | cons entry rest ih => exact ih _

/-- The wording for custom rules says a phrase. -/
theorem say_customPhrase : customWording finding = (customPhrase finding).say finding := by
  unfold customWording customPhrase
  cases Message.placeholder? finding "message" with
  | some message => exact String.empty_append.symm
  | none => exact String.append_empty.symm

/-- The wording for valid values says a phrase. -/
theorem say_validPhrase : validWording finding = (validPhrase finding).say finding := by
  unfold validWording validPhrase
  cases Message.placeholder? finding "allowed" with
  | none => exact String.append_empty.symm
  | some allowed =>
      cases allowed with
      | array items => cases items <;> exact String.append_empty.symm
      | _ => exact String.append_empty.symm

/-- The wording for addresses says a phrase. -/
theorem say_ipPhrase : ipWording finding = (ipPhrase finding).say finding := by
  unfold ipWording
  split
  next required =>
    rw [ipPhrase, if_pos required]
    exact String.append_empty.symm
  next forbidden =>
    have other : reason? finding ≠ some "cidr-required" := forbidden ▸ by decide
    rw [ipPhrase, if_neg other, if_pos forbidden]
    exact String.append_empty.symm
  next other other' =>
    rw [ipPhrase, if_neg other, if_neg other']
    simp only [Phrase.say, String.append_assoc]

/-- The wording for references says a phrase. -/
theorem say_uriPhrase : uriWording finding = (uriPhrase finding).say finding := by
  unfold uriWording
  split
  next scheme =>
    rw [uriPhrase, if_pos scheme]
    simp only [Phrase.say, String.append_assoc]
  next relative =>
    have other : reason? finding ≠ some "scheme-not-allowed" := relative ▸ by decide
    rw [uriPhrase, if_neg other, if_pos relative]
    exact String.append_empty.symm
  next other other' =>
    rw [uriPhrase, if_neg other, if_neg other']
    exact String.append_empty.symm

/-- **English in phrases.**  English says of a finding what the chosen phrase says of it. -/
theorem format?_english (finding : Finding) :
    english.format? finding = (englishPhrase? finding).map fun phrase => phrase.say finding := by
  have distinct : (englishTemplates.map Prod.fst).Nodup := by decide +kernel
  have templated : ((Members.putAll [] (englishTemplates.map fun (rule, template) =>
      (rule, Message.render template))).get? finding.rule) =
        (Members.get? englishTemplates finding.rule).map Message.render := by
    rw [Members.get?_putAll, Members.get?_map Message.render englishTemplates]
    · exact Option.or_none
    · rw [Members.names, List.map_map]
      exact distinct
  unfold format? english englishPhrase?
  simp only [addWording, Members.get?_put, wordings_foldl_addTemplate, empty]
  split
  · rw [Option.map_some, say_uriPhrase, Option.map_some]
  · split
    · rw [Option.map_some, say_ipPhrase, Option.map_some]
    · split
      · rw [Option.map_some, say_validPhrase, Option.map_some]
      · split
        · rw [Option.map_some, say_customPhrase, Option.map_some]
        · rw [templated, Option.map_map, Option.map_map]
          refine congrArg (Option.map · _) (funext fun template => ?_)
          exact (String.append_empty).symm

/-! ## What templates ask for -/

/-- The rule has a template. -/
def templated (rule : String) : Bool :=
  Members.has englishTemplates rule

/-- A rule with a template has no other way to be put into words. -/
theorem not_templated : ∀ rule ∈ ["string.uri", "string.ip", "valid", "custom"], templated rule = false := by
  decide +kernel

/-- The particulars that templates ask for, where they ask for any. -/
def particularsAsked : List (String × List String) := [
  ("invalid", ["value"]), ("object.unknown", ["key"]), ("array.ordered", ["expected"]), ("array.min", ["min"]),
  ("array.max", ["max"]), ("array.length", ["expected"]), ("array.unique", ["violator", "violator"]),
  ("string.min", ["min"]), ("string.max", ["max"]), ("string.length", ["expected"]), ("string.regex", ["regEx"]),
  ("func.arity", ["expected"]), ("func.minArity", ["min"]), ("func.maxArity", ["max"]), ("number.min", ["min"]),
  ("number.max", ["max"]), ("number.greater", ["greater"]), ("number.less", ["less"]),
  ("number.multiple", ["multiple"]), ("number.precision", ["limit"])]

/-- The particulars that the template of a rule asks for. -/
def asked (rule : String) : List String :=
  (Members.get? particularsAsked rule).getD []

/-- Template by template, this is what they ask for. -/
theorem asks_englishTemplates : ∀ entry ∈ englishTemplates, Message.asks entry.2 = asked entry.1 := by
  simp only [englishTemplates, List.forall_mem_cons]
  repeat' apply And.intro
  all_goals first | exact Message.asks_of_spelled rfl rfl | exact fun _ none => by cases none

/-- A listed template asks for what its rule is known to give. -/
theorem asks_of_get? {rule template : String} (listed : Members.get? englishTemplates rule = some template) :
    Message.asks template = asked rule :=
  asks_englishTemplates (rule, template) (Members.mem_of_get? listed)

/-- A rule with a template is put into words by it. -/
theorem englishPhrase?_of_templated (templated : templated finding.rule = true) :
    ∃ phrase, englishPhrase? finding = some phrase ∧
      (Message.Resolves finding phrase.template ↔
        ∀ name ∈ asked finding.rule, finding.context.has name = true) := by
  have other : ∀ rule ∈ ["string.uri", "string.ip", "valid", "custom"], finding.rule ≠ rule := by
    rintro rule special rfl
    rw [not_templated _ special] at templated
    cases templated
  simp only [List.forall_mem_cons] at other
  obtain ⟨uri, ip, valid, custom, -⟩ := other
  obtain ⟨template, found⟩ := Option.isSome_iff_exists.mp templated
  refine ⟨⟨template, ""⟩, ?_, ?_⟩
  · rw [englishPhrase?, if_neg uri, if_neg ip, if_neg valid, if_neg custom, found, Option.map_some]
  · rw [Message.resolves_iff, asks_of_get? found]

end Language

/-- The finding is about a length and does not tell the limit. -/
def Finding.Uncounted (finding : Finding) : Prop :=
  ∃ (measure : Measure) (bound : Bound), finding.rule = bound.ruleName measure ∧
    finding.context.has bound.name = false

/-- English has a phrase for the finding, and only in what could not be counted do its placeholders lack values. -/
def Finding.HasPhrase (finding : Finding) : Prop :=
  ∃ phrase, Language.englishPhrase? finding = some phrase ∧
    (Message.Resolves finding phrase.template ∨ finding.Uncounted)

open Vetting.Language

variable {finding : Finding} {phrase : Phrase}

/-- Every bound of every measure has a template. -/
theorem templated_ruleName (measure : Measure) (bound : Bound) : templated (bound.ruleName measure) = true := by
  cases measure <;> cases bound <;> decide

/-- The template for a length asks for the limit, and for nothing else. -/
theorem asked_ruleName (measure : Measure) (bound : Bound) : asked (bound.ruleName measure) = [bound.name] := by
  cases measure <;> cases bound <;> rfl

/-- Without the limit, what English says of a length lacks a word. -/
theorem not_resolves_of_uncounted (chosen : englishPhrase? finding = some phrase) (uncounted : finding.Uncounted) :
    ¬ Message.Resolves finding phrase.template := by
  obtain ⟨measure, bound, named, missing⟩ := uncounted
  have known : templated finding.rule = true := named ▸ templated_ruleName measure bound
  obtain ⟨other, same, resolves⟩ := englishPhrase?_of_templated known
  obtain rfl := Option.some.inj (chosen.symm.trans same)
  rw [resolves, named, asked_ruleName]
  intro known
  rw [known bound.name List.mem_cons_self] at missing
  cases missing

/-! ## Objections in English -/

/-- Nothing but the type of a value is amiss, or its form: there is nothing more to tell. -/
theorem asked_check (test : Check) : templated test.name = true ∧ asked test.name = [] := by
  cases test <;> exact ⟨by decide, rfl⟩

/-- Every comparison has a template that asks for its limit. -/
theorem asked_comparison (comparison : Comparison) :
    templated comparison.ruleName = true ∧ asked comparison.ruleName = [comparison.name] := by
  cases comparison <;> exact ⟨by decide, rfl⟩

/-- The phrase for addresses asks for nothing. -/
theorem asks_ipPhrase (finding : Finding) : Message.asks (ipPhrase finding).template = [] := by
  unfold ipPhrase
  split
  · exact Message.asks_of_spelled rfl rfl
  · split <;> exact Message.asks_of_spelled rfl rfl

/-- The phrase for references asks for nothing. -/
theorem asks_uriPhrase (finding : Finding) : Message.asks (uriPhrase finding).template = [] := by
  unfold uriPhrase
  split
  · exact Message.asks_of_spelled rfl rfl
  · split <;> exact Message.asks_of_spelled rfl rfl

/-- The phrase for valid values asks for the allowed ones at most. -/
theorem asks_validPhrase (finding : Finding) : Message.asks (validPhrase finding).template ⊆ ["allowed"] := by
  unfold validPhrase
  split
  · have nothing : Message.asks "\"{label}\" is not valid." = [] := Message.asks_of_spelled rfl rfl
    exact nothing ▸ List.nil_subset _
  · have listed : Message.asks "\"{label}\" is not valid and must be {allowed}." = ["allowed"] :=
      Message.asks_of_spelled rfl rfl
    exact listed ▸ List.Subset.refl _

section Objections

variable {rule : String} {particulars : Context} {called : Value}
  (told : finding.context = Members.putAll [("key", called)] particulars)

include told

/-- Particulars that come with an objection can be found in the finding. -/
theorem has_of_told {names : List String} (known : names ⊆ particulars.names) :
    ∀ name ∈ names, finding.context.has name = true :=
  fun _ needed => told ▸ Members.has_putAll_of_mem (known needed) _

/-- A chosen phrase will do if its template asks for particulars that come with the objection. -/
theorem hasPhrase_of_chosen (chosen : englishPhrase? finding = some phrase)
    (known : Message.asks phrase.template ⊆ particulars.names) : finding.HasPhrase :=
  ⟨phrase, chosen, .inl (Message.resolves_iff.mpr (has_of_told told known))⟩

/-- So will the template of a rule. -/
theorem hasPhrase_of_asked {names : List String} (named : finding.rule = rule) (templated : templated rule = true)
    (needs : asked rule = names) (known : names ⊆ particulars.names) : finding.HasPhrase := by
  subst named
  obtain ⟨phrase, chosen, resolves⟩ := englishPhrase?_of_templated templated
  exact ⟨phrase, chosen, .inl (resolves.mpr (needs ▸ has_of_told told known))⟩

/-- **English has words for every objection.**  All placeholders of its phrase have values, unless the objection is to
a length that cannot be counted. -/
theorem Objection.hasPhrase (objection : Objection rule particulars) (named : finding.rule = rule) :
    finding.HasPhrase := by
  have spoken : ∀ {names : List String}, templated rule = true → asked rule = names → names ⊆ particulars.names →
      finding.HasPhrase := hasPhrase_of_asked told named
  cases objection with
  | check test => exact spoken (asked_check test).1 (asked_check test).2 (List.nil_subset _)
  | unlisted allowed =>
      have chosen : englishPhrase? finding = some (validPhrase finding) := by
        rw [englishPhrase?, named]
        rfl
      exact hasPhrase_of_chosen told chosen (asks_validPhrase finding)
  | address reason allowed =>
      have chosen : englishPhrase? finding = some (ipPhrase finding) := by
        rw [englishPhrase?, named]
        rfl
      exact hasPhrase_of_chosen told chosen (asks_ipPhrase finding ▸ List.nil_subset _)
  | reference reason allowed =>
      have chosen : englishPhrase? finding = some (uriPhrase finding) := by
        rw [englishPhrase?, named]
        rfl
      exact hasPhrase_of_chosen told chosen (asks_uriPhrase finding ▸ List.nil_subset _)
  | uncounted measure bound =>
      obtain ⟨phrase, chosen, -⟩ := englishPhrase?_of_templated (named ▸ templated_ruleName measure bound)
      refine ⟨phrase, chosen, .inr ⟨measure, bound, named, ?_⟩⟩
      rw [told]
      cases bound <;> rfl
  | length measure bound count limit =>
      exact spoken (templated_ruleName measure bound) (asked_ruleName measure bound)
        (List.subset_cons_self measure.name [bound.name])
  | number comparison limit =>
      exact spoken (asked_comparison comparison).1 (asked_comparison comparison).2 (List.Subset.refl [comparison.name])
  | alternatives | keys | pattern | array =>
      exact spoken (by decide) (rfl : _ = []) (List.nil_subset _)
  | listed value =>
      exact spoken (by decide) (rfl : _ = ["value"]) (List.Subset.refl _)
  | stranger name =>
      exact spoken (by decide) (rfl : _ = ["key"]) (List.Subset.refl _)
  | ordered count expected =>
      exact spoken (by decide) (rfl : _ = ["expected"]) (List.subset_cons_self _ _)
  | duplicate item place =>
      exact spoken (by decide) (rfl : _ = ["violator", "violator"]) (by simp [Members.names])
  | multiple base =>
      exact spoken (by decide) (rfl : _ = ["multiple"]) (List.Subset.refl _)
  | precision places limit =>
      exact spoken (by decide) (rfl : _ = ["limit"]) (List.subset_cons_self _ _)
  | regex source =>
      exact spoken (by decide) (rfl : _ = ["regEx"]) (List.Subset.refl _)

/-- A predicate's own words are all that English says of what it has refused. -/
theorem englishPhrase?_of_refusal {words : String} (named : finding.rule = "custom")
    (said : particulars = [("message", .string words)]) : englishPhrase? finding = some ⟨"", words⟩ := by
  have message : Message.placeholder? finding "message" = finding.context.get? "message" := rfl
  rw [englishPhrase?, named, customPhrase, message, told, said]
  rfl

end Objections

end Vetting
