import Vetting.Proofs.Message.English
import Vetting.Proofs.Validation.Location
import Vetting.Proofs.Validation.Parallel

/-!
# Failures in English

Whoever validates in English is told in words what is wrong, at whatever depth.  The words have values in place of
all placeholders of their template, but for those about a length that could not be counted: in these the limit is
missing, and its placeholder can be read instead (`Schema.words_in_english`).
-/

namespace Vetting

open Vetting.Language

variable {setting : Setting} {path : Path} {value : Value} {finding : Finding}

/-! ## Findings -/

/-- The phrase has been chosen, and the words are said with it.  Unless a length could not be counted, all placeholders
of its template have values, and these stand in place of them; else one of the placeholders is left as it is. -/
structure Finding.InEnglish (finding : Finding) (phrase : Phrase) (words : String) : Prop where
  chosen : englishPhrase? finding = some phrase
  message_eq : finding.message = some words
  spells : ¬ finding.Uncounted → Message.Resolves finding phrase.template ∧ phrase.Spells finding words
  leaks : finding.Uncounted → phrase.Leaks finding words

/-- What English says does not depend on what has been said before. -/
theorem format?_withMessage (finding : Finding) (words : Option String) :
    english.format? { finding with message := words } = english.format? finding := by
  have chosen : englishPhrase? { finding with message := words } = englishPhrase? finding := rfl
  simp only [format?_english, chosen, Phrase.say, Message.render_withMessage]

/-- Said in English, a finding has the words of the phrase. -/
theorem Finding.HasPhrase.inEnglish (spoken : finding.HasPhrase) (said : finding.message = english.format? finding) :
    ∃ phrase words, finding.InEnglish phrase words := by
  obtain ⟨phrase, chosen, resolves⟩ := spoken
  refine ⟨phrase, phrase.say finding, chosen, ?_, fun counted => ?_, fun uncounted => ?_⟩
  · rw [said, format?_english, chosen, Option.map_some]
  · have all := resolves.resolve_right counted
    exact ⟨all, Phrase.spells_say all⟩
  · exact Phrase.leaks_say (not_resolves_of_uncounted chosen uncounted)

/-! ## Reports -/

/-- English has phrases for all findings, and where words have been found already, they are English ones. -/
def Report.HasPhrases (report : Report) : Prop :=
  ∀ finding ∈ report.findings, finding.HasPhrase ∧
    (finding.message = none ∨ finding.message = english.format? finding)

/-- All findings have been put into English words. -/
def Report.InEnglish (report : Report) : Prop :=
  ∀ finding ∈ report.findings, finding.HasPhrase ∧ finding.message = english.format? finding

namespace Report

/-- English has a phrase for whatever a standard rule objects to. -/
theorem hasPhrases_ofRule {rule : String} {particulars : Context} (objection : Objection rule particulars)
    (path : Path) : (ofRule rule path particulars).HasPhrases := by
  intro finding found
  obtain rfl := List.mem_singleton.mp found
  exact ⟨objection.hasPhrase rfl rfl, .inl rfl⟩

/-- What a predicate has said is what English says of it. -/
theorem hasPhrases_ofRefusal (words : String) (path : Path) : (ofRefusal words path).HasPhrases := by
  intro finding found
  have refused : finding.rule = "custom" ∧
      finding.context = Members.putAll [("key", .string path.label)] [("message", .string words)] ∧
      finding.message = some words := by
    obtain rfl := List.mem_singleton.mp found
    exact ⟨rfl, rfl, rfl⟩
  obtain ⟨named, told, said⟩ := refused
  have phrase := englishPhrase?_of_refusal told named rfl
  refine ⟨⟨_, phrase, .inl fun name member => by cases member⟩, .inr ?_⟩
  rw [said, format?_english, phrase]
  exact congrArg some String.empty_append.symm

/-- English words are found for whatever has none. -/
theorem HasPhrases.attach {report : Report} (phrases : report.HasPhrases) :
    (report.attach english.format?).InEnglish := by
  intro finding found
  obtain ⟨original, listed, rfl⟩ := List.mem_map.mp found
  obtain ⟨phrase, said⟩ := phrases original listed
  cases message : original.message with
  | some words =>
      rw [message] at said
      exact ⟨phrase, message.trans (said.resolve_left (Option.some_ne_none words))⟩
  | none => exact ⟨phrase, (format?_withMessage original _).symm⟩

/-- A report that English has phrases for is shown in English. -/
theorem HasPhrases.shown {report : Report} (phrases : report.HasPhrases) (speaks : setting.language = some english) :
    (setting.shown report).InEnglish := by
  unfold Setting.shown
  rw [speaks]
  cases setting.traced <;> exact phrases.attach

end Report

/-! ## Schemas -/

namespace Schema

/-- **Failures in English.**  Whatever standard rules find, at whatever depth, is put into the words of the phrase that
English chooses for it.  The words have values in place of all placeholders, unless a length could not be counted:
then, and only then, a placeholder is left in them. -/
theorem words_in_english {schema : Schema} (standard : schema.Everywhere CallsStandard)
    (speaks : setting.language = some english) {outcome : Outcome}
    (ended : (schema.vet setting path value).answer = .ok outcome ∨
      (schema.vet setting path value).answerAtOnce? = some (.ok outcome))
    {report : Report} (failed : outcome.report = some report) :
    ∀ finding ∈ report.findings, ∃ phrase words, finding.InEnglish phrase words := by
  have answered : (schema.vet setting path value).answer = .ok outcome := by
    rcases ended with ended | atOnce
    · exact ended
    · exact Run.answer_of_answerAtOnce? atOnce
  have english : report.InEnglish :=
    report_of_checked Report.HasPhrases Report.InEnglish Report.hasPhrases_ofRule Report.hasPhrases_ofRefusal
      (fun report phrases => phrases.shown speaks)
      (fun report english finding found => ⟨(english finding found).1, .inr (english finding found).2⟩)
      standard answered failed
  intro finding found
  obtain ⟨phrase, said⟩ := english finding found
  exact phrase.inEnglish said

/-- The second text of the list is no text, and this is what English says. -/
theorem words_in_english_ofMemberOfTexts :
    ∃ outcome report,
      (ofMemberOfTexts.vet ⟨false, false, some english, ⟨0, 0⟩⟩ []
        (.object [("a", .array [.string "x", .null])])).answer = .ok outcome ∧
      outcome.report = some report ∧
      report.findings.map Finding.message = [some "\"[1]\" must be a string."] ∧
      ∀ finding ∈ report.findings, ∃ phrase words, finding.InEnglish phrase words := by
  have found : (ofMemberOfTexts.vet ⟨false, false, some english, ⟨0, 0⟩⟩ []
      (.object [("a", .array [.string "x", .null])])).answer.toOption.bind
        (fun outcome => outcome.report.map fun report => report.findings.map Finding.message) =
      some [some "\"[1]\" must be a string."] := by
    decide +kernel
  obtain ⟨outcome, report, answered, failed, said⟩ := exists_report_of_seen found
  exact ⟨outcome, report, answered, failed, said,
    words_in_english callsStandard_ofMemberOfTexts rfl (.inl answered) failed⟩

/-- A length comes before the type: the first of two equal rules is left out. -/
def ofLengthOfText : Schema :=
  .ofCalls 0 [(.check .string, []), (.length .characters .min 0, [.value (.number 3)]), (.check .string, [])]

/-- The schema has standard calls only. -/
theorem callsStandard_ofLengthOfText : ofLengthOfText.Everywhere CallsStandard := by
  refine everywhere_ofCalls (callsOnly_ofCalls ?_) ?_
  · simp [Ruleset.standardRules, Ruleset.stringRules]
  · simp [Argument.parts]

/-- So placeholders of English templates do not always have values. -/
theorem not_placeholders_resolve :
    ¬ ∀ (schema : Schema) (setting : Setting) (path : Path) (value : Value) (outcome : Outcome) (report : Report),
      schema.Everywhere CallsStandard → setting.language = some english →
        (schema.vet setting path value).answer = .ok outcome → outcome.report = some report →
          ∀ finding ∈ report.findings, finding.message.isSome = true ∧
            ∃ phrase, englishPhrase? finding = some phrase ∧ Message.Resolves finding phrase.template := by
  intro resolve
  have found : (ofLengthOfText.vet ⟨false, false, some english, ⟨0, 0⟩⟩ [] .null).answer.toOption.bind
      (fun outcome => outcome.report.map fun report => report.findings.map fun finding =>
        (finding.rule, finding.context.has "min")) = some [("string.min", false)] := by
    decide +kernel
  obtain ⟨outcome, report, answered, failed, told⟩ := exists_report_of_seen found
  obtain ⟨finding, only, same⟩ := List.map_eq_singleton_iff.mp told
  obtain ⟨named, missing⟩ := Prod.ext_iff.mp same
  obtain ⟨-, phrase, chosen, resolves⟩ := resolve ofLengthOfText _ [] .null outcome report
    callsStandard_ofLengthOfText rfl answered failed finding (only ▸ List.mem_singleton_self finding)
  exact not_resolves_of_uncounted chosen ⟨.characters, .min, named, missing⟩ resolves

end Schema

end Vetting
