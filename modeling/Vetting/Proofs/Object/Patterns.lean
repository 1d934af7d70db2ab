import Vetting.Proofs.Object.Strangers

/-!
# Patterns beside key maps

A pattern hears of a key map wherever it is called for, before the pattern or behind it
(`Instance.patternKnows_assemble`), and then leaves unknown members to the key map.  Without a key map every pattern
bars the members that it does not name itself, whatever other patterns name.  So a member that an object is turned down
for is named by no key map and no pattern where there is a key map, and otherwise is not named by one of the patterns
(`Schema.unnamed_of_failed`).
-/

namespace Vetting

variable {σ : Type} {setting : Setting} {path : Path} {value : Value} {name : String}

/-! ## Patterns of an assembly -/

namespace Instance

/-- If it is a pattern, it has the names of its call, and knows whether there is a key map. -/
def PatternKnows (known : Bool) (entry : Instance σ) : Prop :=
  ∀ rule, entry.rule = .pattern rule → rule.hasKeys = known ∧
    ∃ names part, rule.match? = some (names, part) ∧ entry.arguments.regex = .ok names

variable {known : Bool} {entry : Instance σ}

/-- A change leaves what a pattern knows of key maps. -/
theorem PatternKnows.amend {next : Instance σ} {change : Change σ} (knows : entry.PatternKnows known)
    (made : entry.amend change.amendment = some next) : next.PatternKnows known := by
  obtain ⟨own, arguments⟩ := entry
  obtain ⟨amended, same, rfl⟩ := Option.map_eq_some_iff.mp made
  rintro rule rfl
  have sort : Rule.unwired (.pattern rule) = own.unwired := change.keeps same
  cases own with
  | pattern old =>
      cases change with
      | patternUnknown allow =>
          obtain rfl := Rule.pattern.inj (Option.some.inj same)
          exact knows old rfl
      | _ => cases same
  | _ => cases sort

variable [Identified σ] {deed : Deed σ} {before after : List (Instance σ)}

/-- A pattern knows, once it is wired, whether there is a key map. -/
theorem patternKnows_wiredBy (own : entry.IsStandard) (found : entry.deed = .ok deed)
    (keys : Deed.knowsKeys ⟨before, entry :: after⟩ = known) :
    (entry.wiredBy deed ⟨before, after⟩).PatternKnows known := by
  intro rule wired
  have sort : (Rule.pattern rule).unwired = entry.rule.unwired :=
    wired ▸ (Prod.mk.inj (call_wiredBy own found ⟨before, after⟩)).1
  have other : ¬ entry.IsKeys := by
    rw [IsKeys, ← sort]
    intro same
    cases same
  obtain ⟨own', arguments⟩ := entry
  cases own' with
  | pattern old =>
      obtain ⟨expression, read, next⟩ := exists_of_bind_eq_ok found
      obtain ⟨part, -, rfl⟩ := exists_of_read_eq_ok next
      obtain rfl := Rule.pattern.inj wired
      exact ⟨(knowsKeys_cons other).symm.trans keys, expression, part, rfl, read⟩
  | _ => cases sort

/-- A round leaves every pattern knowing whether there is a key map. -/
theorem patternKnows_afterRound (standard : ∀ other ∈ before ++ entry :: after, other.IsStandard)
    (found : entry.deed = .ok deed) (keys : Deed.knowsKeys ⟨before, entry :: after⟩ = known)
    (earlier : ∀ other ∈ before, other.PatternKnows known) :
    ∀ other ∈ (entry.afterRound deed before after).before, other.PatternKnows known := by
  intro other member
  rcases origin_of_mem_afterRound member with sibling | ⟨rfl, -⟩
  · obtain ⟨origin, inside, becomes⟩ := exists_of_mem_right (deed.becomes_onBefore before) sibling
    exact becomes.keeps (PatternKnows known) (fun _ _ _ _ knows made => knows.amend made) (earlier origin inside)
  · exact patternKnows_wiredBy (standard entry (List.mem_append_right _ List.mem_cons_self)) found keys

/-- A pattern of an assembly has heard of a key map exactly if one is called for, before the pattern or behind it. -/
theorem patternKnows_assemble {entries kept : List (Instance σ)} (standard : ∀ entry ∈ entries, entry.IsStandard)
    (assembled : assemble entries = .ok kept) :
    ∀ entry ∈ kept, entry.PatternKnows (Clauses.haveKeys (entries.filterMap clause?)) := by
  have keys := haveKeys_iff_of_assemble standard assembled
  rw [assemble, Wiring.assemble_eq] at assembled
  obtain ⟨state, ended, rfl⟩ := Rule.exists_of_map_eq_ok assembled
  have perm := wiring.ordered_perm entries
  have start : Deed.knowsKeys ⟨[], wiring.ordered entries⟩ = Clauses.haveKeys (entries.filterMap clause?) := by
    rw [Bool.eq_iff_iff, knowsKeys_iff, keys]
    simp only [List.nil_append, perm.mem_iff]
  refine (rounds_keep (fun state => (∀ other ∈ state.before, other.PatternKnows _) ∧ Deed.knowsKeys state = _)
    (fun standard found now => ?_) (fun entry member => standard entry (perm.mem_iff.mp member))
    ended ⟨List.forall_mem_nil _, start⟩).1
  exact ⟨patternKnows_afterRound standard found now.2 now.1, (knowsKeys_afterRound found standard).trans now.2⟩

end Instance

/-! ## Barred members -/

/-- A report that is shown tells of a member only if it did before. -/
theorem Report.TellsOf.of_shown {report : Report} (tells : (setting.shown report).TellsOf path name) :
    report.TellsOf path name := by
  obtain ⟨finding, found, own, place, called⟩ := tells
  obtain ⟨origin, listed, sameRule, samePlace, sameContext⟩ := Setting.exists_origin_of_shown found
  exact ⟨origin, listed, sameRule ▸ own, samePlace ▸ place, sameContext ▸ called⟩

namespace Rule

/-- An object is turned down by the rule if it has a member of that name. -/
def Bars (name : String) : Rule σ → Prop
  | keys rule => rule.knows name = false
  | pattern rule => rule.hasKeys = false ∧
    ∃ names part, rule.match? = some (names, part) ∧ names.occursIn name = false
  | _ => False

/-- The rules about objects tell only of members that they bar. -/
theorem bars_of_tellsOf {translate : σ → Checked} (below : ∀ part, (translate part).FindsBelow) {rule : Rule σ}
    (sort : rule.unwired ∈ .optional false :: Ruleset.objectRules)
    (tells : ((rule.map translate).judge setting path value).TellsOf path name) : rule.Bars name := by
  cases asks : rule.inquiry? value with
  | some inquiry =>
      rw [judge_of_inquiry asks] at tells
      exact absurd tells (inquiry.not_tellsOf_judge below)
  | none =>
      cases rule with
      | keys rule =>
          obtain ⟨members, -, stranger⟩ := Option.bind_eq_some_iff.mp ((KeyRule.tellsOf_judge below).mp tells)
          rw [KeyRule.stranger?] at stranger
          split at stranger
          · cases stranger
          · show rule.knows name = false
            simpa using List.find?_some stranger
      | pattern rule =>
          rw [PatternRule.judge_of_no_inquiry asks] at tells
          cases matched : rule.match? with
          | none =>
              rw [matched] at tells
              exact absurd tells (Judging.not_tellsOf_say _)
          | some named =>
              rw [matched] at tells
              obtain ⟨members, -, stranger⟩ := Option.bind_eq_some_iff.mp
                ((Judging.tellsOf_turnDown (by decide)).mp tells)
              rw [PatternRule.stranger?] at stranger
              split at stranger
              · cases stranger
              next strict =>
                refine ⟨?_, named.1, named.2, matched, by simpa using List.find?_some stranger⟩
                simp only [Bool.or_eq_true, not_or, Bool.not_eq_true] at strict
                exact strict.1
      | check test =>
          have own : test.name ≠ "object.unknown" := by cases test <;> decide
          simp only [map, judge, Judging.ofBool] at tells
          split at tells
          · exact absurd tells (Judging.not_tellsOf_say _)
          · exact absurd (Judging.tellsOf_fail.mp tells) (Report.not_tellsOf_ofRule own _)
      | optional _ | allowUnknown => exact absurd tells (Judging.not_tellsOf_say _)
      | _ => simp [Ruleset.objectRules, unwired] at sort

end Rule

/-! ## Schemas -/

namespace Schema

variable {schema : Schema} {kept : List (Instance Schema)}

/-- A rule of the schema that bars a member has a clause for that. -/
theorem unnamed_of_bars (standard : schema.CallsStandard) (compiles : schema.rules = .ok kept) {entry : Instance Schema}
    (listed : entry ∈ kept) (bars : entry.rule.Bars name) :
    schema.clauses.haveKeys = true ∧ ¬ schema.clauses.Knows name ∨
      schema.clauses.haveKeys = false ∧ ∃ names, .pattern names ∈ schema.clauses ∧ names.occursIn name = false := by
  obtain ⟨-, -, assembled⟩ := exists_of_bind_eq_ok compiles
  have fresh := Ruleset.fresh_of_mem_instances standard
  obtain ⟨rule, arguments⟩ := entry
  cases rule with
  | keys own =>
      have among : own ∈ Instance.keyRules kept := Instance.mem_keyRules.mpr ⟨_, listed, rfl⟩
      rcases Instance.keyRules_assemble fresh assembled with ⟨-, none⟩ | ⟨known, rule, only, describes⟩
      · rw [none] at among
        cases among
      · rw [only] at among
        obtain rfl := List.mem_singleton.mp among
        refine .inl ⟨known, fun knows => ?_⟩
        cases (describes.knows_iff.mpr knows).symm.trans bars
  | pattern own =>
      obtain ⟨strict, names, part, matched, unnamed⟩ := bars
      obtain ⟨known, names', part', matched', read⟩ :=
        Instance.patternKnows_assemble (fun entry member => (fresh entry member).1) assembled _ listed own rfl
      obtain ⟨rfl, -⟩ := Prod.mk.inj (Option.some.inj (matched.symm.trans matched'))
      refine .inr ⟨known.symm.trans strict, names, ?_, unnamed⟩
      obtain ⟨origin, called, same⟩ := Instance.exists_origin_of_assemble assembled _ listed
      refine List.mem_filterMap.mpr ⟨origin, called, ?_⟩
      rw [Instance.clause?_of_call same, Instance.clause?, Rule.clause?, read]
      rfl
  | _ => exact bars.elim

/-- **Unknown members.**  Where only rules about objects are called, a member that an object is turned down for is
named by no key map.  If there is a key map, no pattern names the member either, and otherwise there is a pattern that
does not name it. -/
theorem unnamed_of_failed (only : schema.CallsOnly (· ∈ .optional false :: Ruleset.objectRules)) {outcome : Outcome}
    (ended : (schema.vet setting path value).answer = .ok outcome) {report : Report}
    (failed : outcome.report = some report) (tells : report.TellsOf path name) :
    (∀ entries, .keys entries ∈ schema.clauses → name ∉ Members.names entries) ∧
      (schema.clauses.haveKeys = true → ∀ names, .pattern names ∈ schema.clauses → names.occursIn name = false) ∧
      (schema.clauses.haveKeys = false → ∃ names, .pattern names ∈ schema.clauses ∧ names.occursIn name = false) := by
  have sorts : ∀ blueprint ∈ .optional false :: Ruleset.objectRules, blueprint ∈ Ruleset.standardRules := by
    simp [Ruleset.standardRules, Ruleset.generalRules, Ruleset.objectRules]
  have here : schema.CallsStandard := fun call made blueprint bound => sorts blueprint (only call made blueprint bound)
  obtain ⟨kept, compiles⟩ := exists_rules_of_vet ended
  rw [vet_eq_of_rules compiles] at ended
  obtain ⟨rule, member, about, made, turnedDown, rfl⟩ := exists_judging_of_vetWith ended failed
  obtain ⟨entry, listed, rfl⟩ := List.mem_map.mp member
  have bars : entry.rule.Bars name := Rule.bars_of_tellsOf (findsBelow_checked setting)
    (allowed_of_rules only sorts compiles entry listed) ⟨made, turnedDown, tells.of_shown⟩
  rcases unnamed_of_bars here compiles listed bars with ⟨known, stranger⟩ | ⟨nothing, names, clause, unnamed⟩
  · refine ⟨fun entries clause named => stranger (.key clause named), fun _ names clause => ?_, fun nothing => ?_⟩
    · exact Bool.eq_false_iff.mpr fun named => stranger (.pattern clause named)
    · cases known.symm.trans nothing
  · refine ⟨fun entries clause _ => ?_, fun known => ?_, fun _ => ⟨names, clause, unnamed⟩⟩
    · cases nothing.symm.trans (Clauses.haveKeys_iff.mpr ⟨entries, clause⟩)
    · cases nothing.symm.trans known

/-- The mixed calls are about objects, and the first of the last two members is named by none of them. -/
theorem unnamed_of_failed_ofMixedKeys :
    (∀ entries, .keys entries ∈ ofMixedKeys.clauses → "d" ∉ Members.names entries) ∧
      ∀ names, .pattern names ∈ ofMixedKeys.clauses → names.occursIn "d" = false := by
  have only : ofMixedKeys.CallsOnly (· ∈ .optional false :: Ruleset.objectRules) :=
    callsOnly_ofCalls (by simp [Ruleset.objectRules])
  have seen : (ofMixedKeys.vet ⟨true, false, none, ⟨0, 0⟩⟩ []
      (.object [("b", .string "x"), ("d", .null), ("c", .null)])).answer.toOption.bind
        (fun outcome => outcome.report.map Report.strangers) = some [([], "d")] := by
    decide +kernel
  obtain ⟨outcome, report, ended, failed, strangers⟩ := exists_report_of_seen seen
  have tells : report.TellsOf [] "d" := Report.mem_strangers.mp (strangers ▸ List.mem_singleton.mpr rfl)
  obtain ⟨undeclared, unmatched, -⟩ := unnamed_of_failed only ended failed tells
  exact ⟨undeclared, unmatched rfl⟩

/-- Two patterns and no key map. -/
def ofTwoPatterns : Schema :=
  .ofCalls 0 [(.check .object, []),
    (.pattern ⟨none, false, false⟩, [.regex (beginningWith 'a'), .schema (.ofCalls 1 [])]),
    (.pattern ⟨none, false, false⟩, [.regex (beginningWith 'b'), .schema (.ofCalls 2 [])])]

/-- The first pattern turns an object down for a member that the second one names. -/
theorem named_of_failed_ofTwoPatterns :
    ofTwoPatterns.CallsOnly (· ∈ .optional false :: Ruleset.objectRules) ∧
      ∃ outcome report, (ofTwoPatterns.vet ⟨true, false, none, ⟨0, 0⟩⟩ [] (.object [("b", .number 1)])).answer =
          .ok outcome ∧ outcome.report = some report ∧ report.TellsOf [] "b" ∧
        ∃ names, .pattern names ∈ ofTwoPatterns.clauses ∧ names.occursIn "b" = true := by
  refine ⟨callsOnly_ofCalls (by simp [Ruleset.objectRules]), ?_⟩
  have seen : (ofTwoPatterns.vet ⟨true, false, none, ⟨0, 0⟩⟩ [] (.object [("b", .number 1)])).answer.toOption.bind
      (fun outcome => outcome.report.map Report.strangers) = some [([], "b")] := by
    decide +kernel
  obtain ⟨outcome, report, ended, failed, strangers⟩ := exists_report_of_seen seen
  refine ⟨outcome, report, ended, failed, Report.mem_strangers.mp (strangers ▸ List.mem_singleton.mpr rfl), ?_⟩
  exact ⟨_, Clauses.mem_expressions.mp (List.mem_cons_of_mem _ List.mem_cons_self), by decide +kernel⟩

end Schema

end Vetting
