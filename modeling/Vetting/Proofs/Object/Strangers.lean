import Vetting.Proofs.Object.KeyMap
import Vetting.Proofs.Validation.Sources

/-!
# Members without a place

A key map turns an object down for its first member that it does not know, and this is all that it says about unknown
members of the object: what the schemas inside it find lies further in (`KeyRule.tellsOf_judge`).  The one key map of a
schema is described by the clauses of the calls, so these tell which members it takes to be strangers
(`Schema.keyRules_rules`).
-/

namespace Vetting

variable {σ : Type} {setting : Setting} {path : Path} {value : Value} {name : String}

/-! ## Reports of strangers -/

/-- The object at the path has been turned down for a member of that name. -/
def Report.TellsOf (path : Path) (name : String) (report : Report) : Prop :=
  ∃ finding ∈ report.findings, finding.rule = "object.unknown" ∧ finding.path = path ∧
    finding.context.get? "key" = some (.string name)

namespace Report

/-- The members that the report is about because they have no place, each with the place of its object. -/
def strangers (report : Report) : List (Path × String) :=
  report.findings.filterMap fun finding =>
    if finding.rule = "object.unknown" then
      ((finding.context.get? "key").bind Value.asString?).map fun name => (finding.path, name)
    else none

/-- The strangers of a report are those that it tells of. -/
theorem mem_strangers {report : Report} : (path, name) ∈ report.strangers ↔ report.TellsOf path name := by
  rw [strangers, List.mem_filterMap]
  constructor
  · rintro ⟨finding, found, seen⟩
    split at seen
    next own =>
      obtain ⟨called, read, same⟩ := Option.map_eq_some_iff.mp seen
      obtain ⟨rfl, rfl⟩ := Prod.mk.inj same
      obtain ⟨called', there, text⟩ := Option.bind_eq_some_iff.mp read
      exact ⟨finding, found, own, rfl, there.trans (congrArg some (Value.asString?_eq_some_iff.mp text))⟩
    · cases seen
  · rintro ⟨finding, found, own, rfl, called⟩
    exact ⟨finding, found, by rw [if_pos own, called]; rfl⟩

/-- A report of a stranger tells of that one. -/
theorem tellsOf_ofStranger {other : String} :
    (ofRule "object.unknown" path [("key", .string other)]).TellsOf path name ↔ other = name := by
  constructor
  · rintro ⟨finding, found, -, -, called⟩
    obtain rfl := List.mem_singleton.mp found
    exact Value.string.inj (Option.some.inj called)
  · rintro rfl
    exact ⟨_, List.mem_singleton.mpr rfl, rfl, rfl, rfl⟩

/-- A report of any other rule tells of no stranger. -/
theorem not_tellsOf_ofRule {rule : String} (known : rule ≠ "object.unknown") (particulars : Context) :
    ¬ (ofRule rule path particulars).TellsOf path name := by
  rintro ⟨finding, found, own, -, -⟩
  obtain rfl := List.mem_singleton.mp found
  exact known own

/-- What is found further in is not about the object. -/
theorem Below.not_tellsOf {report : Report} {step : Step} (below : report.Below (path ++ [step])) :
    ¬ report.TellsOf path name := by
  rintro ⟨finding, found, -, rfl, -⟩
  have longer := (below finding found).length_le
  rw [List.length_append, List.length_singleton] at longer
  exact Nat.not_succ_le_self _ longer

end Report

/-- The judging turns the object at the path down for a member of that name. -/
def Judging.TellsOf (path : Path) (name : String) (judging : Judging) : Prop :=
  ∃ report, judging.answer = .error (.invalid report) ∧ report.TellsOf path name

namespace Judging

/-- Good verdicts tell of no stranger. -/
theorem not_tellsOf_say (verdict : Verdict) : ¬ (say verdict).TellsOf path name := by
  rintro ⟨report, failed, -⟩
  cases failed

/-- A failure tells of a stranger exactly if its report does. -/
theorem tellsOf_fail {rule : String} {particulars : Context} :
    (fail path rule particulars).TellsOf path name ↔ (Report.ofRule rule path particulars).TellsOf path name := by
  constructor
  · rintro ⟨report, failed, tells⟩
    obtain rfl := Fault.invalid.inj (Except.error.inj failed)
    exact tells
  · exact fun tells => ⟨_, rfl, tells⟩

/-- A container that turns a value down tells of a stranger or of the kind of the value. -/
theorem tellsOf_turnDown {rule : String} (known : rule ≠ "object.unknown") {stranger? : Option String} :
    (turnDown path rule stranger?).TellsOf path name ↔ stranger? = some name := by
  cases stranger? with
  | none =>
      rw [turnDown, tellsOf_fail]
      exact iff_of_false (Report.not_tellsOf_ofRule known []) (Option.some_ne_none name).symm
  | some other => rw [turnDown, judgeUnknown, tellsOf_fail, Report.tellsOf_ofStranger, Option.some.injEq]

end Judging

/-! ## Strangers of a rule -/

section Inside

variable {translate : σ → Checked} (below : ∀ part, (translate part).FindsBelow)

include below

/-- The schemas that a rule asks know nothing of the strangers beside them. -/
theorem Inquiry.not_tellsOf_judge (inquiry : Inquiry σ) :
    ¬ (inquiry.judge translate setting path).TellsOf path name := by
  rintro ⟨report, failed, tells⟩
  obtain ⟨step, further⟩ := inquiry.exists_step_of_judge below failed
  exact further.not_tellsOf tells

/-- A key map tells of its own stranger and of no other one. -/
theorem KeyRule.tellsOf_judge {rule : KeyRule σ} :
    (((Rule.keys rule).map translate).judge setting path value).TellsOf path name ↔
      value.asMembers?.bind rule.stranger? = some name := by
  cases asks : rule.inquiry? value with
  | none => rw [judge_of_no_inquiry asks, Judging.tellsOf_turnDown (by decide)]
  | some inquiry =>
      obtain ⟨members, rfl, none, -⟩ := eq_of_inquiry asks
      have asked : (Rule.keys rule).inquiry? (.object members) = some inquiry := asks
      rw [Rule.judge_of_inquiry asked]
      refine iff_of_false (inquiry.not_tellsOf_judge below) fun stranger => ?_
      cases none.symm.trans stranger

end Inside

/-! ## Strangers by the clauses -/

/-- A key map or a pattern names the member. -/
inductive Clauses.Knows (clauses : Clauses σ) (name : String) : Prop where
  | key {entries : Members σ} (clause : .keys entries ∈ clauses) (named : name ∈ entries.names)
  | pattern {expression : Regex} (clause : .pattern expression ∈ clauses) (named : expression.occursIn name = true)

namespace Clauses

variable {clauses : Clauses σ}

/-- The names of the entries are those of the clauses with keys. -/
theorem mem_names_entries : name ∈ Members.names clauses.entries ↔ ∃ entries, .keys entries ∈ clauses ∧
    name ∈ Members.names entries := by
  rw [Members.names, entries, List.map_flatMap, List.mem_flatMap]
  constructor
  · rintro ⟨clause, member, named⟩
    cases clause with
    | keys entries => exact ⟨entries, member, named⟩
    | pattern _ | unknown _ => cases named
  · rintro ⟨entries, member, named⟩
    exact ⟨_, member, named⟩

/-- The clauses know a name if it is one of their entries or has one of their expressions. -/
theorem knows_iff : clauses.Knows name ↔ name ∈ Members.names clauses.entries ∨
    ∃ expression ∈ clauses.expressions, expression.occursIn name = true := by
  rw [mem_names_entries]
  simp only [mem_expressions]
  constructor
  · rintro (⟨clause, named⟩ | ⟨clause, named⟩)
    · exact .inl ⟨_, clause, named⟩
    · exact .inr ⟨_, clause, named⟩
  · rintro (⟨entries, clause, named⟩ | ⟨expression, clause, named⟩)
    · exact .key clause named
    · exact .pattern clause named

end Clauses

namespace KeyRule.Describes

variable {clauses : Clauses σ} {rule : KeyRule σ}

/-- A key map knows the names that the clauses describing it know. -/
theorem knows_iff (describes : Describes clauses rule) : rule.knows name = true ↔ clauses.Knows name := by
  have merges := describes.keys_eq ▸ Members.merges_ofList clauses.entries
  rw [knows, Bool.or_eq_true, Members.has_iff_mem_names, merges.names_eq, List.mem_eraseDups, List.any_eq_true,
    Clauses.knows_iff]
  simp only [describes.mem_patterns]

end KeyRule.Describes

/-! ## Schemas -/

namespace Schema

variable {schema : Schema} {kept : List (Instance Schema)}

/-- What the calls say about the members of an object, in their order. -/
def clauses (schema : Schema) : Clauses Schema :=
  (schema.ruleset.instances schema.calls).filterMap Instance.clause?

/-- The names that begin with the letter. -/
def beginningWith (letter : Char) : Regex :=
  ⟨"^" ++ letter.toString, .sequence .start (.one (.single letter false))⟩

/-- A pattern, two key maps with an entry of the same name, and unknown members that are allowed too early. -/
def ofMixedKeys : Schema :=
  .ofCalls 0 [(.allowUnknown, []), (.keys ⟨[], [], false, false⟩, [.keys [("a", ofText), ("b", ofText)]]),
    (.pattern ⟨none, false, false⟩, [.regex (beginningWith 'x'), .schema ofText]),
    (.keys ⟨[], [], false, false⟩, [.keys [("a", ofOptionalText)]])]

end Schema

end Vetting
