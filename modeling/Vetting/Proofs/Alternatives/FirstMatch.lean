import Vetting.Proofs.Alternatives.Candidates
import Vetting.Proofs.Run.Deciding
import Vetting.Proofs.Schema.Standard
import Vetting.Proofs.Validation.Judging

/-!
# The first alternative that accepts

Where no candidate pauses, alternatives take the first candidate that accepts the value, in the order of the calls, and
bring what it accepts.  Where none does, they say what the first candidate says (`Checked.firstMatch_judgeAlternatives`).
The candidates are those of the call of alternatives and of all calls of further ones behind it
(`Schema.firstMatch_of_candidates`).
-/

namespace Vetting

variable {setting : Setting} {path : Path} {value accepted : Value} {fault : Fault}

/-! ## What a schema says of a value -/

/-- Why the outcome of a validation is none in which the value passes. -/
inductive Fault.Explains : Fault → Except Misuse Outcome → Prop
  | usage (error : Misuse) : Explains (.usage error) (.error error)
  | invalid (value : Value) (report : Report) : Explains (.invalid report) (.ok ⟨value, some report⟩)

namespace Checked

variable {schema : Checked} {schemas : List Checked}

/-- A schema accepts a value in the form in which it passes. -/
theorem answer_accept_eq_ok_iff :
    (schema.accept path value).answer = .ok accepted ↔ (schema.vet path value).answer = .ok (.pass accepted) := by
  refine ⟨outcome_of_accept, fun passed => ?_⟩
  rw [accept, Run.answer_bind, passed]
  rfl

/-- A schema that does not accept a value explains why. -/
theorem answer_accept_eq_error_iff :
    (schema.accept path value).answer = .error fault ↔ fault.Explains (schema.vet path value).answer := by
  rw [accept, Run.answer_bind]
  rcases (schema.vet path value).answer with error | ⟨about, report | report⟩
  · refine ⟨fun same => Except.error.inj same ▸ .usage error, fun explains => ?_⟩
    cases explains
    rfl
  · refine iff_of_false (fun said => ?_) fun explains => ?_
    · cases said
    · cases explains
  · refine ⟨fun same => Except.error.inj same ▸ .invalid about report, fun explains => ?_⟩
    cases explains
    rfl

/-! ## Alternatives -/

/-- The value passes in some form. -/
def Passes (schema : Checked) (path : Path) (value : Value) : Prop :=
  ∃ accepted, (schema.vet path value).answer = .ok (.pass accepted)

/-- What the judging says is said by the first candidate that lets the value pass, or by the first of all. -/
structure FirstMatch (candidates : List Checked) (path : Path) (value : Value) (judging : Judging) : Prop where
  /-- It passes exactly if the value passes with some candidate. -/
  succeeds : judging.Succeeds ↔ ∃ candidate ∈ candidates, candidate.Passes path value
  /-- It brings what the first one of these accepts. -/
  passes : ∀ verdict, judging.answer = .ok verdict ↔
    ∃ before winner after accepted, candidates = before ++ winner :: after ∧
      (∀ candidate ∈ before, ¬ candidate.Passes path value) ∧
      (winner.vet path value).answer = .ok (.pass accepted) ∧ verdict = .replace accepted
  /-- Else it gives the reason of the first candidate, or one of its own where there is no candidate. -/
  fails : ∀ fault, judging.answer = .error fault ↔
    (∀ candidate ∈ candidates, ¬ candidate.Passes path value) ∧
      ((∃ first rest, candidates = first :: rest ∧ fault.Explains (first.vet path value).answer) ∨
        candidates = [] ∧ fault = .invalid (.ofRule "alternatives" path []))

/-- A value passes a schema exactly if it is accepted in some form. -/
theorem passes_iff : schema.Passes path value ↔ (schema.accept path value).answer.isOk = true := by
  cases said : (schema.accept path value).answer with
  | ok accepted => exact iff_of_true ⟨accepted, answer_accept_eq_ok_iff.mp said⟩ rfl
  | error fault =>
      refine iff_of_false (fun ⟨accepted, passed⟩ => ?_) Bool.false_ne_true
      cases said.symm.trans (answer_accept_eq_ok_iff.mpr passed)

/-- The first candidate with which the value passes stands behind others with which it does not. -/
theorem exists_winner (passes : ∃ candidate ∈ schemas, candidate.Passes path value) :
    ∃ before winner after accepted, schemas = before ++ winner :: after ∧
      (∀ candidate ∈ before, ¬ candidate.Passes path value) ∧
      (winner.vet path value).answer = .ok (.pass accepted) := by
  obtain ⟨candidate, member, own⟩ := passes
  have found : (schemas.find? fun schema => (schema.accept path value).answer.isOk).isSome = true :=
    List.find?_isSome.mpr ⟨candidate, member, passes_iff.mp own⟩
  obtain ⟨winner, chosen⟩ := Option.isSome_iff_exists.mp found
  obtain ⟨wins, before, after, split, earlier⟩ := List.find?_eq_some_iff_append.mp chosen
  obtain ⟨accepted, passed⟩ := passes_iff.mpr wins
  refine ⟨before, winner, after, accepted, split, fun other stands passes => ?_, passed⟩
  have refused := earlier other stands
  rw [passes_iff.mp passes] at refused
  cases refused

section Steady

variable (steady : ∀ schema ∈ schemas, (schema.vet path value).pauses = 0)

include steady

/-- Of schemas that never pause the first one to pass wins, or else the first one explains. -/
theorem answer_firstPass :
    (Run.firstPass (schemas.map fun schema => schema.accept path value)).answer =
      ((schemas.map fun schema => (schema.accept path value).answer).find? Except.isOk).or
        (schemas.map fun schema => (schema.accept path value).answer).head? := by
  have unpaused : ∀ check ∈ schemas.map fun schema => schema.accept path value, check.pauses = 0 := by
    intro check member
    obtain ⟨schema, given, rfl⟩ := List.mem_map.mp member
    exact (pauses_accept schema path value).trans (steady schema given)
  rw [Run.firstPass_answer_of_steady unpaused, List.map_map]
  rfl

/-- The first candidate to pass replaces the value, whatever comes behind it. -/
theorem answer_of_winner {before after : List Checked} {winner : Checked} (split : schemas = before ++ winner :: after)
    (lose : ∀ candidate ∈ before, ¬ candidate.Passes path value)
    (passed : (winner.vet path value).answer = .ok (.pass accepted)) :
    (judgeAlternatives schemas path value).answer = .ok (.replace accepted) := by
  have found : (schemas.map fun schema => (schema.accept path value).answer).find? Except.isOk =
      some (.ok accepted) := by
    refine List.find?_eq_some_iff_append.mpr ⟨rfl, before.map fun schema => (schema.accept path value).answer,
      after.map fun schema => (schema.accept path value).answer, ?_, ?_⟩
    · rw [split, List.map_append, List.map_cons, answer_accept_eq_ok_iff.mpr passed]
    · intro answer member
      obtain ⟨candidate, stands, rfl⟩ := List.mem_map.mp member
      rw [Bool.not_eq_true', ← Bool.not_eq_true, ← passes_iff]
      exact lose candidate stands
  rw [judgeAlternatives, Run.answer_bind, answer_firstPass steady, found, Option.some_or]
  rfl

/-- If no candidate passes, the first one explains why, or the rule itself where there is none. -/
theorem answer_of_nobody (lose : ∀ candidate ∈ schemas, ¬ candidate.Passes path value) :
    (judgeAlternatives schemas path value).answer = .error fault ↔
      ((∃ first rest, schemas = first :: rest ∧ fault.Explains (first.vet path value).answer) ∨
        schemas = [] ∧ fault = .invalid (.ofRule "alternatives" path [])) := by
  have nobody : (schemas.map fun schema => (schema.accept path value).answer).find? Except.isOk = none := by
    rw [List.find?_eq_none]
    intro answer member
    obtain ⟨candidate, stands, rfl⟩ := List.mem_map.mp member
    rw [← passes_iff]
    exact lose candidate stands
  rw [judgeAlternatives, Run.answer_bind, answer_firstPass steady, nobody, Option.none_or]
  cases schemas with
  | nil =>
      refine ⟨fun same => .inr ⟨rfl, (Except.error.inj same).symm⟩, ?_⟩
      rintro (⟨first, rest, none, -⟩ | ⟨-, rfl⟩)
      · cases none
      · rfl
  | cons first rest =>
      rw [List.map_cons, List.head?_cons]
      cases said : (first.accept path value).answer with
      | ok accepted => exact absurd (passes_iff.mpr (by rw [said]; rfl)) (lose first List.mem_cons_self)
      | error other =>
          have explains := answer_accept_eq_error_iff.mp said
          constructor
          · intro same
            obtain rfl := Except.error.inj same
            exact .inl ⟨first, rest, rfl, explains⟩
          · rintro (⟨_, _, same, also⟩ | ⟨none, -⟩)
            · obtain ⟨rfl, rfl⟩ := List.cons.inj same
              exact congrArg Except.error (Except.error.inj (said.symm.trans (answer_accept_eq_error_iff.mpr also)))
            · cases none

/-- **First match.**  Alternatives whose candidates do not pause say what the first candidate that accepts says, or the
first one of all. -/
theorem firstMatch_judgeAlternatives : FirstMatch schemas path value (judgeAlternatives schemas path value) := by
  by_cases passes : ∃ candidate ∈ schemas, candidate.Passes path value
  · obtain ⟨before, winner, after, accepted, split, lose, passed⟩ := exists_winner passes
    have answered := answer_of_winner steady split lose passed
    refine ⟨iff_of_true ⟨_, answered⟩ passes, fun verdict => ⟨fun same => ?_, ?_⟩, fun fault => iff_of_false ?_ ?_⟩
    · exact ⟨before, winner, after, accepted, split, lose, passed, Except.ok.inj (same.symm.trans answered)⟩
    · rintro ⟨_, _, _, _, split, lose, passed, rfl⟩
      exact answer_of_winner steady split lose passed
    · rw [answered]
      exact nofun
    · rintro ⟨allLose, -⟩
      obtain ⟨candidate, member, own⟩ := passes
      exact allLose candidate member own
  · have lose : ∀ candidate ∈ schemas, ¬ candidate.Passes path value :=
      fun candidate member own => passes ⟨candidate, member, own⟩
    have fails := fun fault => @answer_of_nobody path value fault schemas steady lose
    have noVerdict : ∀ verdict, (judgeAlternatives schemas path value).answer ≠ .ok verdict := by
      intro verdict said
      obtain ⟨accepted, -, candidate, member, accepts⟩ := accepted_of_judgeAlternatives said
      exact lose candidate member ⟨accepted, outcome_of_accept accepts⟩
    refine ⟨iff_of_false (fun ⟨verdict, said⟩ => noVerdict verdict said) passes,
      fun verdict => iff_of_false (noVerdict verdict) ?_, fun fault => ?_⟩
    · rintro ⟨before, winner, after, accepted, rfl, -, passed, -⟩
      exact lose winner (List.mem_append_right _ List.mem_cons_self) ⟨accepted, passed⟩
    · rw [fails fault, and_iff_right lose]

end Steady

end Checked

/-! ## Candidates of a schema -/

namespace Instance

variable {σ : Type}

/-- The instance of a call of alternatives. -/
def IsAlternatives (entry : Instance σ) : Prop :=
  entry.rule.unwired = .alternatives []

instance (entry : Instance σ) : Decidable entry.IsAlternatives :=
  decidable_of_iff (entry.rule.candidates?.isSome = true) entry.rule.isSome_candidates?

/-- What a call of further alternatives brings. -/
def brought? : Instance σ → Option (Except ArgumentFault (List σ))
  | ⟨.furtherAlternatives, arguments⟩ => some arguments.schemas
  | _ => none

/-- What the calls of further alternatives bring, in their order. -/
def tries (entries : List (Instance σ)) : List (Except ArgumentFault (List σ)) :=
  entries.filterMap brought?

/-- A call of `alternatives` nominates the schemas that it is given. -/
theorem nomination?_of_isAlternatives {entry : Instance σ} (sort : entry.IsAlternatives) :
    entry.nomination? = entry.arguments.schemas.toOption.map .first := by
  rw [nomination?, ← Rule.nomination?_unwired, show entry.rule.unwired = _ from sort, Rule.nomination?]

/-- A call of alternatives, or of further ones, that can be carried out brings schemas. -/
theorem exists_schemas_of_deed {entry : Instance σ} {deed : Deed σ}
    (sort : entry.rule.unwired = .alternatives [] ∨ entry.rule.unwired = .furtherAlternatives)
    (found : entry.deed = .ok deed) : ∃ schemas, entry.arguments.schemas = .ok schemas := by
  obtain ⟨rule, arguments⟩ := entry
  cases rule with
  | alternatives old =>
      obtain ⟨schemas, read, -⟩ := Rule.exists_of_map_eq_ok found
      exact ⟨schemas, read⟩
  | furtherAlternatives =>
      obtain ⟨schemas, read, -⟩ := Rule.exists_of_map_eq_ok found
      exact ⟨schemas, read⟩
  | _ => rcases sort with sort | sort <;> cases sort

/-- If calls assemble, those of `alternatives` and `try` have been given schemas. -/
theorem exists_schemas_of_assemble [Identified σ] {entries kept : List (Instance σ)}
    (standard : ∀ entry ∈ entries, entry.IsStandard) (assembled : assemble entries = .ok kept) :
    ∀ entry ∈ entries, entry.rule.unwired = .alternatives [] ∨ entry.rule.unwired = .furtherAlternatives →
      ∃ schemas, entry.arguments.schemas = .ok schemas := by
  intro entry member sort
  obtain ⟨wired, same, deed, found⟩ := exists_deed_of_assemble standard assembled entry member
  obtain ⟨unwired, arguments⟩ := Prod.mk.inj same
  obtain ⟨schemas, read⟩ := exists_schemas_of_deed (by rwa [unwired]) found
  exact ⟨schemas, by rw [← arguments, read]⟩

/-- Among calls none of which is one of alternatives, those of further ones nominate what they bring. -/
theorem exists_tries {entries : List (Instance σ)} (others : ∀ entry ∈ entries, ¬ entry.IsAlternatives)
    (readable : ∀ entry ∈ entries, entry.rule.unwired = .furtherAlternatives →
      ∃ schemas, entry.arguments.schemas = .ok schemas) :
    ∃ brought : List (List σ), tries entries = brought.map .ok ∧
      entries.filterMap nomination? = brought.map .further := by
  induction entries with
  | nil => exact ⟨[], rfl, rfl⟩
  | cons entry rest ih =>
      obtain ⟨own, further⟩ := List.forall_mem_cons.mp others
      obtain ⟨ownRead, restRead⟩ := List.forall_mem_cons.mp readable
      obtain ⟨brought, same, told⟩ := ih further restRead
      obtain ⟨rule, arguments⟩ := entry
      cases rule with
      | furtherAlternatives =>
          obtain ⟨schemas, read⟩ := ownRead rfl
          have said : (⟨.furtherAlternatives, arguments⟩ : Instance σ).nomination? = some (.further schemas) := by
            rw [nomination?, Rule.nomination?, read]
            rfl
          have brings : brought? (⟨.furtherAlternatives, arguments⟩ : Instance σ) = some (.ok schemas) := by
            rw [brought?, read]
          refine ⟨schemas :: brought, ?_, ?_⟩
          · rw [tries, List.filterMap_cons_some brings, List.map_cons, ← same, tries]
          · rw [List.filterMap_cons_some said, told, List.map_cons]
      | alternatives old => exact absurd rfl own
      | _ => exact ⟨brought, same, told⟩

end Instance

namespace Nominations

/-- Further nominations are not first ones. -/
theorem countP_further {σ : Type} (tries : List (List σ)) :
    (tries.map Nomination.further).countP Nomination.isFirst = 0 := by
  rw [List.countP_eq_zero]
  intro nomination member
  obtain ⟨schemas, -, rfl⟩ := List.mem_map.mp member
  exact Bool.false_ne_true

end Nominations

/-- **First match over all candidates.**  The last alternatives that come out of a schema have the candidates of their
call and those of all calls of further ones behind it, in their order; no others come out if no others are called for.
Where these candidates do not pause, the alternatives take the first one with which the value passes, or say what the
first one of all says. -/
theorem Schema.firstMatch_of_candidates {schema : Schema} {kept front back : List (Instance Schema)}
    {call : Instance Schema} (standard : schema.CallsStandard) (compiles : schema.rules = .ok kept)
    (calls : schema.ruleset.instances schema.calls = front ++ call :: back) (alternatives : call.IsAlternatives)
    (last : ∀ entry ∈ back, ¬ entry.IsAlternatives) :
    ∃ (first : List Schema) (tries : List (List Schema)),
      call.arguments.schemas = .ok first ∧ Instance.tries back = tries.map .ok ∧
      (Instance.candidateLists kept).getLast? = some (first ++ tries.flatten) ∧
      ((∀ entry ∈ front, ¬ entry.IsAlternatives) → Instance.candidateLists kept = [first ++ tries.flatten]) ∧
      ∀ (setting : Setting) (path : Path) (value : Value),
        (∀ candidate ∈ first ++ tries.flatten, (candidate.vet setting path value).pauses = 0) →
          Checked.FirstMatch ((first ++ tries.flatten).map (checked setting)) path value
            (((Rule.alternatives (first ++ tries.flatten)).map (checked setting)).judge setting path value) := by
  have fresh := Ruleset.fresh_of_mem_instances standard
  obtain ⟨-, -, assembled⟩ := exists_of_bind_eq_ok compiles
  have standard : ∀ entry ∈ front ++ call :: back, entry.IsStandard := calls ▸ fun entry member => (fresh entry member).1
  rw [calls] at assembled
  have readable := Instance.exists_schemas_of_assemble standard assembled
  obtain ⟨first, read⟩ := readable call (List.mem_append_right _ List.mem_cons_self) (.inl alternatives)
  obtain ⟨tries, brought, told⟩ := Instance.exists_tries last
    fun entry member sort => readable entry (List.mem_append_right _ (List.mem_cons_of_mem _ member)) (.inr sort)
  have own : call.nomination? = some (.first first) := by
    rw [Instance.nomination?_of_isAlternatives alternatives, read]
    rfl
  obtain ⟨newest, few⟩ := Instance.candidateLists_assemble standard assembled
  rw [List.filterMap_append, List.filterMap_cons_some own, told] at newest few
  rw [Nominations.candidates?_append] at newest
  refine ⟨first, tries, read, brought, newest, fun others => ?_, fun setting path value steady => ?_⟩
  · obtain ⟨early, -, earlier⟩ := Instance.exists_tries others
      fun entry member sort => readable entry (List.mem_append_left _ member) (.inr sort)
    rw [earlier, List.countP_append, List.countP_cons_of_pos rfl, Nominations.countP_further,
      Nominations.countP_further] at few
    obtain ⟨rest, split⟩ := List.getLast?_eq_some_iff.mp newest
    rw [split, List.length_append, List.length_singleton] at few
    rw [split, List.length_eq_zero_iff.mp (Nat.le_zero.mp (Nat.le_of_add_le_add_right few)), List.nil_append]
  · refine Checked.firstMatch_judgeAlternatives fun candidate member => ?_
    obtain ⟨part, given, rfl⟩ := List.mem_map.mp member
    exact steady part given

namespace Schema

/-- A schema of a kind of value. -/
def ofKind (handle : Handle) (kind : Check) : Schema :=
  .ofCalls handle [(.check kind, [])]

/-- A truth value or a text in two calls, with another call in between. -/
def ofFurtherTexts : Schema :=
  .ofCalls 0 [(.optional false, []), (.alternatives [], [.schema (ofKind 1 .boolean)]), (.check .required, []),
    (.furtherAlternatives, [.schema (ofKind 2 .string), .schema (ofKind 3 .string)])]

/-- A text is no truth value, but the first of the further candidates accepts it. -/
theorem firstMatch_of_candidates_ofFurtherTexts :
    ∃ kept, ofFurtherTexts.rules = .ok kept ∧
      Instance.candidateLists kept = [[ofKind 1 .boolean, ofKind 2 .string, ofKind 3 .string]] ∧
      (((Rule.alternatives [ofKind 1 .boolean, ofKind 2 .string, ofKind 3 .string]).map
        (checked ⟨false, false, none, ⟨0, 0⟩⟩)).judge ⟨false, false, none, ⟨0, 0⟩⟩ [] (.string "y")).answer =
          .ok (.replace (.string "y")) := by
  obtain ⟨kept, compiles⟩ := exists_rules (show ofFurtherTexts.rules.toOption.isSome = true by decide +kernel)
  have standard : ofFurtherTexts.CallsStandard :=
    callsOnly_ofCalls (by simp [Ruleset.standardRules, Ruleset.generalRules])
  obtain ⟨first, tries, read, brought, -, only, matching⟩ :=
    @firstMatch_of_candidates _ _ [⟨.optional false, []⟩] _ _ standard compiles rfl rfl (by decide)
  obtain rfl : first = [ofKind 1 .boolean] := Except.ok.inj read.symm
  obtain rfl : tries = [[ofKind 2 .string, ofKind 3 .string]] :=
    List.map_injective_iff.mpr (fun _ _ => Except.ok.inj) brought.symm
  refine ⟨kept, compiles, only (by decide), ?_⟩
  refine ((matching _ [] (.string "y") (by decide +kernel)).passes _).mpr
    ⟨[checked _ (ofKind 1 .boolean)], checked _ (ofKind 2 .string), [checked _ (ofKind 3 .string)], _, rfl, ?_, ?_, rfl⟩
  · exact List.forall_mem_singleton.mpr fun passes => absurd (Checked.passes_iff.mp passes) (by decide +kernel)
  · rfl

end Schema

end Vetting
