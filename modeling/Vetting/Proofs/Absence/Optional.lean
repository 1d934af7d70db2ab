import Vetting.Proofs.Absence.Gates
import Vetting.Proofs.Listing.Verdicts
import Vetting.Proofs.Validation.Conversion

/-!
# Optional values

Where nothing stands in for absent values, one of them meets the gates of its schema, then the lists of values, and
only if neither decides the late rules (`Schema.vet_undefined`).  So with an `optional` call, and with nothing
required, it passes if such a call comes before all calls of valid values and is not repeated, or if it is listed
itself.  If not, it fails by the valid values, wherever else `optional` is called for (`Schema.vet_of_optional`).
-/

namespace Vetting

variable {σ : Type}

/-- The gates let an absent value pass if its rules waive it. -/
theorem Instance.waives_rules (entries : List (Instance σ)) :
    waives (entries.map Instance.rule) = Gate.opens (gates entries) := by
  induction entries with
  | nil => rfl
  | cons entry rest ih =>
      obtain ⟨rule, arguments⟩ := entry
      cases rule with
      | optional enabled =>
          cases enabled with
          | true => rfl
          | false => exact ih
      | listing kind set operating => cases kind <;> first | rfl | exact ih
      | _ => exact ih

/-- Translated schemas do not show in what rules waive. -/
theorem waives_map {τ : Type} (f : σ → τ) (rules : List (Rule σ)) : waives (rules.map (Rule.map f)) = waives rules := by
  induction rules with
  | nil => rfl
  | cons rule rest ih =>
      cases rule with
      | optional enabled =>
          cases enabled with
          | true => rfl
          | false => exact ih
      | listing kind set operating => cases kind <;> first | rfl | exact ih
      | _ => exact ih

/-- Where nothing is required, the calls are wired in their order. -/
theorem Notice.arranged_of_optional {notices : List (Notice σ)} (nothing : .required ∉ notices) :
    arranged notices = notices := by
  have early : ∀ notice ∈ notices, notice.isEarly = true := by
    intro notice member
    cases notice with
    | required => exact absurd member nothing
    | optional arguments | valid => rfl
  rw [arranged, List.filter_eq_self.mpr early, List.filter_eq_nil_iff.mpr (by simpa using early), List.append_nil]

/-- Where no valid values are called for, the last of some `optional` calls is a waiver. -/
theorem Notice.waived_of_not_valid [Identified σ] {notices : List (Notice σ)}
    (optional : ∃ arguments, .optional arguments ∈ notices) (free : .valid ∉ notices) : Waived notices := by
  induction notices using List.reverseRecOn with
  | nil =>
      obtain ⟨_, member⟩ := optional
      cases member
  | append_singleton notices notice ih =>
      obtain ⟨earlier, own⟩ := not_or.mp (mt List.mem_append.mpr free)
      cases notice with
      | optional other => exact ⟨notices, other, [], rfl, earlier, fun _ member => nomatch member⟩
      | valid => exact absurd List.mem_cons_self own
      | required =>
          have before : ∃ arguments, .optional arguments ∈ notices := by simpa using optional
          obtain ⟨front, arguments, back, split⟩ := ih before earlier
          obtain ⟨front, back, split⟩ :=
            (Gate.exists_split_concat .required).mpr (.inl ⟨⟨front, back, split⟩, fun _ same => nomatch same⟩)
          exact ⟨front, arguments, back, split⟩

/-- An absent value is admitted if it is listed itself, as a valid value or where allowed ones come first, and not
struck. -/
theorem Notes.admits_undefined {notes : Notes} :
    notes.Admits .undefined ↔ notes.Eligible .undefined ∧ ¬ notes.Struck .undefined := by
  have only : ∀ listed, notes.Matches listed .undefined → listed = .undefined := by
    rintro listed (equal | ⟨-, alike⟩)
    · have kinds := Value.kind_of_same equal
      cases listed <;> first | rfl | cases kinds
    · cases listed <;> cases alike
  constructor
  · rintro ⟨listed, eligible, safe, same⟩
    obtain rfl := only listed same
    exact ⟨eligible, safe⟩
  · exact fun ⟨eligible, safe⟩ => ⟨.undefined, eligible, safe, .inl rfl⟩

namespace Schema

variable {schema : Schema} {kept : List (Instance Schema)}

/-- Calls that bring no stand-in are standard ones. -/
theorem CallsOnly.standard (calls : schema.CallsOnly Blueprint.WithoutStandIn) : schema.CallsStandard :=
  fun call called blueprint bound => (calls call called blueprint bound).1

/-- What the calls say about absent values, in their order. -/
def notices (schema : Schema) : List (Notice Schema) :=
  (schema.ruleset.instances schema.calls).filterMap Instance.notice?

/-- The gates of compiled rules are what the notices, in order, post. -/
theorem gates_rules (standard : schema.CallsStandard) (compiles : schema.rules = .ok kept) :
    Instance.gates kept = Gate.posted (Notice.arranged schema.notices) := by
  obtain ⟨-, -, assembled⟩ := exists_of_bind_eq_ok compiles
  exact Instance.gates_assemble (fun entry member => (Ruleset.fresh_of_mem_instances standard entry member).1) assembled

/-- **Absent values.**  Where nothing stands in for them, the gates come first, then the lists of values, and last the
late rules. -/
theorem vet_undefined (calls : schema.CallsOnly Blueprint.WithoutStandIn) (compiles : schema.rules = .ok kept)
    (setting : Setting) (path : Path) :
    schema.vet setting path .undefined = .opening schema.handle
      (if Gate.opens (Gate.posted (Notice.arranged schema.notices)) then .done (.ok (.pass .undefined))
      else (decision? .undefined (Book.ofNotes schema.notes.arranged).sets).elim
        (vetBy setting path (lateOnes (judging setting kept)) .undefined)
        fun decision => .done (.ok (decision.outcome setting path .undefined))) := by
  have origins := allowed_of_rules calls (fun _ known => known.1) compiles
  have waived : waives (judging setting kept) = Gate.opens (Gate.posted (Notice.arranged schema.notices)) := by
    rw [← gates_rules calls.standard compiles, ← Instance.waives_rules, ← waives_map (checked setting), List.map_map]
    rfl
  have unreplaced : vetWith setting (judging setting kept) path .undefined =
      vetBy setting path (judging setting kept) .undefined := by
    have same := @vetWith_of_withoutStandIn _ setting path .undefined (checked setting) _
      (List.forall_mem_map.mpr origins)
    rwa [List.map_map] at same
  rw [vet_eq_of_rules compiles, unreplaced, vetBy_judging calls.standard compiles, waived]
  rfl

/-- A call of valid values leaves a list of these. -/
theorem valid_mem_kinds (standard : schema.CallsStandard) (compiles : schema.rules = .ok kept)
    (called : .valid ∈ Notice.arranged schema.notices) :
    Listing.valid ∈ (Book.ofNotes schema.notes.arranged).sets.map Prod.fst := by
  rw [← Gate.valid_mem_posted, ← gates_rules standard compiles, Instance.mem_gates_valid] at called
  obtain ⟨entry, stands, sort⟩ := called
  rw [← pages_rules standard compiles, List.mem_map]
  cases rule : entry.rule with
  | listing kind set operating =>
      rw [rule] at sort
      obtain ⟨rfl, -⟩ := Rule.listing.inj sort
      exact ⟨(.valid, set), Instance.mem_pages.mpr ⟨entry, stands, by rw [rule]; rfl⟩, rfl⟩
  | _ =>
      rw [rule] at sort
      cases sort

/-- **Optional values.**  Where nothing stands in for absent values and nothing is required, but some call is
`optional`, an absent value passes if such a call is a waiver or if the absent value is listed itself.  Otherwise it
fails by the valid values alone. -/
theorem vet_of_optional (calls : schema.CallsOnly Blueprint.WithoutStandIn) (compiles : schema.rules = .ok kept)
    (optional : ∃ arguments, .optional arguments ∈ schema.notices) (nothing : .required ∉ schema.notices)
    (setting : Setting) (path : Path) :
    (Notice.Waived schema.notices ∨ schema.notes.Admits .undefined →
        schema.vet setting path .undefined = .opening schema.handle (.done (.ok (.pass .undefined)))) ∧
      (¬ (Notice.Waived schema.notices ∨ schema.notes.Admits .undefined) →
        ∃ outcome, schema.vet setting path .undefined = .opening schema.handle (.done (.ok outcome)) ∧
          outcome.value = .undefined ∧ outcome.FailsOnlyBy "valid") := by
  have waiver := @Gate.opens_posted _ _ _ nothing
  rw [vet_undefined calls compiles, Notice.arranged_of_optional nothing]
  constructor
  · intro passes
    by_cases waived : Notice.Waived schema.notices
    · rw [if_pos (waiver.mpr waived)]
    · rw [if_neg (mt waiver.mp waived), Book.decision?_arranged.mpr (passes.resolve_left waived)]
      rfl
  · intro fails
    obtain ⟨denied, unlisted⟩ := not_or.mp fails
    have valid : .valid ∈ schema.notices := by_contra fun free => denied (Notice.waived_of_not_valid optional free)
    have listed := valid_mem_kinds calls.standard compiles ((Notice.arranged_of_optional nothing).symm ▸ valid)
    rw [if_neg (mt waiver.mp denied)]
    cases decided : decision? .undefined (Book.ofNotes schema.notes.arranged).sets with
    | none => exact absurd (isSome_decision? listed) (by rw [decided]; exact Bool.false_ne_true)
    | some decision =>
        cases decision with
        | accepted => exact absurd (Book.decision?_arranged.mp decided) unlisted
        | rejected allowed => exact ⟨_, rfl, rfl, setting.failsOnlyBy_failed ..⟩

/-- An absent value is optional before a value is valid. -/
def ofOptional : Schema :=
  .ofCalls 0 [(.optional false, []), (.listing .valid .empty false, [.value (.string "a")])]

/-- The absent value is made optional once more. -/
def ofOptionalAgain : Schema :=
  .ofCalls 0 [(.optional false, []), (.listing .valid .empty false, [.value (.string "a")]), (.optional false, [])]

/-- The first schema notices `optional` before a valid value, the second one again behind it. -/
theorem notices_ofOptional : ofOptional.notices = [.optional [], .valid] ∧
    ofOptionalAgain.notices = [.optional [], .valid, .optional []] :=
  ⟨rfl, rfl⟩

/-- Neither schema calls for a stand-in. -/
theorem withoutStandIn_ofOptional : ofOptional.CallsOnly Blueprint.WithoutStandIn ∧
    ofOptionalAgain.CallsOnly Blueprint.WithoutStandIn := by
  constructor <;> refine callsOnly_ofCalls ?_ <;>
    simp [Blueprint.WithoutStandIn, Ruleset.standardRules, Ruleset.generalRules, Ruleset.freshListing, Rule.name,
      Listing.name]

/-- Called for once more, `optional` comes too late for an absent value. -/
theorem not_waived_ofOptionalAgain : ¬ Notice.Waived ofOptionalAgain.notices := by
  rw [notices_ofOptional.2, ← Gate.opens_posted (by simp)]
  exact Bool.false_ne_true

/-- The second schema does not admit an absent value. -/
theorem not_admits_ofOptionalAgain : ¬ ofOptionalAgain.notes.Admits .undefined := by
  have notes : ofOptionalAgain.notes = [.listing .valid [.string "a"]] := rfl
  rw [Notes.admits_undefined, notes]
  simp [Notes.Eligible, Notes.listed, Note.values]

/-- The first schema lets an absent value pass, and the second one does not. -/
theorem vet_of_optional_ofOptional :
    ofOptional.vet ⟨true, false, none, ⟨0, 0⟩⟩ [] .undefined = .opening 0 (.done (.ok (.pass .undefined))) ∧
      ∃ outcome, ofOptionalAgain.vet ⟨true, false, none, ⟨0, 0⟩⟩ [] .undefined = .opening 0 (.done (.ok outcome)) ∧
        outcome.value = .undefined ∧ outcome.FailsOnlyBy "valid" := by
  obtain ⟨kept, compiles⟩ := exists_rules (show ofOptional.rules.toOption.isSome = true by decide +kernel)
  obtain ⟨others, compilesAgain⟩ := exists_rules (show ofOptionalAgain.rules.toOption.isSome = true by decide +kernel)
  obtain ⟨calls, callsAgain⟩ := withoutStandIn_ofOptional
  obtain ⟨notices, noticesAgain⟩ := notices_ofOptional
  have waived : Notice.Waived ofOptional.notices := ⟨[], [], [.valid], notices, by simp, by simp⟩
  constructor
  · refine (vet_of_optional calls compiles ⟨[], ?_⟩ ?_ _ _).1 (.inl waived) <;> simp [notices]
  · refine (vet_of_optional callsAgain compilesAgain ⟨[], ?_⟩ ?_ _ _).2 ?_
    · simp [noticesAgain]
    · simp [noticesAgain]
    · exact not_or.mpr ⟨not_waived_ofOptionalAgain, not_admits_ofOptionalAgain⟩

/-- So `optional` does not let absent values pass wherever it is called for. -/
theorem not_optional_anywhere :
    ¬ ∀ (schema : Schema) (kept : List (Instance Schema)) (setting : Setting) (path : Path),
      schema.CallsOnly Blueprint.WithoutStandIn → schema.rules = .ok kept →
        (∃ arguments, .optional arguments ∈ schema.notices) → .required ∉ schema.notices →
          (schema.vet setting path .undefined).answer = .ok (.pass .undefined) := by
  intro passes
  obtain ⟨kept, compiles⟩ := exists_rules (show ofOptionalAgain.rules.toOption.isSome = true by decide +kernel)
  have answered := passes ofOptionalAgain kept ⟨true, false, none, ⟨0, 0⟩⟩ [] withoutStandIn_ofOptional.2 compiles
    ⟨[], by simp [notices_ofOptional.2]⟩ (by simp [notices_ofOptional.2])
  have fails : (ofOptionalAgain.vet ⟨true, false, none, ⟨0, 0⟩⟩ [] .undefined).answer.toOption.map
      (fun outcome => outcome.report.isNone) = some false := by
    decide +kernel
  rw [answered] at fails
  cases fails

end Schema

end Vetting
