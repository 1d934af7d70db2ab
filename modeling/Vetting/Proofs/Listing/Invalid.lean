import Vetting.Proofs.Listing.Verdicts
import Vetting.Proofs.Validation.Conversion

/-!
# Invalid values

An invalid value is struck from the lists of valid and of allowed values, and a list of invalid values turns it
down.  Without conversion it still passes if a later call makes another listed value count as the same: the
relation by which the case of letters does not matter is known to the lists from that call on, and a value that
was not struck before is not struck again (`Schema.passes_iff_of_invalid`).
-/

namespace Vetting

variable {σ : Type} {setting : Setting} {path : Path} {value : Value}

/-! ## Late rules -/

/-- A standard rule that comes late never ends a validation early. -/
theorem Rule.ne_abort_of_late {rule : Rule Checked} (standard : rule.unwired ∈ Ruleset.standardRules)
    (late : 0 < rule.priority) {verdict : Verdict} (said : (rule.judge setting path value).answer = .ok verdict) :
    verdict ≠ .abort := by
  have usual : rule.priority = 100 := by
    cases rule with
    | standIn old operating => exact absurd (show (0 : Int) < -1 from late) (by decide)
    | optional enabled => exact absurd late (lt_irrefl 0)
    | listing kind set operating =>
        cases kind with
        | invalid => rfl
        | valid | allow => exact absurd late (lt_irrefl 0)
    | declared declaration => exact absurd rfl (Rule.ne_declared_of_standard standard declaration)
    | _ => rfl
  rcases Rule.verdict_of_judge (Rule.ne_declared_of_standard standard) said with rfl | ⟨-, other⟩ | ⟨accepted, rfl, -⟩
  · exact fun same => nomatch same
  · exact absurd usual other
  · exact fun same => nomatch same

/-- Late rules that leave a value as it is do not let it pass if one of them turns it down. -/
theorem ne_pass_of_rejected (off : setting.convert = false) {rules : List (Rule Checked)}
    (standard : ∀ rule ∈ rules, rule.unwired ∈ Ruleset.standardRules) (late : ∀ rule ∈ rules, 0 < rule.priority)
    (leaves : ∀ rule ∈ rules, ∀ verdict, (rule.judge setting path value).answer = .ok verdict →
      verdict.Leaves value) {rejecting : Rule Checked} (member : rejecting ∈ rules) {fault : Fault}
    (rejects : (rejecting.judge setting path value).answer = .error fault) (accepted : Value) :
    (vetBy setting path rules value).answer ≠ .ok (.pass accepted) := by
  induction rules with
  | nil => cases member
  | cons rule rest ih =>
      rw [vetBy, Run.answer_bind, rule.attempt_of_not_convert off, Run.answer_bind]
      cases said : (rule.judge setting path value).answer with
      | error fault =>
          cases fault with
          | usage error =>
              intro same
              cases same
          | invalid report => exact fun same => setting.failed_ne_pass _ _ _ (Except.ok.inj same)
      | ok verdict =>
          have others := fun further => ih (fun other inside => standard other (List.mem_cons_of_mem _ inside))
            (fun other inside => late other (List.mem_cons_of_mem _ inside))
            (fun other inside => leaves other (List.mem_cons_of_mem _ inside)) further
          have further : rejecting ∈ rest := by
            refine (List.mem_cons.mp member).resolve_left fun same => ?_
            rw [same, said] at rejects
            cases rejects
          have left := leaves rule List.mem_cons_self verdict said
          cases verdict with
          | pass => exact others further
          | replace next =>
              obtain rfl : next = value := left
              exact others further
          | abort =>
              exact absurd rfl (Rule.ne_abort_of_late (standard rule List.mem_cons_self) (late rule List.mem_cons_self) said)

namespace Notes

variable {notes : Notes}

/-- An invalid value is admitted only as another form of a listed one. -/
theorem admits_iff_of_invalid {invalid : Value} (member : invalid ∈ notes.listed .invalid)
    (once : invalid.NamesOnce) (same : invalid.same value = true) :
    notes.Admits value ↔ .insensitive ∈ notes ∧
      ∃ listed, notes.Eligible listed ∧ ¬ notes.Struck listed ∧ sameIgnoringCase listed value = true := by
  constructor
  · rintro ⟨listed, eligible, safe, equal | ⟨insensitive, alike⟩⟩
    · exact absurd (struck_of_same member (Value.same_trans equal (once.same_symm same))) safe
    · exact ⟨insensitive, listed, eligible, safe, alike⟩
  · rintro ⟨insensitive, listed, eligible, safe, alike⟩
    exact ⟨listed, eligible, safe, .inr ⟨insensitive, alike⟩⟩

end Notes

namespace Schema

variable {schema : Schema} {kept : List (Instance Schema)}

/-- Without conversion the rules of a schema leave a value that is there as it is. -/
theorem leaves_judging (standard : schema.Everywhere CallsStandard) (compiles : schema.rules = .ok kept)
    (off : setting.convert = false) (present : value.isPresent = true) :
    ∀ rule ∈ judging setting kept, ∀ verdict, (rule.judge setting path value).answer = .ok verdict →
      verdict.Leaves value := by
  obtain ⟨here, inside⟩ := standard
  obtain ⟨-, -, made⟩ := exists_of_bind_eq_ok compiles
  have preserve : ∀ part ∈ schema.parts, (part.checked setting).Preserves :=
    fun part member => preserves_checked off (inside part member)
  obtain ⟨assembled, same⟩ := exists_assembled_over preserve
  obtain ⟨entries, found, rfl⟩ := Rule.exists_of_map_eq_ok (same.symm.trans made)
  rw [found] at same
  intro rule member verdict said
  obtain ⟨_, listed, rfl⟩ := List.mem_map.mp member
  obtain ⟨entry, stands, rfl⟩ := List.mem_map.mp listed
  rw [Instance.map, Rule.map_map] at said
  exact Rule.leaves_of_judge off (fun part outcome => part.property present)
    (allowed_of_assembled here (fun _ known => known) same entry stands) said

/-- Among the late rules there is one that turns an invalid value down. -/
theorem exists_rejecting (standard : schema.CallsStandard) (compiles : schema.rules = .ok kept) {invalid : Value}
    (member : invalid ∈ schema.notes.listed .invalid) (same : invalid.same value = true) (setting : Setting)
    (path : Path) :
    ∃ rule ∈ lateOnes (judging setting kept), ∃ fault, (rule.judge setting path value).answer = .error fault := by
  obtain ⟨set, page, listed⟩ := Book.exists_set_contains.mpr
    ⟨invalid, Book.lists_invalid_arranged.mpr member, Book.relates_arranged.mpr (.inl same)⟩
  rw [← pages_rules standard compiles] at page
  obtain ⟨entry, stands, own⟩ := Instance.mem_pages.mp page
  obtain ⟨operating, listing⟩ : ∃ operating, entry.rule = .listing .invalid set operating := by
    cases rule : entry.rule with
    | listing kind other operating =>
        rw [rule] at own
        obtain ⟨rfl, rfl⟩ := Prod.mk.inj (Option.some.inj own)
        exact ⟨operating, rfl⟩
    | _ =>
        rw [rule] at own
        cases own
  refine ⟨entry.rule.map (checked setting), List.mem_filter.mpr ⟨List.mem_map_of_mem stands, ?_⟩, ?_⟩
  · rw [Rule.priority_map, listing]
    rfl
  · rw [listing, Rule.map, Rule.judge, Listing.judge, listed]
    exact ⟨_, rfl⟩

/-- **Invalid values.**  Without conversion a value that equals an invalid one passes only as another form of a
listed value, and only where the case of letters does not matter: the listed value has to be valid, or allowed where
that comes first, and no note of invalid values may have struck it by the relations known at the time. -/
theorem passes_iff_of_invalid (standard : schema.Everywhere CallsStandard) (compiles : schema.rules = .ok kept)
    (off : setting.convert = false) (present : value.isPresent = true) {invalid : Value}
    (member : invalid ∈ schema.notes.listed .invalid) (once : invalid.NamesOnce) (same : invalid.same value = true)
    (path : Path) :
    (∃ accepted, (schema.vet setting path value).answer = .ok (.pass accepted)) ↔
      .insensitive ∈ schema.notes ∧ ∃ listed, schema.notes.Eligible listed ∧ ¬ schema.notes.Struck listed ∧
        sameIgnoringCase listed value = true := by
  have here : schema.CallsStandard := by
    cases standard
    assumption
  rw [← Notes.admits_iff_of_invalid member once same]
  constructor
  · rintro ⟨accepted, passes⟩
    by_contra rejects
    rw [vet_eq_of_decision here compiles present, Run.answer] at passes
    cases decided : decision? value (Book.ofNotes schema.notes.arranged).sets with
    | some decision =>
        rw [decided] at passes
        cases decision with
        | accepted => exact rejects (Book.decision?_arranged.mp decided)
        | rejected allowed => exact setting.failed_ne_pass _ _ _ (Except.ok.inj passes)
    | none =>
        rw [decided] at passes
        obtain ⟨rejecting, stands, fault, turnsDown⟩ := exists_rejecting here compiles member same setting path
        have late : ∀ rule ∈ lateOnes (judging setting kept), rule ∈ judging setting kept ∧ 0 < rule.priority :=
          fun rule inside => by simpa [lateOnes] using inside
        refine ne_pass_of_rejected off (fun rule inside => ?_) (fun rule inside => (late rule inside).2)
          (fun rule inside => ?_) stands turnsDown accepted passes
        · exact standard_judging here compiles setting rule (late rule inside).1
        · exact leaves_judging standard compiles off present rule (late rule inside).1
  · exact fun admits => ⟨value, vet_of_admits here compiles present admits setting path⟩

/-- A capital letter is allowed and its small one is invalid, before the case of letters does not matter. -/
def ofCapital : Schema :=
  .ofCalls 0 [(.listing .allow .empty false, [.value (.string "A")]),
    (.listing .invalid .empty false, [.value (.string "a")]), (.check .string, []), (.insensitive, [])]

/-- The schema has noted an allowed capital, an invalid small letter, and that case is ignored. -/
theorem notes_ofCapital : ofCapital.notes =
    [.listing .allow [.string "A"], .listing .invalid [.string "a"], .insensitive] :=
  rfl

/-- The schema has standard calls only. -/
theorem everywhere_ofCapital : ofCapital.Everywhere CallsStandard := by
  refine everywhere_ofCalls (callsOnly_ofCalls ?_) ?_
  · simp [Ruleset.standardRules, Ruleset.generalRules, Ruleset.stringRules, Ruleset.freshListing]
  · simp [Argument.parts]

/-- The schema compiles. -/
theorem exists_rules_ofCapital : ∃ kept, ofCapital.rules = .ok kept :=
  exists_rules (by decide +kernel)

/-- The capital letter was not struck, and lets the small one pass. -/
theorem passes_iff_of_invalid_ofCapital :
    ∃ accepted, (ofCapital.vet ⟨false, false, none, ⟨0, 0⟩⟩ [] (.string "a")).answer = .ok (.pass accepted) := by
  obtain ⟨kept, compiles⟩ := exists_rules_ofCapital
  have member : .string "a" ∈ ofCapital.notes.listed .invalid := by
    simp [notes_ofCapital, Notes.listed, Note.values]
  refine (passes_iff_of_invalid everywhere_ofCapital compiles rfl rfl member (.leaf ⟨rfl, rfl⟩) rfl []).mpr ?_
  refine ⟨by simp [notes_ofCapital], .string "A", .inr ⟨⟨_, rfl⟩, ?_⟩, ?_, by decide +kernel⟩
  · simp [notes_ofCapital, Notes.listed, Note.values]
  · have split : ofCapital.notes = [] ++ [.listing .allow [.string "A"]] ++ [.listing .invalid [.string "a"]] ++
        [.insensitive] := rfl
    rw [split, Notes.struck_concat, Notes.struck_concat, Notes.struck_concat]
    rintro (((nothing | ⟨_, first, -⟩) | ⟨values, second, candidate, inside, equal | ⟨known, -⟩⟩) | ⟨_, third, -⟩)
    · exact Notes.struck_nil nothing
    · cases first
    · obtain ⟨-, rfl⟩ := Note.listing.inj second
      obtain rfl := List.mem_singleton.mp inside
      exact absurd equal (by decide +kernel)
    · simp at known
    · cases third

/-- So an invalid value does not always fail. -/
theorem not_invalid_wins :
    ¬ ∀ (schema : Schema) (kept : List (Instance Schema)) (setting : Setting) (path : Path) (value : Value),
      schema.Everywhere CallsStandard → schema.rules = .ok kept → setting.convert = false →
        value.isPresent = true → (∃ invalid ∈ schema.notes.listed .invalid, invalid.same value = true) →
          ∀ accepted, (schema.vet setting path value).answer ≠ .ok (.pass accepted) := by
  intro wins
  obtain ⟨kept, compiles⟩ := exists_rules_ofCapital
  have passes : (ofCapital.vet ⟨false, false, none, ⟨0, 0⟩⟩ [] (.string "a")).answer.toOption.map
      (fun outcome => outcome.report.isNone) = some true := by
    decide +kernel
  have fails := wins ofCapital kept ⟨false, false, none, ⟨0, 0⟩⟩ [] (.string "a") everywhere_ofCapital compiles rfl rfl
    ⟨.string "a", by simp [notes_ofCapital, Notes.listed, Note.values], rfl⟩
  cases answered : (ofCapital.vet ⟨false, false, none, ⟨0, 0⟩⟩ [] (.string "a")).answer with
  | error misuse =>
      rw [answered] at passes
      cases passes
  | ok outcome =>
      rw [answered] at passes
      obtain ⟨accepted, report⟩ := outcome
      obtain rfl : report = none := Option.isNone_iff_eq_none.mp (Option.some.inj passes)
      exact fails accepted answered

end Schema

end Vetting
