import Vetting.Proofs.Listing.Record
import Vetting.Proofs.Schema.Standard
import Vetting.Proofs.Validation.Frame
import Vetting.Proofs.Value.Equality

/-!
# What lists of values decide

The lists of valid and of allowed values judge a value before all rules but the stand-in and the optional one, and
these let every value pass that is there.  So what such a value comes to is decided by the first list of valid
values or by a list of allowed ones before it, and only if there is no such decision by the other rules
(`vetBy_eq_of_decision`).  With what an assembly writes in its lists, the decision can be told from the calls
(`Book.decision?_arranged`).

Where some values are valid and the case of letters matters, the lists compute what one reads off the calls: the
values that are valid, or allowed where that comes first, without those that are invalid (`Schema.vet_of_valid`).
-/

namespace Vetting

variable {σ : Type} {setting : Setting} {path : Path} {value candidate : Value}

/-! ## The decision of the lists -/

/-- What the lists of valid and of allowed values say of a value before any other rule is asked. -/
inductive Decision where
  | accepted
  | rejected (allowed : List Value)

/-- What comes of a decision. -/
def Decision.outcome (setting : Setting) (path : Path) (value : Value) : Decision → Outcome
  | accepted => .pass value
  | rejected allowed => setting.failed value (.ofRule Listing.valid.name path [("allowed", .array allowed)])

/-- The decision of the first list that comes to one. -/
def decision? (candidate : Value) : List (Listing × ListedValues) → Option Decision
  | [] => none
  | (.valid, set) :: _ => some (if set.contains candidate then .accepted else .rejected set.values)
  | (.allow, set) :: rest => if set.contains candidate then some .accepted else decision? candidate rest
  | (.invalid, _) :: rest => decision? candidate rest

/-- Lists of invalid values decide nothing. -/
theorem decision?_of_invalid {pages : List (Listing × ListedValues)} (invalid : ∀ page ∈ pages, page.1 = .invalid) :
    decision? candidate pages = none := by
  induction pages with
  | nil => rfl
  | cons page rest ih =>
      obtain ⟨kind, set⟩ := page
      obtain rfl : kind = .invalid := invalid _ List.mem_cons_self
      exact ih fun other member => invalid other (List.mem_cons_of_mem _ member)

/-- A list of valid values always decides. -/
theorem isSome_decision? {pages : List (Listing × ListedValues)} (valid : Listing.valid ∈ pages.map Prod.fst) :
    (decision? candidate pages).isSome = true := by
  induction pages with
  | nil => cases valid
  | cons page rest ih =>
      obtain ⟨kind, set⟩ := page
      cases kind with
      | valid => rfl
      | allow =>
          rw [decision?]
          split
          · rfl
          · exact ih (by simpa using valid)
      | invalid => exact ih (by simpa using valid)

/-- A value is accepted if it is among the valid ones, or among the allowed ones where these come first. -/
theorem decision?_eq_accepted {pages : List (Listing × ListedValues)} (once : (pages.map Prod.fst).Nodup) :
    decision? candidate pages = some .accepted ↔
      (∃ set, (.valid, set) ∈ pages ∧ set.contains candidate = true) ∨
        (pages.map Prod.fst).find? (· ≠ .invalid) = some .allow ∧
          ∃ set, (.allow, set) ∈ pages ∧ set.contains candidate = true := by
  induction pages with
  | nil => simp [decision?]
  | cons page rest ih =>
      obtain ⟨kind, set⟩ := page
      obtain ⟨fresh, further⟩ := List.nodup_cons.mp once
      have here : (∃ other, (kind, other) ∈ (kind, set) :: rest ∧ other.contains candidate = true) ↔
          set.contains candidate = true := by
        constructor
        · rintro ⟨other, member, listed⟩
          rcases List.mem_cons.mp member with same | later
          · exact (Prod.mk.inj same).2 ▸ listed
          · exact absurd (List.mem_map.mpr ⟨_, later, rfl⟩) fresh
        · exact fun listed => ⟨set, List.mem_cons_self, listed⟩
      have there : ∀ other, other ≠ kind → ((∃ further, (other, further) ∈ (kind, set) :: rest ∧
          further.contains candidate = true) ↔
            ∃ further, (other, further) ∈ rest ∧ further.contains candidate = true) := by
        intro other apart
        simp only [List.mem_cons, Prod.mk.injEq, apart, false_and, false_or]
      cases kind with
      | valid =>
          rw [decision?, here, List.map_cons, List.find?_cons_of_pos (by simp)]
          by_cases listed : set.contains candidate = true <;> simp [listed]
      | allow =>
          have absent : ¬ ∃ further, (Listing.allow, further) ∈ rest ∧ further.contains candidate = true := by
            rintro ⟨further, later, -⟩
            exact fresh (List.mem_map.mpr ⟨_, later, rfl⟩)
          rw [decision?, here, there .valid (by decide), List.map_cons, List.find?_cons_of_pos (by simp)]
          by_cases listed : set.contains candidate = true
          · simp [listed]
          · rw [if_neg listed, ih further]
            simp [listed, absent]
      | invalid =>
          rw [decision?, there .valid (by decide), there .allow (by decide), List.map_cons,
            List.find?_cons_of_neg (by simp), ih further]

/-! ## Rules that come first -/

/-- A list of valid values settles the matter. -/
theorem vetBy_valid (set : ListedValues) (operating : Bool) (rest : List (Rule Checked)) :
    vetBy setting path (.listing .valid set operating :: rest) value =
      .done (.ok (if set.contains value then .pass value
        else setting.failed value (.ofRule Listing.valid.name path [("allowed", .array set.values)]))) := by
  rw [vetBy, Rule.attempt, Rule.judge, Listing.judge]
  split
  · rfl
  · simp only [Judging.fail, Run.done_bind, Rule.convert?, ite_self]

/-- A list of allowed values settles the matter for these. -/
theorem vetBy_allow (set : ListedValues) (operating : Bool) (rest : List (Rule Checked)) :
    vetBy setting path (.listing .allow set operating :: rest) value =
      if set.contains value then .done (.ok (.pass value)) else vetBy setting path rest value := by
  rw [vetBy, Rule.attempt, Rule.judge, Listing.judge]
  split <;> rfl

/-- A standard rule that comes after the lists of valid and of allowed values is no such list. -/
theorem Rule.invalid_of_priority {rule : Rule σ} (late : 0 < rule.priority) {page : Listing × ListedValues}
    (own : rule.page? = some page) : page.1 = .invalid := by
  cases rule with
  | listing kind set operating =>
      obtain rfl := Option.some.inj own
      cases kind with
      | invalid => rfl
      | valid | allow => exact absurd late (lt_irrefl 0)
  | _ => cases own

/-- The rules that come after the lists of valid and of allowed values. -/
def lateOnes (rules : List (Rule σ)) : List (Rule σ) :=
  rules.filter fun rule => 0 < rule.priority

/-- Where only such rules are left, no list decides. -/
theorem decision?_of_late (candidate : Value) {rules : List (Rule σ)} (late : ∀ rule ∈ rules, 0 < rule.priority) :
    decision? candidate (rules.filterMap Rule.page?) = none ∧ lateOnes rules = rules := by
  constructor
  · apply decision?_of_invalid
    intro page member
    obtain ⟨rule, listed, own⟩ := List.mem_filterMap.mp member
    exact Rule.invalid_of_priority (late rule listed) own
  · exact List.filter_eq_self.mpr (by simpa using late)

/-- An `optional` rule that is on comes before the lists of valid values. -/
def waives : List (Rule σ) → Bool
  | [] => false
  | .optional true :: _ => true
  | .listing .valid _ _ :: _ => false
  | _ :: rest => waives rest

/-- No rule behind the first tiers waives absent values. -/
theorem waives_of_late {rules : List (Rule σ)} (late : ∀ rule ∈ rules, 0 < rule.priority) : waives rules = false := by
  induction rules with
  | nil => rfl
  | cons rule rest ih =>
      obtain ⟨own, others⟩ := List.forall_mem_cons.mp late
      cases rule with
      | optional enabled => exact absurd own (lt_irrefl 0)
      | listing kind set operating => cases kind <;> first | exact ih others | exact absurd own (lt_irrefl 0)
      | _ => exact ih others

/-- **Lists come first.**  Before all other rules an absent value may be waived, and the lists of valid and of allowed
values decide, if they can. -/
theorem vetBy_eq_of_decision {rules : List (Rule Checked)}
    (standard : ∀ rule ∈ rules, rule.unwired ∈ Ruleset.standardRules)
    (rising : rules.Pairwise fun earlier later => earlier.priority ≤ later.priority) :
    vetBy setting path rules value =
      if !value.isPresent && waives rules then .done (.ok (.pass value))
      else (decision? value (rules.filterMap Rule.page?)).elim (vetBy setting path (lateOnes rules) value)
        fun decision => .done (.ok (decision.outcome setting path value)) := by
  induction rules with
  | nil => rw [waives, Bool.and_false, if_neg Bool.false_ne_true]; rfl
  | cons rule rest ih =>
      obtain ⟨least, further⟩ := List.pairwise_cons.mp rising
      by_cases late : 0 < rule.priority
      · have all : ∀ other ∈ rule :: rest, 0 < other.priority :=
          List.forall_mem_cons.mpr ⟨late, fun other member => late.trans_le (least other member)⟩
        obtain ⟨undecided, same⟩ := decision?_of_late value all
        rw [waives_of_late all, Bool.and_false, if_neg Bool.false_ne_true, undecided, same, Option.elim_none]
      · have others := ih (fun other member => standard other (List.mem_cons_of_mem _ member)) further
        have own := standard rule List.mem_cons_self
        have left : lateOnes (rule :: rest) = lateOnes rest := List.filter_cons_of_neg (by simpa using late)
        -- A rule that lets the value pass makes no difference on either side.
        have passing : rule.attempt setting path value = .done (value, .ok .pass) → rule.page? = none →
            (!value.isPresent && waives (rule :: rest)) = (!value.isPresent && waives rest) →
            vetBy setting path (rule :: rest) value =
              if !value.isPresent && waives (rule :: rest) then .done (.ok (.pass value))
              else (decision? value ((rule :: rest).filterMap Rule.page?)).elim
                (vetBy setting path (lateOnes (rule :: rest)) value)
                fun decision => .done (.ok (decision.outcome setting path value)) := by
          intro passes noList noWaiver
          rw [vetBy_cons_of_pass passes, others, left, List.filterMap_cons_none noList, noWaiver]
        cases rule with
        | standIn old operating => exact passing rfl rfl rfl
        | optional enabled =>
            cases present : value.isPresent with
            | true =>
                refine (passing ?_ rfl (by simp [present])).trans (by rw [present])
                simp [Rule.attempt, Rule.judge, Judging.say, present]
            | false =>
                cases enabled with
                | true =>
                    simp [vetBy, Rule.attempt, Rule.judge, Judging.say, present, waives]
                | false =>
                    refine (passing ?_ rfl rfl).trans (by rw [present])
                    simp [Rule.attempt, Rule.judge, Judging.say]
        | listing kind set operating =>
            rw [left, List.filterMap_cons_some (show (Rule.listing kind set operating).page? = _ from rfl)]
            cases kind with
            | valid =>
                rw [vetBy_valid, waives, Bool.and_false, if_neg Bool.false_ne_true, decision?, Option.elim_some]
                split <;> rfl
            | allow =>
                have noWaiver : waives (.listing .allow set operating :: rest) = waives rest := rfl
                rw [vetBy_allow, decision?, others, noWaiver]
                by_cases listed : set.contains value = true
                · simp [listed, Decision.outcome]
                · simp [listed]
            | invalid => exact absurd (show (0 : Int) < 100 by decide) late
        | declared declaration => exact absurd rfl (Rule.ne_declared_of_standard own declaration)
        | _ => exact absurd (show (0 : Int) < 100 by decide) late

/-- A stand-in that comes first has no say about a value that is there, and lets it pass like any other one. -/
theorem vetWith_of_standard (present : value.isPresent = true) {rules : List (Rule Checked)}
    (standard : ∀ rule ∈ rules, rule.unwired ∈ Ruleset.standardRules) :
    vetWith setting rules path value = vetBy setting path rules value := by
  rw [vetWith_of_isPresent present]
  cases rules with
  | nil => rfl
  | cons first rest =>
      have own := standard first List.mem_cons_self
      cases first with
      | standIn old operating => exact (vetBy_cons_of_pass rfl rest).symm
      | declared declaration => exact absurd rfl (Rule.ne_declared_of_standard own declaration)
      | _ => rfl

/-! ## Lists and calls -/

/-- By the notes the candidate counts as an eligible value that is not struck. -/
def Notes.Admits (notes : Notes) (candidate : Value) : Prop :=
  ∃ listed, notes.Eligible listed ∧ ¬ notes.Struck listed ∧ notes.Matches listed candidate

/-- The candidate equals an eligible value and no invalid one. -/
def Notes.Selects (notes : Notes) (candidate : Value) : Prop :=
  (∃ listed, notes.Eligible listed ∧ listed.same candidate = true) ∧
    ∀ listed ∈ notes.listed .invalid, listed.same candidate = false

namespace Notes

variable {notes : Notes} {listed : Value}

/-- What equals an invalid value is struck. -/
theorem struck_of_same {invalid : Value} (member : invalid ∈ notes.listed .invalid)
    (same : listed.same invalid = true) : notes.Struck listed := by
  obtain ⟨values, noted, inside⟩ := mem_listed.mp member
  obtain ⟨before, after, split⟩ := List.append_of_mem noted
  exact ⟨before, values, after, split, invalid, inside, .inl same⟩

/-- Where case matters, nothing else is struck. -/
theorem struck_iff_of_sensitive (sensitive : .insensitive ∉ notes) :
    notes.Struck listed ↔ ∃ invalid ∈ notes.listed .invalid, listed.same invalid = true := by
  constructor
  · rintro ⟨before, values, after, rfl, invalid, inside, same | ⟨ignoring, -⟩⟩
    · exact ⟨invalid, mem_listed.mpr ⟨values, List.mem_append_right _ List.mem_cons_self, inside⟩, same⟩
    · exact absurd (List.mem_append_left _ ignoring) sensitive
  · rintro ⟨invalid, member, same⟩
    exact struck_of_same member same

/-- Where case is not ignored, a candidate matches exactly what it is equal to. -/
theorem matches_iff_of_sensitive (sensitive : .insensitive ∉ notes) :
    notes.Matches listed candidate ↔ listed.same candidate = true :=
  or_iff_left fun ignoring => sensitive ignoring.1

/-- Where case matters, a value is admitted if it is among the valid ones and not among the invalid ones. -/
theorem admits_iff_selects (sensitive : .insensitive ∉ notes)
    (once : ∀ kind, ∀ listed ∈ notes.listed kind, listed.NamesOnce) :
    notes.Admits candidate ↔ notes.Selects candidate := by
  unfold Admits Selects
  simp only [struck_iff_of_sensitive sensitive, matches_iff_of_sensitive sensitive]
  constructor
  · rintro ⟨listed, eligible, safe, same⟩
    refine ⟨⟨listed, eligible, same⟩, fun invalid member => ?_⟩
    by_contra also
    have back := (once .invalid invalid member).same_symm (Bool.eq_true_of_not_eq_false also)
    exact safe ⟨invalid, member, Value.same_trans same back⟩
  · rintro ⟨⟨listed, eligible, same⟩, others⟩
    refine ⟨listed, eligible, ?_, same⟩
    rintro ⟨invalid, member, equal⟩
    have known : listed.NamesOnce := by
      rcases eligible with valid | ⟨-, allowed⟩
      · exact once .valid listed valid
      · exact once .allow listed allowed
    have also := Value.same_trans (known.same_symm equal) same
    exact Bool.false_ne_true ((others invalid member).symm.trans also)

end Notes

/-- The value fails by this rule and by no other one. -/
def Outcome.FailsOnlyBy (rule : String) (outcome : Outcome) : Prop :=
  ∃ report finding, outcome.report = some report ∧ report.findings = [finding] ∧ finding.rule = rule

/-- A value that fails for a rule fails by it alone. -/
theorem Setting.failsOnlyBy_failed (setting : Setting) (value : Value) (rule : String) (path : Path)
    (particulars : Context) : (setting.failed value (.ofRule rule path particulars)).FailsOnlyBy rule := by
  unfold failed
  cases setting.language <;> cases setting.traced <;> exact ⟨_, _, rfl, rfl, rfl⟩

/-- A book accepts what its notes admit. -/
theorem Book.decision?_arranged {notes : Notes} :
    decision? candidate (ofNotes notes.arranged).sets = some .accepted ↔ notes.Admits candidate := by
  have listed : ∀ kind, kind ≠ .invalid →
      ((∃ set, (kind, set) ∈ (ofNotes notes.arranged).sets ∧ set.contains candidate = true) ↔
        ∃ value, value ∈ notes.listed kind ∧ ¬ notes.Struck value ∧ notes.Matches value candidate) := by
    intro kind valid
    simp only [exists_set_contains, lists_arranged valid, relates_arranged, and_assoc]
  have once : ((ofNotes notes.arranged).sets.map Prod.fst).Nodup := by
    rw [kinds_sets]
    exact nodup_kinds_ofNotes
  rw [decision?_eq_accepted once, listed .valid (by decide), listed .allow (by decide), kinds_sets,
    find?_kinds_arranged, Notes.Admits]
  simp only [Notes.Eligible, or_and_right, exists_or, and_assoc, exists_and_left]

namespace Schema

variable {schema : Schema} {kept : List (Instance Schema)}

/-- What the calls say about listed values, in their order. -/
def notes (schema : Schema) : Notes :=
  (schema.ruleset.instances schema.calls).filterMap Instance.note?

/-- The lists of values among the rules are the book of the arranged notes. -/
theorem pages_rules (standard : schema.CallsStandard) (compiles : schema.rules = .ok kept) :
    Instance.pages kept = (Book.ofNotes schema.notes.arranged).sets := by
  obtain ⟨-, -, assembled⟩ := exists_of_bind_eq_ok compiles
  exact Instance.pages_assemble (Ruleset.fresh_of_mem_instances standard) assembled

/-- The rules of the schema as they judge a value. -/
def judging (setting : Setting) (kept : List (Instance Schema)) : List (Rule Checked) :=
  kept.map fun entry => entry.rule.map (checked setting)

/-- The rules judge the value after the schema is opened. -/
theorem vet_eq_of_rules (compiles : schema.rules = .ok kept) (setting : Setting) (path : Path) (value : Value) :
    schema.vet setting path value =
      .opening schema.handle (vetWith setting (judging setting kept) path value) := by
  obtain ⟨_, sound, assembled⟩ := exists_of_bind_eq_ok compiles
  rw [vet_eq, assembled]
  unfold check at sound
  cases error : schema.error with
  | some error =>
      rw [error] at sound
      cases sound
  | none => rfl

/-- Where only some rules are called, the rules of the schema are such rules before their wiring. -/
theorem allowed_of_rules {allowed : Blueprint → Prop} (here : schema.CallsOnly allowed)
    (standard : ∀ blueprint, allowed blueprint → blueprint ∈ Ruleset.standardRules)
    (compiles : schema.rules = .ok kept) : ∀ entry ∈ kept, allowed entry.rule.unwired := by
  obtain ⟨-, -, assembled⟩ := exists_of_bind_eq_ok compiles
  exact Ruleset.allowed_of_assemble here standard assembled

/-- All rules that judge are standard ones. -/
theorem standard_judging (standard : schema.CallsStandard) (compiles : schema.rules = .ok kept) (setting : Setting) :
    ∀ rule ∈ judging setting kept, rule.unwired ∈ Ruleset.standardRules := by
  intro rule member
  obtain ⟨entry, listed, rfl⟩ := List.mem_map.mp member
  rw [Rule.unwired_map]
  exact allowed_of_rules standard (fun _ known => known) compiles entry listed

/-- What comes before the late rules decides, or leaves the value to them. -/
theorem vetBy_judging (standard : schema.CallsStandard) (compiles : schema.rules = .ok kept) (setting : Setting)
    (path : Path) (value : Value) :
    vetBy setting path (judging setting kept) value =
      if !value.isPresent && waives (judging setting kept) then .done (.ok (.pass value))
      else (decision? value (Book.ofNotes schema.notes.arranged).sets).elim
        (vetBy setting path (lateOnes (judging setting kept)) value)
        fun decision => .done (.ok (decision.outcome setting path value)) := by
  have rising : (judging setting kept).Pairwise fun earlier later => earlier.priority ≤ later.priority := by
    obtain ⟨-, -, assembled⟩ := exists_of_bind_eq_ok compiles
    refine List.pairwise_map.mpr ((Instance.rising_assemble assembled).imp fun {earlier later} order => ?_)
    rw [Rule.priority_map, Rule.priority_map]
    exact order
  have pages : (judging setting kept).filterMap Rule.page? = (Book.ofNotes schema.notes.arranged).sets := by
    rw [← pages_rules standard compiles, judging, List.filterMap_map]
    exact List.filterMap_congr fun entry _ => Rule.page?_map _ _
  rw [vetBy_eq_of_decision (standard_judging standard compiles setting) rising, pages]

/-- What the lists do not decide is left to the late rules. -/
theorem vet_eq_of_decision (standard : schema.CallsStandard) (compiles : schema.rules = .ok kept)
    (present : value.isPresent = true) (setting : Setting) (path : Path) :
    schema.vet setting path value = .opening schema.handle
      ((decision? value (Book.ofNotes schema.notes.arranged).sets).elim
        (vetBy setting path (lateOnes (judging setting kept)) value)
        fun decision => .done (.ok (decision.outcome setting path value))) := by
  rw [vet_eq_of_rules compiles, vetWith_of_standard present (standard_judging standard compiles setting),
    vetBy_judging standard compiles, present]
  rfl

/-- A value that the notes admit passes as it is. -/
theorem vet_of_admits (standard : schema.CallsStandard) (compiles : schema.rules = .ok kept)
    (present : value.isPresent = true) (admits : schema.notes.Admits value) (setting : Setting) (path : Path) :
    (schema.vet setting path value).answer = .ok (.pass value) := by
  rw [vet_eq_of_decision standard compiles present, Book.decision?_arranged.mpr admits]
  rfl

/-! ### Valid values -/

/-- **Sets of values.**  Where some values are valid and the case of letters matters, a value that is there passes as it
is, or fails by the rule of valid values alone.  It passes if it equals a valid value, or an allowed one where these
are called for first, and equals no invalid value.  Objects have every name once. -/
theorem vet_of_valid (standard : schema.CallsStandard) (compiles : schema.rules = .ok kept)
    (valid : ∃ values, .listing .valid values ∈ schema.notes) (sensitive : .insensitive ∉ schema.notes)
    (once : ∀ kind, ∀ listed ∈ schema.notes.listed kind, listed.NamesOnce) (present : value.isPresent = true)
    (setting : Setting) (path : Path) :
    (schema.notes.Selects value → (schema.vet setting path value).answer = .ok (.pass value)) ∧
      (¬ schema.notes.Selects value → ∃ outcome, (schema.vet setting path value).answer = .ok outcome ∧
        outcome.value = value ∧ outcome.FailsOnlyBy "valid") := by
  rw [← Notes.admits_iff_selects sensitive once]
  refine ⟨fun admits => vet_of_admits standard compiles present admits setting path, fun rejects => ?_⟩
  have listed : Listing.valid ∈ (Book.ofNotes schema.notes.arranged).sets.map Prod.fst := by
    rw [Book.kinds_sets]
    exact Book.mem_kinds_arranged.mpr valid
  rw [vet_eq_of_decision standard compiles present]
  cases decided : decision? value (Book.ofNotes schema.notes.arranged).sets with
  | none => exact absurd (isSome_decision? listed) (by rw [decided]; exact Bool.false_ne_true)
  | some decision =>
      cases decision with
      | accepted => exact absurd (Book.decision?_arranged.mp decided) rejects
      | rejected allowed => exact ⟨_, rfl, rfl, setting.failsOnlyBy_failed ..⟩

/-- Valid and allowed values, one of which is invalid. -/
def ofLists : Schema :=
  .ofCalls 0 [(.listing .allow .empty false, [.value (.string "a")]), (.check .string, []),
    (.listing .valid .empty false, [.value (.string "b"), .value (.object [("x", .null), ("y", .null)])]),
    (.listing .invalid .empty false, [.value (.array [.string "b"])])]

/-- The schema has noted an allowed value, two valid ones and an invalid one. -/
theorem notes_ofLists : ofLists.notes = [.listing .allow [.string "a"],
    .listing .valid [.string "b", .object [("x", .null), ("y", .null)]], .listing .invalid [.string "b"]] :=
  rfl

/-- An equal object passes as it is, and the value that is valid and invalid fails. -/
theorem vet_of_valid_ofLists :
    (ofLists.vet ⟨true, false, none, ⟨0, 0⟩⟩ [] (.object [("y", .null), ("x", .null)])).answer =
        .ok (.pass (.object [("y", .null), ("x", .null)])) ∧
      ∃ outcome, (ofLists.vet ⟨true, false, none, ⟨0, 0⟩⟩ [] (.string "b")).answer = .ok outcome ∧
        outcome.value = .string "b" ∧ outcome.FailsOnlyBy "valid" := by
  have standard : ofLists.CallsStandard := callsOnly_ofCalls (by
    simp [Ruleset.standardRules, Ruleset.generalRules, Ruleset.stringRules, Ruleset.freshListing])
  obtain ⟨kept, compiles⟩ := exists_rules (show ofLists.rules.toOption.isSome = true by decide +kernel)
  have once : ∀ kind, ∀ listed ∈ ofLists.notes.listed kind, listed.NamesOnce := by
    have known : ∀ listed ∈ [Value.string "a", .string "b", .object [("x", .null), ("y", .null)]],
        listed.NamesOnce := by
      simp only [List.forall_mem_cons, List.not_mem_nil, false_implies, implies_true, and_true]
      refine ⟨.leaf ⟨rfl, rfl⟩, .leaf ⟨rfl, rfl⟩, .object (by decide) ?_⟩
      have null : Value.null.NamesOnce := .leaf ⟨rfl, rfl⟩
      simpa using null
    intro kind listed member
    apply known
    rw [notes_ofLists] at member
    cases kind <;> simp [Notes.listed, Note.values] at member ⊢ <;> tauto
  have sensitive : .insensitive ∉ ofLists.notes := by simp [notes_ofLists]
  have valid : ∃ values, .listing .valid values ∈ ofLists.notes :=
    ⟨_, by rw [notes_ofLists]; exact List.mem_cons_of_mem _ List.mem_cons_self⟩
  refine ⟨(vet_of_valid standard compiles valid sensitive once rfl _ _).1 ?_,
    (vet_of_valid standard compiles valid sensitive once rfl _ _).2 ?_⟩
  · refine ⟨⟨.object [("x", .null), ("y", .null)], .inl ?_, by decide +kernel⟩, ?_⟩
    · simp [notes_ofLists, Notes.listed, Note.values]
    · simpa [notes_ofLists, Notes.listed, Note.values] using show Value.same _ _ = false from rfl
  · rintro ⟨-, others⟩
    have own := others (.string "b") (by simp [notes_ofLists, Notes.listed, Note.values])
    exact absurd own (by decide +kernel)

end Schema

end Vetting
