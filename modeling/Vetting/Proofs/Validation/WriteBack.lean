import Vetting.Proofs.Run.Deciding
import Vetting.Proofs.Validation.Survey

/-!
# Writing accepted values back

Where conversion is on, a rule over the parts of a value brings the value made anew of what the schemas inside accept.
Members keep their places: accepted values that are there take the places of old ones, and the rest stand behind, in the
order of the keys (`writeBack_eq_updated`).  An array has the accepted values at the places of its items.  So nothing is
lost and nothing moves (`Rule.writesBack`).
-/

namespace Vetting

variable {setting : Setting} {path : Path} {members : Members Value}

/-! ## Objects -/

section Objects

variable {accepted rest : Members Value} {name : String} {value : Value}

/-- The accepted value of that name, if it is there. -/
def replacement? (accepted : Members Value) (name : String) : Option Value :=
  (accepted.get? name).filter Value.isPresent

/-- The accepted values that are there and have no place in the object yet. -/
def newcomers (members accepted : Members Value) : Members Value :=
  accepted.filter fun (name, value) => value.isPresent && !members.has name

/-- The object with accepted values: its members in their places, replaced or as they were, and behind them the new
ones. -/
def updated (members accepted : Members Value) : Members Value :=
  (members.map fun (name, old) => (name, (replacement? accepted name).getD old)) ++ newcomers members accepted

/-- A member that has not been accepted is not replaced. -/
theorem replacement?_of_not_mem (absent : name ∉ accepted.names) : replacement? accepted name = none := by
  have nothing : accepted.get? name = none := by
    rw [← Option.not_isSome_iff_eq_none]
    exact fun there => absent (Members.has_iff_mem_names.mp there)
  rw [replacement?, nothing]
  rfl

/-- An accepted member replaces the one of its name, if it is there. -/
theorem replacement?_cons_self : replacement? ((name, value) :: rest) name = (some value).filter Value.isPresent := by
  rw [replacement?, Members.get?, if_pos rfl]

/-- A member of another name does not replace it. -/
theorem replacement?_cons_of_ne {other : String} (apart : other ≠ name) :
    replacement? ((name, value) :: rest) other = replacement? rest other := by
  rw [replacement?, Members.get?, if_neg (Ne.symm apart), replacement?]

/-- What is not there changes nothing. -/
theorem updated_cons_of_absent (absent : value.isPresent = false) (apart : name ∉ rest.names) :
    updated members ((name, value) :: rest) = updated members rest := by
  have same : replacement? ((name, value) :: rest) = replacement? rest := by
    funext asked
    by_cases own : asked = name
    · rw [own, replacement?_cons_self, replacement?_of_not_mem apart, Option.filter_some, absent]
      rfl
    · exact replacement?_cons_of_ne own
  simp only [updated, newcomers, same, List.filter_cons, absent, Bool.false_and, Bool.false_eq_true, ↓reduceIte]

/-- What is there is put in its place, or behind the members. -/
theorem updated_cons_of_present (present : value.isPresent = true) (distinct : members.names.Nodup)
    (apart : name ∉ rest.names) :
    updated members ((name, value) :: rest) = updated (members.put name value) rest := by
  have own : replacement? ((name, value) :: rest) name = some value := by
    rw [replacement?_cons_self, Option.filter_some, present]
    rfl
  have others : newcomers (members.put name value) rest = newcomers members rest := by
    refine List.filter_congr fun entry inside => ?_
    have foreign : entry.1 ≠ name := fun same => apart (List.mem_map.mpr ⟨entry, inside, same⟩)
    simp only [Members.has, Members.get?_put, foreign, ↓reduceIte]
  cases there : members.has name with
  | true =>
      have front : ∀ entry ∈ members, (entry.1, (replacement? ((name, value) :: rest) entry.1).getD entry.2) =
          (entry.1, (replacement? rest entry.1).getD (if entry.1 = name then value else entry.2)) := by
        intro entry _
        by_cases same : entry.1 = name
        · rw [same, own, replacement?_of_not_mem apart, if_pos rfl, Option.getD_none, Option.getD_some]
        · rw [replacement?_cons_of_ne same, if_neg same]
      rw [updated, updated, others, Members.put_eq_map distinct there, List.map_map, List.map_congr_left front]
      simp only [newcomers, List.filter_cons, present, there, Bool.not_true, Bool.and_false, Bool.false_eq_true,
        ↓reduceIte]
      rfl
  | false =>
      have front : ∀ entry ∈ members, (entry.1, (replacement? ((name, value) :: rest) entry.1).getD entry.2) =
          (entry.1, (replacement? rest entry.1).getD entry.2) := by
        intro entry inside
        have foreign : entry.1 ≠ name := fun same => by
          cases there.symm.trans (Members.has_iff_mem_names.mpr (List.mem_map.mpr ⟨entry, inside, same⟩))
        rw [replacement?_cons_of_ne foreign]
      rw [updated, updated, others, Members.put_eq_append there, List.map_append, List.map_congr_left front,
        List.append_assoc]
      simp only [newcomers, List.filter_cons, present, there, Bool.not_false, Bool.and_true, ↓reduceIte, List.map_cons,
        List.map_nil, replacement?_of_not_mem apart, Option.getD_none, List.singleton_append]

/-- Without accepted members an object stays as it is. -/
theorem updated_nil (members : Members Value) : updated members [] = members := by
  simp only [updated, newcomers, replacement?, Members.get?_nil, Option.filter_none, Option.getD_none, List.map_id',
    List.filter_nil, List.append_nil]

/-- Accepted members of different names are written back in their places, or behind the members that are there. -/
theorem writeBack_eq_updated (distinct : members.names.Nodup) (apart : accepted.names.Nodup) :
    writeBack members accepted = updated members accepted := by
  induction accepted generalizing members with
  | nil => exact (updated_nil members).symm
  | cons head rest ih =>
      obtain ⟨name, value⟩ := head
      obtain ⟨own, further⟩ := List.nodup_cons.mp apart
      cases present : value.isPresent with
      | true =>
          rw [updated_cons_of_present present distinct own, ← ih (Members.nodup_names_put distinct name value) further]
          simp only [writeBack, List.foldl_cons, present, ↓reduceIte]
      | false =>
          rw [updated_cons_of_absent present own, ← ih distinct further]
          simp only [writeBack, List.foldl_cons, present, Bool.false_eq_true, ↓reduceIte]

end Objects

/-! ## Key maps -/

/-- What the schema of a key says of the member of that name, which may be absent. -/
def Checked.acceptMember (schema : Checked) (path : Path) (members : Members Value) (name : String) :
    Run (Except Fault Value) :=
  schema.accept (path.key name) ((members.get? name).getD .undefined)

namespace KeyRule

/-- What the schemas of the keys say, in the order of the keys. -/
def checks (rule : KeyRule Checked) (path : Path) (members : Members Value) : List (Run (Except Fault Value)) :=
  rule.keys.map fun (name, schema) => schema.acceptMember path members name

/-- The values that the schemas of the keys accept, in the order of the keys. -/
def accepted (rule : KeyRule Checked) (path : Path) (members : Members Value) : Members Value :=
  rule.keys.filterMap fun (name, schema) =>
    (schema.acceptMember path members name).answer.toOption.map fun value => (name, value)

/-- What a key map makes of an object that has no strangers for it. -/
structure WritesBack (rule : KeyRule Checked) (setting : Setting) (path : Path) (members : Members Value) : Prop where
  /-- It passes exactly if every key is accepted, and brings the object with the accepted values. -/
  passes : ∀ verdict, ((Rule.keys rule).judge setting path (.object members)).answer = .ok verdict ↔
    (∀ name schema, (name, schema) ∈ rule.keys → (schema.acceptMember path members name).Succeeds) ∧
      verdict = .replace (.object (updated members (rule.accepted path members)))
  /-- Otherwise the failure of the first key that fails comes out. -/
  fails : ∀ fault, ((Rule.keys rule).judge setting path (.object members)).answer = .error fault →
    ∃ before name schema after, rule.keys = before ++ (name, schema) :: after ∧
      (schema.acceptMember path members name).answer = .error fault ∧
      ∀ other earlier, (other, earlier) ∈ before → (earlier.acceptMember path members other).Succeeds

variable {rule : KeyRule Checked}

/-- An object without strangers comes to what its checks come to, written back. -/
theorem answer_judge_of_no_stranger (converts : setting.convert = true) (known : rule.stranger? members = none) :
    ((Rule.keys rule).judge setting path (.object members)).answer =
      (Run.allPass (rule.checks path members)).answer.map fun values =>
        .replace (.object (writeBack members ((Members.names rule.keys).zip values))) := by
  simp only [Rule.judge, judge, Value.asMembers?, known, judgeMembers, Judging.answer_ofParts, converts, ↓reduceIte]
  rfl

/-- If all checks succeed, they come to values. -/
theorem exists_values (succeed : ∀ check ∈ rule.checks path members, check.Succeeds) :
    ∃ values : List Value, (rule.checks path members).map Run.answer = values.map .ok := by
  have lifted : (rule.checks path members).map Run.answer ∈ Set.range (List.map Except.ok) := by
    rw [Set.range_list_map]
    intro answer member
    obtain ⟨check, given, rfl⟩ := List.mem_map.mp member
    obtain ⟨value, passed⟩ := succeed check given
    exact ⟨value, passed.symm⟩
  obtain ⟨values, all⟩ := lifted
  exact ⟨values, all.symm⟩

section Accepted

variable {values : List Value} (all : (rule.checks path members).map Run.answer = values.map .ok)

include all

/-- Checks that come to values have succeeded. -/
theorem succeeds_of_answers : ∀ check ∈ rule.checks path members, check.Succeeds := by
  intro check given
  obtain ⟨value, -, same⟩ := List.mem_map.mp (all ▸ List.mem_map_of_mem given)
  exact ⟨value, same.symm⟩

/-- Where all keys are accepted, the accepted values go by the names of the keys. -/
theorem accepted_eq_zip : rule.accepted path members = (Members.names rule.keys).zip values := by
  unfold accepted
  unfold checks at all
  generalize rule.keys = keys at all ⊢
  induction keys generalizing values with
  | nil => rfl
  | cons key rest ih =>
      obtain ⟨name, schema⟩ := key
      cases values with
      | nil => cases all
      | cons value values =>
          obtain ⟨own, further⟩ := List.cons.inj all
          simp only [List.filterMap_cons, own]
          rw [ih further]
          rfl

/-- What the checks accept is written back in its places, and behind them if it is new. -/
theorem writeBack_accepted (declared : (Members.names rule.keys).Nodup) (distinct : members.names.Nodup) :
    writeBack members ((Members.names rule.keys).zip values) = updated members (rule.accepted path members) := by
  have length : (Members.names rule.keys).length = values.length := by
    simpa only [checks, Members.names, List.length_map] using congrArg List.length all
  rw [accepted_eq_zip all]
  refine writeBack_eq_updated distinct ?_
  rwa [Members.names, List.map_fst_zip (Nat.le_of_eq length)]

end Accepted

/-- A key map that has no stranger among the members passes exactly if every key is accepted, and brings the object with
the accepted values.  Where no schema pauses, it fails with the first key that fails. -/
theorem writesBack_of_no_stranger (converts : setting.convert = true) (declared : (Members.names rule.keys).Nodup)
    (distinct : members.names.Nodup) (known : rule.stranger? members = none)
    (steady : ∀ check ∈ rule.checks path members, check.pauses = 0) : rule.WritesBack setting path members := by
  constructor
  · intro verdict
    rw [answer_judge_of_no_stranger converts known]
    constructor
    · intro passed
      obtain ⟨values, joined, rfl⟩ := Rule.exists_of_map_eq_ok passed
      have all := Run.allPass_answer_eq_ok_iff.mp joined
      refine ⟨fun name schema key => succeeds_of_answers all _ (List.mem_map_of_mem key), ?_⟩
      rw [writeBack_accepted all declared distinct]
    · rintro ⟨succeed, rfl⟩
      have each : ∀ check ∈ rule.checks path members, check.Succeeds := by
        intro check given
        obtain ⟨⟨name, schema⟩, key, rfl⟩ := List.mem_map.mp given
        exact succeed name schema key
      obtain ⟨values, all⟩ := exists_values each
      rw [Run.allPass_answer_eq_ok_iff.mpr all, Except.map, writeBack_accepted all declared distinct]
  · intro fault failed
    rw [answer_judge_of_no_stranger converts known] at failed
    cases joined : (Run.allPass (rule.checks path members)).answer with
    | ok values =>
        rw [joined] at failed
        cases failed
    | error found =>
        rw [joined] at failed
        obtain rfl := Except.error.inj failed
        obtain ⟨_, _, _, split, fails, earlier⟩ := Run.exists_first_of_allPass steady joined
        obtain ⟨before, rest, keys, rfl, others⟩ := List.map_eq_append_iff.mp split
        obtain ⟨⟨name, schema⟩, after, rfl, rfl, -⟩ := List.map_eq_cons_iff.mp others
        exact ⟨before, name, schema, after, keys, fails, fun other _ key => earlier _ (List.mem_map_of_mem key)⟩

end KeyRule

/-! ## Items -/

namespace Rule

/-- The schema for the item at a place, if the rule judges item by item. -/
def partAt? {σ : Type} : Rule σ → Nat → Option σ
  | items part?, _ => part?
  | ordered parts, place => parts[place]?
  | _, _ => none

/-- All items are accepted by their schemas, and the rule brings the array of the accepted values. -/
def WritesItems (rule : Rule Checked) (path : Path) (value : Value) (verdict : Verdict) : Prop :=
  ∃ items accepted, value = .array items ∧ verdict = .replace (.array accepted) ∧ accepted.length = items.length ∧
    ∀ place item, items[place]? = some item → ∃ part result, rule.partAt? place = some part ∧
      (part.accept (path.index place) item).answer = .ok result ∧ accepted[place]? = some result

end Rule

/-- Items that pass are accepted one by one, each at its place. -/
theorem accepted_of_judgeItems (converts : setting.convert = true) {pairs : List (Value × Checked)} {verdict : Verdict}
    (passed : (judgeItems setting path pairs).answer = .ok verdict) :
    ∃ accepted, verdict = .replace (.array accepted) ∧ accepted.length = pairs.length ∧
      ∀ (place : Nat) (item : Value) (part : Checked), pairs[place]? = some (item, part) →
        ∃ result, (part.accept (path.index place) item).answer = .ok result ∧ accepted[place]? = some result := by
  obtain ⟨accepted, all, -, same⟩ := Judging.accepted_of_ofParts passed
  rw [if_pos converts] at same
  refine ⟨accepted, same, ?_, fun place item part found => ?_⟩
  · simpa only [List.length_map, List.length_zipIdx] using (congrArg List.length all).symm
  · have there := congrArg (·[place]?) all
    simp only [List.getElem?_map, List.getElem?_zipIdx, found, Option.map_some, Nat.zero_add] at there
    obtain ⟨result, given, answered⟩ := Option.map_eq_some_iff.mp there.symm
    exact ⟨result, answered.symm, given⟩

namespace Rule

/-- The rule `items` writes back what its schema accepts of each item. -/
theorem writesItems_items (converts : setting.convert = true) {part : Checked} {value : Value} {verdict : Verdict}
    (passed : ((items (some part)).judge setting path value).answer = .ok verdict) :
    (items (some part)).WritesItems path value verdict := by
  rw [judge, judgeEach] at passed
  split at passed
  · cases passed
  next entries found =>
    obtain ⟨accepted, same, length, each⟩ := accepted_of_judgeItems converts passed
    refine ⟨entries, accepted, Value.asItems?_eq_some_iff.mp found, same, length.trans (List.length_map _), fun place item there => ?_⟩
    obtain ⟨result, said, given⟩ := each place item part (by rw [List.getElem?_map, there]; rfl)
    exact ⟨part, result, rfl, said, given⟩

/-- The rule `ordered` writes back what each schema accepts of its item. -/
theorem writesItems_ordered (converts : setting.convert = true) {parts : List Checked} {value : Value}
    {verdict : Verdict} (passed : ((ordered parts).judge setting path value).answer = .ok verdict) :
    (ordered parts).WritesItems path value verdict := by
  rw [judge, judgeOrdered] at passed
  split at passed
  · cases passed
  next entries found =>
    split at passed
    next fits =>
      obtain ⟨accepted, same, length, each⟩ := accepted_of_judgeItems converts passed
      rw [List.length_zip, ← fits, Nat.min_self] at length
      refine ⟨entries, accepted, Value.asItems?_eq_some_iff.mp found, same, length, fun place item there => ?_⟩
      have within : place < parts.length := fits ▸ (List.getElem?_eq_some_iff.mp there).1
      obtain ⟨result, said, given⟩ := each place item parts[place]
        (List.getElem?_zip_eq_some.mpr ⟨there, List.getElem?_eq_getElem within⟩)
      exact ⟨parts[place], result, List.getElem?_eq_getElem within, said, given⟩
    · cases passed

/-- **Accepted values are written back.**  With conversion a key map that turns no member away passes exactly if the
schemas of all keys accept, and fails as the first one that does not, where none of them pauses.  It brings all members
in their places, those of the keys as they are accepted if that is there, and behind them the absent ones that come to
be there.  A rule over items that passes brings an array of the same length, each item as it is accepted. -/
theorem writesBack (converts : setting.convert = true) (path : Path) :
    (∀ (rule : KeyRule Checked) (members : Members Value), (Members.names rule.keys).Nodup → members.names.Nodup →
      rule.stranger? members = none → (∀ check ∈ rule.checks path members, check.pauses = 0) →
        rule.WritesBack setting path members) ∧
      ∀ (rule : Rule Checked) (value : Value) (verdict : Verdict),
        (∃ part, rule = items (some part)) ∨ (∃ parts, rule = ordered parts) →
          (rule.judge setting path value).answer = .ok verdict → rule.WritesItems path value verdict := by
  refine ⟨fun rule members declared distinct known steady =>
    KeyRule.writesBack_of_no_stranger converts declared distinct known steady, fun rule value verdict sort passed => ?_⟩
  rcases sort with ⟨part, rfl⟩ | ⟨parts, rfl⟩
  · exact writesItems_items converts passed
  · exact writesItems_ordered converts passed

end Rule

/-- A text, and one that another text stands in for. -/
def KeyRule.ofTexts (setting : Setting) : KeyRule Checked where
  keys := [("a", Schema.ofText.checked setting), ("b", Schema.ofStandIn.checked setting)]
  patterns := []
  allowsUnknown := true
  operating := true

/-- The member that nobody declares is left as it is, and the text that stands in comes behind; in an array it takes the
place of the hole. -/
theorem Rule.writesBack_ofTexts :
    ((keys (.ofTexts ⟨true, false, none, ⟨0, 0⟩⟩)).judge ⟨true, false, none, ⟨0, 0⟩⟩ []
        (.object [("z", .null), ("a", .string "y")])).answer =
        .ok (.replace (.object [("z", .null), ("a", .string "y"), ("b", .string "x")])) ∧
      (ordered ((KeyRule.ofTexts ⟨true, false, none, ⟨0, 0⟩⟩).keys.map Prod.snd)).WritesItems []
        (.array [.string "y", .undefined]) (.replace (.array [.string "y", .string "x"])) := by
  obtain ⟨keyed, listed⟩ := @writesBack ⟨true, false, none, ⟨0, 0⟩⟩ rfl []
  have written := keyed (.ofTexts ⟨true, false, none, ⟨0, 0⟩⟩) [("z", .null), ("a", .string "y")]
    (by decide) (by decide) rfl (by decide +kernel)
  have all : ((KeyRule.ofTexts ⟨true, false, none, ⟨0, 0⟩⟩).checks []
      [("z", .null), ("a", .string "y")]).map Run.answer = [Value.string "y", .string "x"].map .ok := rfl
  refine ⟨(written.passes _).mpr ⟨fun name schema key => ?_, rfl⟩, listed _ _ _ (.inr ⟨_, rfl⟩) ?_⟩
  · exact KeyRule.succeeds_of_answers all _ (List.mem_map_of_mem key)
  · refine (Judging.answer_ofParts _ _ _).trans ?_
    rw [Run.allPass_answer_eq_ok_iff.mpr (show _ = [Value.string "y", .string "x"].map Except.ok from rfl)]
    rfl

end Vetting
