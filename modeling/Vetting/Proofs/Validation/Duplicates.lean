import Mathlib.Data.List.Basic
import Vetting.Proofs.Ruleset.QualifiedNames
import Vetting.Proofs.Validation.Judging

/-!
# Items that occur twice

An array whose items have to be unique is turned down for the first item that counts as the same as an earlier one.
What counts as the same is said for each criterion (`Criterion.Related`): items that are deeply equal, or items with
equal members at the end of a dotted path, or items that a comparator relates, asked in their order.  Nothing else is
asked of the relation: it may be neither symmetric nor transitive nor reflexive (`Rule.judge_unique`).
-/

namespace Vetting

variable {setting : Setting} {path : Path} {items : List Value} {item : Value} {place : Nat}

/-! ## Members at the end of a path -/

namespace Value

/-- The path is written with dots between the names.  Names may be empty there, but these do not count. -/
def Dotted (path : String) (names : List String) : Prop :=
  ∃ parts : List String, parts ≠ [] ∧ (∀ part ∈ parts, Ruleset.Undotted part) ∧ path = ".".intercalate parts ∧
    names = parts.filter (· ≠ "")

/-- The value is no object that has a member of the name. -/
def Misses (value : Value) (name : String) : Prop :=
  ∀ members : Members Value, value = object members → members.get? name = none

/-- Where the names lead from a value, one member after the other: nothing is there once a member is missing. -/
inductive Leads : List String → Value → Value → Prop
  | here (value : Value) : Leads [] value value
  | member {name : String} {rest : List String} {members : Members Value} {member found : Value}
      (there : members.get? name = some member) (further : Leads rest member found) :
      Leads (name :: rest) (object members) found
  | missing {name : String} {rest : List String} {value : Value} (misses : value.Misses name) :
      Leads (name :: rest) value undefined

/-- The names lead to nothing: one of them is no name of a member where it is asked for. -/
inductive Lacks : List String → Value → Prop
  | here {name : String} {rest : List String} {value : Value} (misses : value.Misses name) : Lacks (name :: rest) value
  | further {name : String} {rest : List String} {members : Members Value} {member : Value}
      (there : members.get? name = some member) (lacks : Lacks rest member) : Lacks (name :: rest) (object members)

variable {value found : Value} {name : String} {names : List String}

/-- Names of which one is missing lead to nothing. -/
theorem Lacks.leads (lacks : value.Lacks names) : value.Leads names undefined := by
  induction lacks with
  | here misses => exact .missing misses
  | further there _ ih => exact .member there ih

/-- From a value the names lead to one place only. -/
theorem Leads.unique {other : Value} (leads : value.Leads names found) (also : value.Leads names other) :
    found = other := by
  induction leads with
  | here value =>
      cases also
      rfl
  | @member name rest members member _ there further ih =>
      cases also with
      | member known onward =>
          obtain rfl := Option.some.inj (there.symm.trans known)
          exact ih onward
      | missing misses => exact absurd (there.symm.trans (misses members rfl)) (Option.some_ne_none member)
  | missing misses =>
      cases also with
      | member known onward => exact absurd (known.symm.trans (misses _ rfl)) (Option.some_ne_none _)
      | missing _ => rfl

/-- Nothing has no members, so that every further name leads to nothing as well. -/
theorem foldl_get_undefined (names : List String) : names.foldl get undefined = undefined := by
  induction names with
  | nil => rfl
  | cons name rest ih => exact ih

/-- A value without a member of the name has nothing under it. -/
theorem get_of_misses (misses : value.Misses name) : value.get name = undefined := by
  cases value with
  | object members => rw [get, misses members rfl, Option.getD_none]
  | _ => rfl

/-- Looking one name up after the other goes where the names lead. -/
theorem leads_foldl_get (value : Value) (names : List String) : value.Leads names (names.foldl get value) := by
  induction names generalizing value with
  | nil => exact .here value
  | cons name rest ih =>
      rw [List.foldl_cons]
      by_cases misses : value.Misses name
      · rw [get_of_misses misses, foldl_get_undefined]
        exact .missing misses
      · obtain ⟨members, misses⟩ := Classical.not_forall.mp misses
        obtain ⟨rfl, there⟩ := Classical.not_imp.mp misses
        obtain ⟨member, known⟩ := Option.ne_none_iff_exists'.mp there
        rw [get, known, Option.getD_some]
        exact .member known (ih member)

/-- The names of a path are the pieces between its dots. -/
theorem Dotted.names_eq {path : String} (dotted : Dotted path names) :
    names = (Text.piecesOf '.' path).filter (· != "") := by
  obtain ⟨parts, some, undotted, rfl, rfl⟩ := dotted
  have split : Text.piecesOf '.' (".".intercalate parts) = parts := Ruleset.split_intercalate some undotted
  rw [split]
  exact List.filter_congr fun part _ => by rw [bne, decide_not, beq_eq_decide]

/-- Every path is written with dots between names. -/
theorem exists_dotted (path : String) : ∃ names, Dotted path names := by
  refine ⟨_, Ruleset.split path, ?_, fun part member => Ruleset.undotted_of_mem_split member,
    (Ruleset.intercalate_split path).symm, rfl⟩
  rw [Ruleset.split, Text.piecesOf]
  exact mt List.map_eq_nil_iff.mp (Text.pieces_ne_nil '.' _)

/-- Looking a path up goes where its names lead. -/
theorem Dotted.leads_lookup {path : String} (dotted : Dotted path names) (value : Value) :
    value.Leads names (value.lookup path) := by
  rw [lookup, ← dotted.names_eq]
  exact leads_foldl_get value names

end Value

/-! ## The first duplicate -/

namespace Criterion

variable {criterion : Criterion}

/-- The later item counts as the same as the earlier one: the two are equal, or their members at the end of a path
are, or the comparator, asked for the earlier one first, relates them. -/
inductive Related : Criterion → Value → Value → Prop
  | equality {earlier later : Value} (same : earlier.same later = true) : Related equality earlier later
  | member {path : String} {names : List String} {earlier later first second : Value}
      (dotted : Value.Dotted path names) (one : earlier.Leads names first) (two : later.Leads names second)
      (same : first.same second = true) : Related (member path) earlier later
  | comparator {judge : Comparator} {earlier later : Value} (related : judge.relation earlier later = true) :
      Related (comparator judge) earlier later

/-- The search asks what the criterion says. -/
theorem relates_iff {earlier later : Value} : criterion.relates earlier later = true ↔ criterion.Related earlier later := by
  constructor
  · intro relates
    cases criterion with
    | equality => exact .equality relates
    | member path =>
        obtain ⟨names, dotted⟩ := Value.exists_dotted path
        exact .member dotted (dotted.leads_lookup earlier) (dotted.leads_lookup later) relates
    | comparator judge => exact .comparator relates
  · intro related
    cases related with
    | equality same => exact same
    | member dotted one two same =>
        rwa [relates, (dotted.leads_lookup earlier).unique one, (dotted.leads_lookup later).unique two]
    | comparator related => exact related

/-- The item at the second place counts as the same as the one at the first place, which comes before it. -/
def Repeats (criterion : Criterion) (items : List Value) (first second : Nat) : Prop :=
  first < second ∧ ∃ earlier later, items[first]? = some earlier ∧ items[second]? = some later ∧
    criterion.Related earlier later

/-- The item at the place counts as the same as an earlier one, and none before it does. -/
structure FirstDuplicate (criterion : Criterion) (items : List Value) (place : Nat) (item : Value) : Prop where
  found : items[place]? = some item
  repeats : ∃ first, criterion.Repeats items first place
  least : ∀ first second, criterion.Repeats items first second → place ≤ second

/-- The search behind one item. -/
theorem any_take_iff (found : items[place]? = some item) :
    ((items.take place).any fun earlier => criterion.relates earlier item) = true ↔
      ∃ first, criterion.Repeats items first place := by
  rw [List.any_eq_true]
  constructor
  · rintro ⟨earlier, member, related⟩
    obtain ⟨first, there⟩ := List.getElem?_of_mem member
    rw [List.getElem?_take] at there
    split at there
    next before => exact ⟨first, before, earlier, item, there, found, relates_iff.mp related⟩
    · cases there
  · rintro ⟨first, before, earlier, later, there, same, related⟩
    obtain rfl := Option.some.inj (found.symm.trans same)
    refine ⟨earlier, List.mem_of_getElem? (i := first) ?_, relates_iff.mpr related⟩
    rw [List.getElem?_take, if_pos before, there]

/-- Nothing is found exactly if no item repeats an earlier one. -/
theorem duplicate?_eq_none_iff :
    criterion.duplicate? items = none ↔ ∀ first second, ¬ criterion.Repeats items first second := by
  rw [duplicate?, Option.map_eq_none_iff, List.find?_eq_none]
  constructor
  · intro none first second repeats
    obtain ⟨_, -, later, -, found, -⟩ := id repeats
    exact none (later, second) (List.mem_zipIdx_iff_getElem?.mpr found) ((any_take_iff found).mpr ⟨first, repeats⟩)
  · rintro none ⟨item, place⟩ member found
    obtain ⟨first, repeats⟩ := (any_take_iff (List.mem_zipIdx_iff_getElem?.mp member)).mp found
    exact none first place repeats

/-- What is found is the first duplicate. -/
theorem firstDuplicate_of_duplicate? (found : criterion.duplicate? items = some (place, item)) :
    criterion.FirstDuplicate items place item := by
  obtain ⟨⟨other, index⟩, chosen, same⟩ := Option.map_eq_some_iff.mp found
  obtain ⟨rfl, rfl⟩ := Prod.mk.inj same
  obtain ⟨related, position, within, entry, before⟩ := List.find?_eq_some_iff_getElem.mp chosen
  rw [List.getElem_zipIdx] at entry
  obtain ⟨own, rfl⟩ := Prod.mk.inj entry
  rw [List.length_zipIdx] at within
  have there : items[0 + position]? = some other := by
    rw [Nat.zero_add, List.getElem?_eq_getElem within, own]
  refine ⟨there, (any_take_iff there).mp related, fun first second repeats => ?_⟩
  by_contra earlier
  obtain ⟨-, -, later, -, stands, -⟩ := id repeats
  have missed := before second (by omega)
  rw [List.getElem_zipIdx, Nat.zero_add, (List.getElem?_eq_some_iff.mp stands).2] at missed
  rw [Bool.not_eq_true', Bool.eq_false_iff] at missed
  exact missed ((any_take_iff stands).mpr ⟨first, repeats⟩)

/-- There is only one first duplicate. -/
theorem FirstDuplicate.unique {other : Nat} {rival : Value} (duplicate : criterion.FirstDuplicate items place item)
    (again : criterion.FirstDuplicate items other rival) : place = other ∧ item = rival := by
  obtain ⟨first, repeats⟩ := duplicate.repeats
  obtain ⟨second, repeated⟩ := again.repeats
  obtain rfl := Nat.le_antisymm (duplicate.least second other repeated) (again.least first place repeats)
  exact ⟨rfl, Option.some.inj (duplicate.found.symm.trans again.found)⟩

/-- The first duplicate is found, and nothing else. -/
theorem duplicate?_eq_some_iff :
    criterion.duplicate? items = some (place, item) ↔ criterion.FirstDuplicate items place item := by
  refine ⟨firstDuplicate_of_duplicate?, fun duplicate => ?_⟩
  cases found : criterion.duplicate? items with
  | none =>
      obtain ⟨first, repeats⟩ := duplicate.repeats
      exact absurd repeats (duplicate?_eq_none_iff.mp found first place)
  | some chosen =>
      obtain ⟨rfl, rfl⟩ := duplicate.unique (firstDuplicate_of_duplicate? found)
      rfl

/-- Without a duplicate the array passes. -/
theorem judge_of_no_duplicate (none : criterion.duplicate? items = none) :
    criterion.judge path (.array items) = .say .pass := by
  rw [judge, Value.asItems?]
  simp only [none]

/-- With a duplicate the array is turned down, and the duplicate is reported with its place. -/
theorem judge_of_duplicate (found : criterion.duplicate? items = some (place, item)) :
    criterion.judge path (.array items) = .fail path "array.unique"
      [("violator", .object [("value", item), ("index", .number (Float.ofNat place))])] := by
  rw [judge, Value.asItems?]
  simp only [found]
  rfl

end Criterion

/-- **The first duplicate.**  An array passes exactly if no item counts as the same as an earlier one.  Otherwise the
first such item is reported, with its place.  Where a path inside the items decides, items without such a member count
as the same. -/
theorem Rule.judge_unique (setting : Setting) (path : Path) (criterion : Criterion) (items : List Value) :
    (∀ verdict, ((unique criterion).judge setting path (.array items)).answer = .ok verdict ↔
      verdict = .pass ∧ ∀ first second, ¬ criterion.Repeats items first second) ∧
    (∀ fault, ((unique criterion).judge setting path (.array items)).answer = .error fault ↔
      ∃ place item, criterion.FirstDuplicate items place item ∧
        fault = .invalid (.ofRule "array.unique" path
          [("violator", .object [("value", item), ("index", .number (Float.ofNat place))])])) ∧
    ∀ (key : String) (names : List String), Value.Dotted key names →
      ∀ earlier later : Value, earlier.Lacks names → later.Lacks names →
        (Criterion.member key).Related earlier later := by
  refine ⟨fun verdict => ?_, fun fault => ?_, fun key names dotted earlier later lacks alsoLacks => ?_⟩
  · rw [judge, ← Criterion.duplicate?_eq_none_iff]
    cases found : criterion.duplicate? items with
    | none =>
        rw [Criterion.judge_of_no_duplicate found]
        exact ⟨fun said => ⟨(Except.ok.inj said).symm, rfl⟩, fun both => congrArg Except.ok both.1.symm⟩
    | some chosen =>
        rw [Criterion.judge_of_duplicate found]
        refine iff_of_false (fun said => ?_) fun both => Option.some_ne_none chosen both.2
        cases said
  · rw [judge]
    simp only [← Criterion.duplicate?_eq_some_iff]
    cases found : criterion.duplicate? items with
    | none =>
        rw [Criterion.judge_of_no_duplicate found]
        refine iff_of_false (fun said => ?_) ?_
        · cases said
        · rintro ⟨place, item, same, -⟩
          cases same
    | some chosen =>
        rw [Criterion.judge_of_duplicate found]
        refine ⟨fun failed => ⟨chosen.1, chosen.2, rfl, (Except.error.inj failed).symm⟩, ?_⟩
        rintro ⟨place, item, same, rfl⟩
        obtain rfl := Option.some.inj same
        rfl
  · exact .member dotted lacks.leads alsoLacks.leads rfl

/-- Something with an owner, something without one, and nothing at all. -/
def Value.ofOwners : List Value :=
  [.object [("owner", .object [("name", .string "a")])], .object [("owner", .null)], .null]

/-- The last two have no owner with a name. -/
theorem Rule.judge_unique_ofOwners :
    ((unique (.member "owner.name")).judge ⟨true, false, none, ⟨0, 0⟩⟩ [] (.array Value.ofOwners)).answer =
        .error (.invalid (.ofRule "array.unique" []
          [("violator", .object [("value", .null), ("index", .number (Float.ofNat 2))])])) ∧
      (Criterion.member "owner.name").Related (.object [("owner", .null)]) .null := by
  obtain ⟨-, fails, members⟩ := judge_unique ⟨true, false, none, ⟨0, 0⟩⟩ [] (.member "owner.name") Value.ofOwners
  have dotted : Value.Dotted "owner.name" ["owner", "name"] := by
    refine ⟨["owner", "name"], List.cons_ne_nil _ _, ?_, by decide +kernel, by decide +kernel⟩
    unfold Ruleset.Undotted
    decide +kernel
  refine ⟨(fails _).mpr ⟨2, .null, Criterion.duplicate?_eq_some_iff.mp rfl, rfl⟩, members "owner.name" _ dotted _ _ ?_ ?_⟩
  · refine .further rfl (.here ?_)
    exact fun members other => nomatch other
  · refine .here ?_
    exact fun members other => nomatch other

end Vetting
