import Vetting.Proofs.Value.Equality

/-!
# Equality as a partial equivalence

Where no object has a name twice, deep equality is symmetric and transitive, and a value is equal to itself unless there
is a NaN somewhere in it (`Value.isPartialEquality`).  It sees nothing of the order in which objects have their members:
at whatever depth members are moved, a value stays equal to the values that it was equal to
(`Value.Reorders.same_left`, `Value.Reorders.same_right`).
-/

namespace Vetting

/-- A test that is symmetric among proper things and transitive, and that a proper thing passes with itself exactly if it
is regular. -/
structure IsPartialEquality {α : Type} (test : α → α → Bool) (proper regular : α → Prop) : Prop where
  symm : ∀ {left right : α}, proper left → test left right = true → test right left = true
  trans : ∀ {first second third : α}, test first second = true → test second third = true → test first third = true
  refl_iff : ∀ {thing : α}, proper thing → (test thing thing = true ↔ regular thing)

namespace Value

/-! ## NaN inside a value -/

/-- The value is a NaN, or has one somewhere inside. -/
inductive HoldsNaN : Value → Prop where
  | number {n : Float} (isNaN : n.isNaN = true) : HoldsNaN (.number n)
  | item {items : List Value} {item : Value} (listed : item ∈ items) (inside : HoldsNaN item) : HoldsNaN (.array items)
  | member {members : Members Value} {entry : String × Value} (listed : entry ∈ members) (inside : HoldsNaN entry.2) :
    HoldsNaN (.object members)

/-- A number holds a NaN if it is one. -/
theorem holdsNaN_number_iff {n : Float} : (number n).HoldsNaN ↔ n.isNaN = true := by
  constructor
  · intro holds
    cases holds with
    | number isNaN => exact isNaN
  · exact .number

/-- An array holds a NaN if one of its items does. -/
theorem holdsNaN_array_iff {items : List Value} : (array items).HoldsNaN ↔ ∃ item ∈ items, item.HoldsNaN := by
  constructor
  · intro holds
    cases holds with
    | item listed inside => exact ⟨_, listed, inside⟩
  · intro some
    obtain ⟨item, listed, inside⟩ := some
    exact .item listed inside

/-- An object holds a NaN if one of its members does. -/
theorem holdsNaN_object_iff {members : Members Value} :
    (object members).HoldsNaN ↔ ∃ entry ∈ members, entry.2.HoldsNaN := by
  constructor
  · intro holds
    cases holds with
    | member listed inside => exact ⟨_, listed, inside⟩
  · intro some
    obtain ⟨entry, listed, inside⟩ := some
    exact .member listed inside

/-- A value without parts is equal to itself unless it is a NaN. -/
theorem same_self_iff_of_isLeaf {value : Value} (leaf : value.IsLeaf) :
    value.same value = true ↔ ¬ value.HoldsNaN := by
  cases value with
  | array items => cases leaf.1
  | object members => cases leaf.2
  | number n => rw [same, Number.beq_self_iff, holdsNaN_number_iff, Bool.not_eq_true]
  | _ =>
      apply iff_of_true
      · simp only [same, beq_self_eq_true, Bool.and_self]
      · intro holds
        cases holds

/-- A value that has every name once is equal to itself unless it holds a NaN. -/
theorem NamesOnce.same_self_iff {value : Value} (once : value.NamesOnce) :
    value.same value = true ↔ ¬ value.HoldsNaN := by
  induction once with
  | leaf leaf => exact same_self_iff_of_isLeaf leaf
  | @array items _ ih =>
      rw [same_array_iff, List.forall₂_same, holdsNaN_array_iff]
      push Not
      exact forall₂_congr ih
  | @object members once _ ih =>
      rw [same_object_iff, eq_self, true_and, holdsNaN_object_iff]
      push Not
      apply forall₂_congr
      intro entry listed
      rw [← ih entry listed, Members.get?_of_mem once listed]
      simp only [Option.some.injEq, exists_eq_left']

/-- **Partial equality.**  Deep equality is symmetric where names are there once, transitive, and reflexive but for
NaN. -/
theorem isPartialEquality : IsPartialEquality same NamesOnce fun value => ¬ value.HoldsNaN where
  symm once equal := once.same_symm equal
  trans one two := same_trans one two
  refl_iff once := once.same_self_iff

/-! ## The order of members -/

/-- The second value is the first one with the members of objects, at any depth, in another order. -/
inductive Reorders : Value → Value → Prop where
  | refl (value : Value) : Reorders value value
  | trans {first second third : Value} (one : Reorders first second) (two : Reorders second third) :
    Reorders first third
  | members {left right : Members Value} (perm : left.Perm right) : Reorders (.object left) (.object right)
  | item {one other : Value} (before after : List Value) (inside : Reorders one other) :
    Reorders (.array (before ++ one :: after)) (.array (before ++ other :: after))
  | member {one other : Value} (before after : Members Value) (name : String) (inside : Reorders one other) :
    Reorders (.object (before ++ (name, one) :: after)) (.object (before ++ (name, other) :: after))

namespace Reorders

variable {left right other : Value}

protected theorem symm (reorders : left.Reorders right) : right.Reorders left := by
  induction reorders with
  | refl value => exact .refl value
  | trans _ _ one two => exact two.trans one
  | members perm => exact .members perm.symm
  | item before after _ ih => exact .item before after ih
  | member before after name _ ih => exact .member before after name ih

/-- Reordering leaves every name once. -/
theorem namesOnce (reorders : left.Reorders right) (once : left.NamesOnce) : right.NamesOnce := by
  induction reorders with
  | refl value => exact once
  | trans _ _ one two => exact two (one once)
  | members perm =>
      rw [namesOnce_object_iff] at once ⊢
      exact ⟨(perm.map Prod.fst).nodup_iff.mp once.1, fun entry listed => once.2 entry (perm.mem_iff.mpr listed)⟩
  | item before after _ ih =>
      rw [namesOnce_array_iff, List.forall_mem_append, List.forall_mem_cons] at once ⊢
      exact ⟨once.1, ih once.2.1, once.2.2⟩
  | member before after name _ ih =>
      rw [namesOnce_object_iff, List.forall_mem_append, List.forall_mem_cons] at once ⊢
      refine ⟨?_, once.2.1, ih once.2.2.1, once.2.2.2⟩
      have names := once.1
      rw [Members.names, List.map_append, List.map_cons] at names ⊢
      exact names

/-- A reordered value is still equal to what it was equal to. -/
theorem same_of_same (reorders : left.Reorders right) (equal : left.same other = true) : right.same other = true := by
  induction reorders generalizing other with
  | refl value => exact equal
  | trans _ _ one two => exact two (one equal)
  | members perm =>
      have kinds := kind_of_same equal
      cases other <;> cases kinds
      rw [same_object_iff] at equal ⊢
      exact ⟨perm.length_eq.symm.trans equal.1, fun entry listed => equal.2 entry (perm.mem_iff.mpr listed)⟩
  | item before after _ ih =>
      have kinds := kind_of_same equal
      cases other <;> cases kinds
      rw [same_array_iff] at equal ⊢
      obtain ⟨first, next, last, rfl, earlier, here, later⟩ := exists_split_of_forall₂ equal
      exact List.rel_append earlier (.cons (ih here) later)
  | member before after name _ ih =>
      have kinds := kind_of_same equal
      cases other <;> cases kinds
      rw [same_object_iff, List.forall_mem_append, List.forall_mem_cons] at equal ⊢
      obtain ⟨length, earlier, ⟨found, lookedUp, here⟩, later⟩ := equal
      rw [List.length_append, List.length_cons] at length ⊢
      exact ⟨length, earlier, ⟨found, lookedUp, ih here⟩, later⟩

/-- What a value is equal to does not depend on the order of its members. -/
theorem same_left (reorders : left.Reorders right) (other : Value) : left.same other = right.same other := by
  rw [Bool.eq_iff_iff]
  exact ⟨reorders.same_of_same, reorders.symm.same_of_same⟩

/-- Nor does it depend on the order of members what is equal to a value. -/
theorem same_right (reorders : left.Reorders right) (once : left.NamesOnce) (known : other.NamesOnce) :
    other.same left = other.same right := by
  have also := reorders.namesOnce once
  rw [Bool.eq_iff_iff]
  constructor
  · intro equal
    exact also.same_symm (reorders.same_of_same (known.same_symm equal))
  · intro equal
    exact once.same_symm (reorders.symm.same_of_same (known.same_symm equal))

end Reorders

end Value

end Vetting
