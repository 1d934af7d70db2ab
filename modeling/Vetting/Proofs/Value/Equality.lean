import Mathlib.Data.List.Perm.Subperm
import Vetting.Proofs.Members
import Vetting.Proofs.Related
import Vetting.Value.Equality

/-!
# Deep equality as a relation

Deep equality is transitive (`Value.same_trans`), and symmetric where no object has a name twice
(`Value.NamesOnce.same_symm`): objects are compared by their names, so of a name that is there twice one member
would be looked up and both would be counted.  It is not reflexive, for a NaN differs from itself.
-/

namespace Vetting

/-! ## Numbers -/

namespace Number

open Float.Model (UnpackedFloat)

/-- What equal numbers have in common: a sign and, unless they are infinite, a mantissa and an exponent.  The two
zeros are one, and a NaN has nothing in common with any number. -/
def common? : UnpackedFloat → Option (UnpackedFloat.Sign × Option (Nat × Int))
  | .notANumber => none
  | .zero _ => some (.positive, some (0, 0))
  | .infinity sign => some (sign, none)
  | .finite sign mantissa exponent _ => some (sign, some (mantissa, exponent))

/-- Two numbers compare as equal exactly if they have something in common. -/
theorem compare_eq_iff (left right : UnpackedFloat) :
    left.compare right = some .eq ↔ ∃ shared, common? left = some shared ∧ common? right = some shared := by
  cases left with
  | notANumber =>
      dsimp only [UnpackedFloat.compare, common?]
      simp
  | zero sign =>
      cases right with
      | infinity other => cases other <;> dsimp only [UnpackedFloat.compare, common?] <;> simp
      | finite other _ _ positive =>
          cases other <;> dsimp only [UnpackedFloat.compare, common?] <;> simp [Nat.ne_of_gt positive]
      | _ =>
          dsimp only [UnpackedFloat.compare, common?]
          simp
  | infinity sign =>
      cases right with
      | infinity other => cases sign <;> cases other <;> dsimp only [UnpackedFloat.compare, common?] <;> simp <;> decide
      | _ => cases sign <;> dsimp only [UnpackedFloat.compare, common?] <;> simp
  | finite sign mantissa exponent positive =>
      cases right with
      | infinity other => cases other <;> cases sign <;> dsimp only [UnpackedFloat.compare, common?] <;> simp
      | finite other mantissa' exponent' _ =>
          cases sign <;> cases other <;> dsimp only [UnpackedFloat.compare, common?] <;>
            simp [and_comm, eq_comm (a := mantissa), eq_comm (a := exponent)]
      | _ => cases sign <;> dsimp only [UnpackedFloat.compare, common?] <;> simp [Nat.ne_of_lt positive]

/-- Two doubles are equal exactly if they have something in common. -/
theorem beq_iff (left right : Float) :
    (left == right) = true ↔ ∃ shared, common? left.toModel.unpack = some shared ∧
      common? right.toModel.unpack = some shared := by
  rw [← compare_eq_iff]
  change (left.toModel.unpack.compare right.toModel.unpack == some .eq) = true ↔ _
  rw [beq_iff_eq]

/-- Equality of doubles is symmetric. -/
theorem beq_symm {left right : Float} (same : (left == right) = true) : (right == left) = true := by
  obtain ⟨shared, one, two⟩ := (beq_iff left right).mp same
  exact (beq_iff right left).mpr ⟨shared, two, one⟩

/-- Equality of doubles is transitive. -/
theorem beq_trans {first second third : Float} (one : (first == second) = true) (two : (second == third) = true) :
    (first == third) = true := by
  obtain ⟨shared, left, middle⟩ := (beq_iff first second).mp one
  obtain ⟨other, alsoMiddle, right⟩ := (beq_iff second third).mp two
  obtain rfl := Option.some.inj (middle.symm.trans alsoMiddle)
  exact (beq_iff first third).mpr ⟨shared, left, right⟩

/-- A number is equal to itself unless it is a NaN. -/
theorem beq_self_iff (n : Float) : (n == n) = true ↔ n.isNaN = false := by
  rw [beq_iff]
  change _ ↔ n.toModel.unpack.isNaN = false
  cases n.toModel.unpack with
  | notANumber =>
      apply iff_of_false
      · intro same
        obtain ⟨shared, nothing, -⟩ := same
        change none = some shared at nothing
        cases nothing
      · intro other
        cases other
  | _ => exact iff_of_true ⟨_, rfl, rfl⟩ rfl

/-- A finite double is no NaN. -/
theorem isNaN_of_isFinite {n : Float} (finite : n.isFinite = true) : n.isNaN = false := by
  change n.toModel.unpack.isFinite = true at finite
  change n.toModel.unpack.isNaN = false
  cases unpacked : n.toModel.unpack with
  | notANumber =>
      rw [unpacked] at finite
      cases finite
  | _ => rfl

end Number

namespace Members

variable {α : Type}

/-- Where every name is there once, each member is the one that is found by its name. -/
theorem get?_of_mem {members : Members α} (once : members.names.Nodup) {name : String} {member : α}
    (inside : (name, member) ∈ members) : members.get? name = some member := by
  induction members with
  | nil => cases inside
  | cons head rest ih =>
      obtain ⟨other, own⟩ := head
      obtain ⟨fresh, further⟩ := List.nodup_cons.mp once
      rw [get?]
      rcases List.mem_cons.mp inside with same | later
      · obtain ⟨rfl, rfl⟩ := Prod.mk.inj same
        exact if_pos rfl
      · have apart : other ≠ name := by
          rintro rfl
          exact fresh (List.mem_map.mpr ⟨_, later, rfl⟩)
        rw [if_neg apart, ih further later]

/-- If two rows of members are equally long, and the first has every name once and none that the second lacks, they
have the same names. -/
theorem names_perm {β : Type} {left : Members α} {right : Members β} (once : left.names.Nodup)
    (length : left.length = right.length) (inside : ∀ entry ∈ left, ∃ other, right.get? entry.1 = some other) :
    left.names.Perm right.names := by
  have subset : left.names ⊆ right.names := by
    intro name member
    obtain ⟨entry, listed, rfl⟩ := List.mem_map.mp member
    obtain ⟨other, found⟩ := inside entry listed
    exact List.mem_map.mpr ⟨_, mem_of_get? found, rfl⟩
  refine (once.subperm subset).perm_of_length_le ?_
  rw [names, names, List.length_map, List.length_map]
  exact Nat.le_of_eq length.symm

end Members

/-! ## Values -/

namespace Value

/-- A value that is neither an array nor an object. -/
def IsLeaf (value : Value) : Prop :=
  value.asItems? = none ∧ value.asMembers? = none

/-- What holds of leaves, of arrays whose items it holds of, and of objects whose members it holds of, holds of
all values. -/
theorem induction {holds : Value → Prop} (leaf : ∀ value, IsLeaf value → holds value)
    (array : ∀ items, (∀ item ∈ items, holds item) → holds (.array items))
    (object : ∀ members : Members Value, (∀ entry ∈ members, holds entry.2) → holds (.object members)) :
    ∀ value, holds value
  | .array items => array items fun item _member => induction leaf array object item
  | .object members => object members fun entry _member => induction leaf array object entry.2
  | .undefined | .null | .boolean _ | .number _ | .string _ | .date _ | .function _ _ => leaf _ ⟨rfl, rfl⟩
termination_by value => sizeOf value
decreasing_by
  · have := List.sizeOf_lt_of_mem _member
    simp only [Value.array.sizeOf_spec]
    omega
  · have := List.sizeOf_lt_of_mem _member
    obtain ⟨name, inner⟩ := entry
    simp only [Value.object.sizeOf_spec, Prod.mk.sizeOf_spec] at this ⊢
    omega

/-- No object in the value has a name twice. -/
inductive NamesOnce : Value → Prop where
  | leaf {value : Value} (leaf : value.IsLeaf) : NamesOnce value
  | array {items : List Value} (inside : ∀ item ∈ items, NamesOnce item) : NamesOnce (.array items)
  | object {members : Members Value} (once : members.names.Nodup) (inside : ∀ entry ∈ members, NamesOnce entry.2) :
    NamesOnce (.object members)

/-- An array has every name once if its items do. -/
theorem namesOnce_array_iff {items : List Value} : (array items).NamesOnce ↔ ∀ item ∈ items, item.NamesOnce := by
  constructor
  · intro known
    cases known with
    | leaf leaf => cases leaf.1
    | array inside => exact inside
  · exact .array

/-- An object has every name once if its own names differ and its members have theirs once. -/
theorem namesOnce_object_iff {members : Members Value} :
    (object members).NamesOnce ↔ members.names.Nodup ∧ ∀ entry ∈ members, entry.2.NamesOnce := by
  constructor
  · intro known
    cases known with
    | leaf leaf => cases leaf.2
    | object once inside => exact ⟨once, inside⟩
  · intro parts
    exact .object parts.1 parts.2

/-- An object that is made of entries has every name once, even if names repeat among the entries. -/
theorem namesOnce_ofEntries {entries : List (String × Value)} (inside : ∀ entry ∈ entries, entry.2.NamesOnce) :
    (ofEntries entries).NamesOnce := by
  apply NamesOnce.object
  · have empty : (Members.names ([] : Members Value)).Nodup := List.nodup_nil
    exact Members.nodup_names_putAll empty entries
  · intro entry listed
    exact inside entry ((Members.mem_of_mem_putAll listed).resolve_left List.not_mem_nil)

/-- Lists of items are equal exactly if their items are so one by one. -/
theorem sameItems_iff (left right : List Value) :
    sameItems left right = true ↔ List.Forall₂ (fun one other => one.same other = true) left right := by
  induction left generalizing right with
  | nil => cases right <;> simp [sameItems]
  | cons head rest ih => cases right <;> simp [sameItems, ih]

/-- Members are equal to others if each of them is equal to the one that is found by its name. -/
theorem sameMembers_iff (left right : Members Value) :
    sameMembers left right = true ↔
      ∀ entry ∈ left, ∃ other, right.get? entry.1 = some other ∧ entry.2.same other = true := by
  induction left with
  | nil => simp [sameMembers]
  | cons head rest ih =>
      obtain ⟨name, member⟩ := head
      rw [sameMembers, Bool.and_eq_true, ih, List.forall_mem_cons]
      refine and_congr ?_ Iff.rfl
      cases right.get? name <;> simp

/-- Objects are equal if they have equally many members, and each member of the first one equals the one of its name
in the second. -/
theorem same_object_iff (left right : Members Value) :
    (object left).same (.object right) = true ↔ left.length = right.length ∧
      ∀ entry ∈ left, ∃ other, right.get? entry.1 = some other ∧ entry.2.same other = true := by
  rw [same, Bool.and_eq_true, beq_iff_eq, sameMembers_iff]

/-- Arrays are equal exactly if their items are so one by one. -/
theorem same_array_iff (left right : List Value) :
    (array left).same (.array right) = true ↔
      List.Forall₂ (fun one other => one.same other = true) left right := by
  rw [same, sameItems_iff]

/-- Equal values are of one kind. -/
theorem kind_of_same {left right : Value} (equal : left.same right = true) : left.kind = right.kind := by
  cases left <;> cases right <;> first | rfl | simp [same] at equal

/-- Equality is transitive among values without parts. -/
theorem same_trans_of_leaf {first second third : Value} (leaf : first.IsLeaf) (one : first.same second = true)
    (two : second.same third = true) : first.same third = true := by
  have kinds := kind_of_same one
  have further := kind_of_same two
  cases first with
  | array _ => cases leaf.1
  | object _ => cases leaf.2
  | number _ =>
      cases second <;> cases kinds
      cases third <;> cases further
      simp only [same] at one two ⊢
      exact Number.beq_trans one two
  | _ =>
      cases second <;> cases kinds
      cases third <;> cases further
      simp_all [same]

/-- Deep equality is transitive. -/
theorem same_trans {first second third : Value} (one : first.same second = true)
    (two : second.same third = true) : first.same third = true := by
  induction first using induction generalizing second third with
  | leaf first leaf => exact same_trans_of_leaf leaf one two
  | array items ih =>
      have kinds := kind_of_same one
      have further := kind_of_same two
      cases second <;> cases kinds
      cases third <;> cases further
      rw [same_array_iff] at one two ⊢
      exact forall₂_trans_of_mem (fun item listed _ _ => ih item listed) one two
  | object members ih =>
      have kinds := kind_of_same one
      have further := kind_of_same two
      cases second <;> cases kinds
      cases third <;> cases further
      rw [same_object_iff] at one two ⊢
      refine ⟨one.1.trans two.1, fun entry inside => ?_⟩
      obtain ⟨middle, found, same⟩ := one.2 entry inside
      obtain ⟨last, alsoFound, alsoSame⟩ := two.2 (entry.1, middle) (Members.mem_of_get? found)
      exact ⟨last, alsoFound, ih entry inside same alsoSame⟩

/-- Equality is symmetric among values without parts. -/
theorem same_symm_of_leaf {left right : Value} (leaf : left.IsLeaf) (equal : left.same right = true) :
    right.same left = true := by
  have kinds := kind_of_same equal
  cases left with
  | array _ => cases leaf.1
  | object _ => cases leaf.2
  | number _ =>
      cases right <;> cases kinds
      simp only [same] at equal ⊢
      exact Number.beq_symm equal
  | _ =>
      cases right <;> cases kinds
      simp_all [same]

/-- If an object that has every name once equals another one, so has that, and each of its members equals the one of its
name in the first. -/
theorem partners_of_same_object {left right : Members Value} (once : left.names.Nodup)
    (equal : (object left).same (.object right) = true) :
    right.names.Nodup ∧ ∀ entry ∈ right, ∃ member, (entry.1, member) ∈ left ∧ member.same entry.2 = true := by
  rw [same_object_iff] at equal
  obtain ⟨length, inside⟩ := equal
  have names := Members.names_perm once length fun entry member => (inside entry member).imp fun _ found => found.1
  have distinct : right.names.Nodup := names.nodup_iff.mp once
  refine ⟨distinct, fun entry listed => ?_⟩
  have known : entry.1 ∈ left.names := names.mem_iff.mpr (List.mem_map_of_mem listed)
  obtain ⟨⟨name, member⟩, stands, own⟩ := List.mem_map.mp known
  change name = entry.1 at own
  obtain ⟨found, there, same⟩ := inside _ stands
  rw [own, Members.get?_of_mem distinct listed] at there
  exact ⟨member, own ▸ stands, Option.some.inj there ▸ same⟩

/-- Deep equality is symmetric where no object has a name twice. -/
theorem NamesOnce.same_symm {left right : Value} (once : left.NamesOnce) (equal : left.same right = true) :
    right.same left = true := by
  induction once generalizing right with
  | leaf leaf => exact same_symm_of_leaf leaf equal
  | @array items _ ih =>
      have kinds := kind_of_same equal
      cases right <;> cases kinds
      rw [same_array_iff] at equal ⊢
      exact forall₂_symm_of_mem (fun item listed _ => ih item listed) equal
  | @object members once _ ih =>
      have kinds := kind_of_same equal
      cases right <;> cases kinds
      obtain ⟨-, partners⟩ := partners_of_same_object once equal
      rw [same_object_iff] at equal ⊢
      refine ⟨equal.1.symm, fun entry listed => ?_⟩
      obtain ⟨member, stands, same⟩ := partners entry listed
      exact ⟨member, Members.get?_of_mem once stands, ih _ stands same⟩

end Value

end Vetting
