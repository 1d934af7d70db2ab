import Vetting.Proofs.Value.Equality

/-!
# Values that are alike

Two values are alike if they are one and the same, or deeply equal whichever of them is asked (`Value.Alike`).  Deep
equality does not tell such values apart (`Value.Alike.same_eq`), and what is read from them is alike as well.
-/

namespace Vetting

namespace Value

/-- The values are one and the same, or equal whichever of them is asked. -/
inductive Alike : Value → Value → Prop where
  | refl (value : Value) : Alike value value
  | equal {left right : Value} (forth : left.same right = true) (back : right.same left = true) : Alike left right

namespace Alike

variable {left right : Value}

protected theorem symm (alike : left.Alike right) : right.Alike left := by
  cases alike with
  | refl => exact .refl _
  | equal forth back => exact .equal back forth

/-- What one of two values that are alike equals, the other one equals. -/
theorem same_of_left (alike : left.Alike right) {other : Value} (equal : left.same other = true) :
    right.same other = true := by
  cases alike with
  | refl => exact equal
  | equal forth back => exact same_trans back equal

/-- What equals one of two values that are alike, equals the other one. -/
theorem same_of_right (alike : left.Alike right) {other : Value} (equal : other.same left = true) :
    other.same right = true := by
  cases alike with
  | refl => exact equal
  | equal forth back => exact same_trans equal forth

/-- Deep equality does not tell values apart that are alike. -/
theorem same_eq {first second : Value} (one : left.Alike right) (two : first.Alike second) :
    left.same first = right.same second := by
  rw [Bool.eq_iff_iff]
  constructor
  · intro equal
    exact one.same_of_left (two.same_of_right equal)
  · intro equal
    exact one.symm.same_of_left (two.symm.same_of_right equal)

/-- Values that are alike are of one kind. -/
theorem kind_eq (alike : left.Alike right) : left.kind = right.kind := by
  cases alike with
  | refl => rfl
  | equal forth _ => exact kind_of_same forth

/-- Only a text is like itself. -/
theorem eq_string {text : String} (alike : (string text).Alike right) : right = .string text := by
  cases alike with
  | refl => rfl
  | equal forth _ =>
      have kinds := kind_of_same forth
      cases right <;> cases kinds
      simp only [same, beq_iff_eq] at forth
      rw [forth]

/-- Only a switch is like itself. -/
theorem eq_boolean {flag : Bool} (alike : (boolean flag).Alike right) : right = .boolean flag := by
  cases alike with
  | refl => rfl
  | equal forth _ =>
      have kinds := kind_of_same forth
      cases right <;> cases kinds
      simp only [same, beq_iff_eq] at forth
      rw [forth]

/-- What is like a number is that number, or one that equals it. -/
theorem exists_number {n : Float} (alike : (number n).Alike right) :
    ∃ other, right = .number other ∧ (n = other ∨ (n == other) = true) := by
  cases alike with
  | refl => exact ⟨n, rfl, .inl rfl⟩
  | equal forth _ =>
      have kinds := kind_of_same forth
      cases right <;> cases kinds
      exact ⟨_, rfl, .inr forth⟩

/-- What is like an array is an array of items that are alike. -/
theorem exists_array {items : List Value} (alike : (array items).Alike right) :
    ∃ others, right = .array others ∧ List.Forall₂ Alike items others := by
  cases alike with
  | refl => exact ⟨items, rfl, List.forall₂_same.mpr fun item _ => .refl item⟩
  | equal forth back =>
      have kinds := kind_of_same forth
      cases right <;> cases kinds
      rw [same_array_iff] at forth back
      refine ⟨_, rfl, ?_⟩
      induction forth with
      | nil => exact .nil
      | cons head _ ih =>
          cases back with
          | cons turned rest => exact .cons (.equal head turned) (ih rest)

/-- Members of which each equals the one of its name in the other object are alike under the same names. -/
theorem get?_of_same {members others : Members Value}
    (forth : ∀ entry ∈ members, ∃ other, others.get? entry.1 = some other ∧ entry.2.same other = true)
    (back : ∀ entry ∈ others, ∃ member, members.get? entry.1 = some member ∧ entry.2.same member = true)
    (name : String) : Option.Rel Alike (members.get? name) (others.get? name) := by
  cases found : members.get? name with
  | none =>
      cases foundOther : others.get? name with
      | none => exact .none
      | some other =>
          obtain ⟨member, also, -⟩ := back _ (Members.mem_of_get? foundOther)
          rw [found] at also
          cases also
  | some member =>
      obtain ⟨other, foundOther, one⟩ := forth _ (Members.mem_of_get? found)
      obtain ⟨again, also, two⟩ := back _ (Members.mem_of_get? foundOther)
      obtain rfl := Option.some.inj (found.symm.trans also)
      rw [foundOther]
      exact .some (.equal one two)

/-- What is like an object is an object that has members which are alike under the same names. -/
theorem exists_object {members : Members Value} (alike : (object members).Alike right) :
    ∃ others : Members Value, right = .object others ∧
      ∀ name, Option.Rel Alike (members.get? name) (others.get? name) := by
  cases alike with
  | refl =>
      refine ⟨members, rfl, fun name => ?_⟩
      cases members.get? name with
      | none => exact .none
      | some member => exact .some (.refl member)
  | equal forth back =>
      have kinds := kind_of_same forth
      cases right with
      | object others =>
          rw [same_object_iff] at forth back
          exact ⟨others, rfl, fun name => get?_of_same forth.2 back.2 name⟩
      | _ => cases kinds

end Alike

end Value

end Vetting
