import Mathlib.Data.List.Induction
import Mathlib.Data.Nat.Digits.Defs
import Vetting.Address

/-!
# Decimal digits

A decimal digit of ASCII is told by its value, a number below ten (`digitValue_inj`, `exists_isDigit`).  The number of a
row of digits is the one that their values spell in base ten (`Address.decimalOf_eq_ofDigits`).
-/

namespace Vetting

namespace Text

variable {c d : Char}

/-- The value of a decimal digit. -/
def digitValue (c : Char) : Nat :=
  c.toNat - '0'.toNat

/-- Decimal digits are told by their codes. -/
theorem isDigit_iff : c.isDigit = true ↔ 48 ≤ c.toNat ∧ c.toNat ≤ 57 := by
  rw [Char.isDigit, Bool.and_eq_true, decide_eq_true_eq, decide_eq_true_eq]
  exact Iff.rfl

/-- The value of a decimal digit is below ten. -/
theorem digitValue_lt (digit : c.isDigit = true) : digitValue c < 10 := by
  have bounds := isDigit_iff.mp digit
  have zero : '0'.toNat = 48 := rfl
  rw [digitValue, zero]
  omega

/-- Decimal digits of the same value are the same. -/
theorem digitValue_inj (digit : c.isDigit = true) (other : d.isDigit = true) : digitValue c = digitValue d ↔ c = d := by
  refine ⟨fun same => Char.toNat_inj.mp ?_, congrArg digitValue⟩
  have bounds := isDigit_iff.mp digit
  have limits := isDigit_iff.mp other
  have zero : '0'.toNat = 48 := rfl
  rw [digitValue, digitValue, zero] at same
  omega

/-- Every number below ten is the value of a decimal digit. -/
theorem exists_isDigit {n : Nat} (small : n < 10) : ∃ c : Char, c.isDigit = true ∧ digitValue c = n := by
  have digits : ∀ n < 10, (Char.ofNat (48 + n)).isDigit = true ∧ digitValue (Char.ofNat (48 + n)) = n := by decide
  exact ⟨_, digits n small⟩

/-- So many decimal digits. -/
structure IsRow (count : Nat) (word : List Char) : Prop where
  length_eq : word.length = count
  digits : ∀ c ∈ word, c.isDigit = true

instance (count : Nat) (word : List Char) : Decidable (IsRow count word) :=
  decidable_of_iff (word.length = count ∧ word.all Char.isDigit = true)
    ⟨fun ⟨long, digits⟩ => ⟨long, List.all_eq_true.mp digits⟩,
      fun ⟨long, digits⟩ => ⟨long, List.all_eq_true.mpr digits⟩⟩

/-- A row of at least one digit is not empty. -/
theorem IsRow.ne_nil {count : Nat} {word : List Char} (row : IsRow (count + 1) word) : word ≠ [] :=
  List.ne_nil_of_length_eq_add_one row.length_eq

/-- A row of digits has nothing but digits. -/
theorem IsRow.filter_eq {count : Nat} {word : List Char} (row : IsRow count word) : word.filter Char.isDigit = word :=
  List.filter_eq_self.mpr row.digits

end Text

open Text

/-- A row of digits is read as the number that its values spell in base ten. -/
theorem Address.decimalOf_eq_ofDigits (digits : List Char) :
    decimalOf digits = Nat.ofDigits 10 (digits.map digitValue).reverse := by
  induction digits using List.reverseRecOn with
  | nil => rfl
  | append_singleton before last ih =>
      rw [decimalOf] at ih ⊢
      rw [List.foldl_append, List.foldl_cons, List.foldl_nil, ih, List.map_append, List.map_singleton,
        List.reverse_append, List.reverse_singleton, List.singleton_append, Nat.ofDigits_cons, digitValue, Nat.add_comm]

end Vetting
