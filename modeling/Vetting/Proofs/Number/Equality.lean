import Mathlib.Algebra.Group.Nat.Defs
import Vetting.Number.Binary
import Vetting.Proofs.Value.Equality

/-!
# Equal numbers

Two doubles that compare as equal are the same, but for the two zeros (`Number.same_or_zeros`).  So they are worth
the same (`Number.units?_congr`), and compare alike with any other double (`Number.lt_congr`, `Number.le_congr`).
What a double is worth is read off its bits, and so is what it is unpacked to (`Number.ofFloat?_eq`).
-/

namespace Vetting.Number

open Float.Model (UnpackedFloat Format)
open Float.Model.UnpackedFloat (Sign unpackExponent unpackMantissa unpackSign)

/-! ## Bits -/

section Bits

variable (bits : BitVec 64)

/-- The exponent stands behind the fraction. -/
theorem toNat_unpackExponent :
    (@unpackExponent .binary64 bits).toNat = bits.toNat / 2 ^ 52 % 2 ^ 11 := by
  simp [unpackExponent, Nat.shiftRight_eq_div_pow]

/-- The fraction stands first. -/
theorem toNat_unpackMantissa : (@unpackMantissa .binary64 bits).toNat = bits.toNat % 2 ^ 52 := by
  simp [unpackMantissa]

/-- The sign stands last. -/
theorem toNat_unpackSign : (@unpackSign .binary64 bits).toNat = bits.toNat / 2 ^ 63 := by
  have size := bits.isLt
  delta unpackSign
  simp [Nat.shiftRight_eq_div_pow]
  omega

/-- A double is negative if its last bit is set. -/
theorem negative_unpackSign :
    (Sign.ofBitVec (@unpackSign .binary64 bits) == .negative) = (bits.toNat / 2 ^ 63 == 1) := by
  rw [← toNat_unpackSign]
  rcases BitVec.eq_zero_or_eq_one (@unpackSign .binary64 bits) with zero | one
  · rw [zero]
    rfl
  · rw [one]
    rfl

/-- The bit that a normal number has in front of its fraction. -/
theorem toNat_one_append :
    (1#1 ++ @unpackMantissa .binary64 bits).toNat = 2 ^ 52 + bits.toNat % 2 ^ 52 := by
  rw [BitVec.toNat_append, toNat_unpackMantissa]
  exact (Nat.shiftLeft_add_eq_or_of_lt (Nat.mod_lt _ (Nat.two_pow_pos 52)) 1).symm

end Bits

/-- The parts of a finite number that has been unpacked. -/
def parts? : UnpackedFloat → Option Binary
  | .notANumber | .infinity _ => none
  | .zero sign => some ⟨sign == .negative, 0, -1074⟩
  | .finite sign mantissa exponent _ => some ⟨sign == .negative, mantissa, exponent⟩

@[simp] theorem parts?_zero (sign : Sign) : parts? (.zero sign) = some ⟨sign == .negative, 0, -1074⟩ :=
  rfl

@[simp] theorem parts?_finite (sign : Sign) (mantissa : Nat) (exponent : Int) (positive : 0 < mantissa) :
    parts? (.finite sign mantissa exponent positive) = some ⟨sign == .negative, mantissa, exponent⟩ :=
  rfl

/-- Bits are unpacked to a number with these parts. -/
theorem parts?_unpack (bits : BitVec 64) : parts? (UnpackedFloat.unpack Format.binary64 bits) =
    if bits.toNat / 2 ^ 52 % 2 ^ 11 = 2047 then none
    else if bits.toNat / 2 ^ 52 % 2 ^ 11 = 0 then some ⟨bits.toNat / 2 ^ 63 == 1, bits.toNat % 2 ^ 52, -1074⟩
    else some ⟨bits.toNat / 2 ^ 63 == 1, 2 ^ 52 + bits.toNat % 2 ^ 52,
      ((bits.toNat / 2 ^ 52 % 2 ^ 11 : Nat) : Int) - 1075⟩ := by
  have largest : @unpackExponent .binary64 bits = -1#_ ↔ bits.toNat / 2 ^ 52 % 2 ^ 11 = 2047 := by
    rw [← toNat_unpackExponent, ← BitVec.toNat_inj]
    rfl
  have smallest : @unpackExponent .binary64 bits = 0#_ ↔ bits.toNat / 2 ^ 52 % 2 ^ 11 = 0 := by
    rw [← toNat_unpackExponent, ← BitVec.toNat_inj]
    rfl
  have fraction : @unpackMantissa .binary64 bits = 0#_ ↔ bits.toNat % 2 ^ 52 = 0 := by
    rw [← toNat_unpackMantissa, ← BitVec.toNat_inj]
    rfl
  unfold UnpackedFloat.unpack
  by_cases top : bits.toNat / 2 ^ 52 % 2 ^ 11 = 2047
  · rw [if_pos (largest.mpr top), if_pos top]
    split <;> rfl
  · rw [if_neg (mt largest.mp top), if_neg top]
    by_cases bottom : bits.toNat / 2 ^ 52 % 2 ^ 11 = 0
    · rw [if_pos (smallest.mpr bottom), if_pos bottom]
      by_cases zero : @unpackMantissa .binary64 bits = 0#_
      · rw [dif_pos zero, parts?_zero, negative_unpackSign, fraction.mp zero]
      · rw [dif_neg zero, parts?_finite, negative_unpackSign, toNat_unpackMantissa, toNat_unpackExponent, bottom]
        rfl
    · rw [if_neg (mt smallest.mp bottom), if_neg bottom, parts?_finite, negative_unpackSign, toNat_one_append,
        toNat_unpackExponent]
      rfl

/-- The parts of a double are those of what it is unpacked to. -/
theorem ofFloat?_eq (x : Float) : Binary.ofFloat? x = parts? x.toModel.unpack := by
  change _ = parts? (UnpackedFloat.unpack Format.binary64 x.toBits.toBitVec)
  rw [parts?_unpack, Binary.ofFloat?]
  generalize x.toBits = bits
  simp only [beq_iff_eq]
  rfl

/-! ## Equality -/

/-- Unpacked numbers that have something in common are the same, but for the two zeros. -/
theorem same_or_zeros_of_common? {left right : UnpackedFloat} {shared : Sign × Option (Nat × Int)}
    (one : common? left = some shared) (two : common? right = some shared) :
    left = right ∨ (∃ sign, left = .zero sign) ∧ ∃ sign, right = .zero sign := by
  cases left with
  | notANumber => cases one
  | zero sign =>
      obtain rfl := Option.some.inj one
      cases right with
      | zero other => exact .inr ⟨⟨sign, rfl⟩, ⟨other, rfl⟩⟩
      | finite other mantissa exponent positive =>
          cases two
          cases positive
      | _ => cases two
  | infinity sign =>
      obtain rfl := Option.some.inj one
      cases right <;> cases two
      exact .inl rfl
  | finite sign mantissa exponent positive =>
      obtain rfl := Option.some.inj one
      cases right with
      | zero other =>
          cases two
          cases positive
      | finite other size power large =>
          cases two
          exact .inl rfl
      | _ => cases two

variable {left right : Float}

/-- Equal numbers are the same, but for the two zeros. -/
theorem same_or_zeros (equal : (left == right) = true) :
    left.toModel.unpack = right.toModel.unpack ∨
      (∃ sign, left.toModel.unpack = .zero sign) ∧ ∃ sign, right.toModel.unpack = .zero sign := by
  obtain ⟨shared, one, two⟩ := (beq_iff left right).mp equal
  exact same_or_zeros_of_common? one two

/-- What the two zeros have in common, equal numbers have. -/
theorem congr_of_zeros {α : Type} (view : UnpackedFloat → α)
    (zeros : ∀ sign other, view (.zero sign) = view (.zero other)) (equal : (left == right) = true) :
    view left.toModel.unpack = view right.toModel.unpack := by
  obtain same | ⟨⟨sign, one⟩, ⟨other, two⟩⟩ := same_or_zeros equal
  · rw [same]
  · rw [one, two, zeros sign other]

/-- Equal numbers are worth the same. -/
theorem units?_congr (equal : (left == right) = true) : units? left = units? right := by
  rw [units?, units?, ofFloat?_eq, ofFloat?_eq]
  refine congr_of_zeros (fun number => (parts? number).map Binary.units) (fun sign other => ?_) equal
  cases sign <;> cases other <;> simp [Binary.units]

/-- Of two equal numbers both are a NaN, or neither is. -/
theorem isNaN_congr (equal : (left == right) = true) : left.isNaN = right.isNaN :=
  congr_of_zeros UnpackedFloat.isNaN (fun _ _ => rfl) equal

/-- Equal numbers are equal to the same numbers. -/
theorem beq_congr (equal : (left == right) = true) (other : Float) : (left == other) = (right == other) := by
  rw [Bool.eq_iff_iff]
  exact ⟨beq_trans (beq_symm equal), beq_trans equal⟩

/-- Equal numbers compare alike with any other. -/
theorem compare_congr (equal : (left == right) = true) (other : UnpackedFloat) :
    left.toModel.unpack.compare other = right.toModel.unpack.compare other ∧
      other.compare left.toModel.unpack = other.compare right.toModel.unpack := by
  constructor
  · refine congr_of_zeros (fun number => number.compare other) (fun sign side => ?_) equal
    cases other with
    | infinity own | finite own _ _ _ => cases own <;> rfl
    | _ => rfl
  · refine congr_of_zeros (fun number => other.compare number) (fun sign side => ?_) equal
    cases other with
    | infinity own | finite own _ _ _ => cases own <;> rfl
    | _ => rfl

/-- Which of two doubles is smaller is told by comparing what they are unpacked to. -/
theorem lt_iff_compare (left right : Float) :
    left < right ↔ (left.toModel.unpack.compare right.toModel.unpack == some .lt) = true := by
  change decide (left.toModel < right.toModel) = true ↔ _
  rw [decide_eq_true_iff]
  rfl

/-- Whether a double is not greater than another is told by comparing what they are unpacked to. -/
theorem le_iff_compare (left right : Float) :
    left ≤ right ↔ (left.toModel.unpack.compare right.toModel.unpack).any (·.isLE) = true := by
  change decide (left.toModel ≤ right.toModel) = true ↔ _
  rw [decide_eq_true_iff]
  rfl

/-- Equal numbers are smaller than the same numbers, and the same numbers are smaller than they are. -/
theorem lt_congr (equal : (left == right) = true) (other : Float) :
    (left < other ↔ right < other) ∧ (other < left ↔ other < right) := by
  obtain ⟨one, two⟩ := compare_congr equal other.toModel.unpack
  simp only [lt_iff_compare, one, two, and_self]

/-- Equal numbers bound the same numbers. -/
theorem le_congr (equal : (left == right) = true) (other : Float) :
    (left ≤ other ↔ right ≤ other) ∧ (other ≤ left ↔ other ≤ right) := by
  obtain ⟨one, two⟩ := compare_congr equal other.toModel.unpack
  simp only [le_iff_compare, one, two, and_self]

end Vetting.Number
