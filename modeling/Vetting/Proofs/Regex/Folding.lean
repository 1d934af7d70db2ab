import Vetting.Proofs.Text.Digits
import Vetting.Proofs.Text.Forms
import Vetting.Regex.Basic

/-!
# Classes that ignore case

A folded class of characters that stand for themselves holds what folds to one of them (`CharClass.contains_eq`).  Of
the characters beyond ASCII, two fold to ASCII letters: the long s and the kelvin sign.  So a folded class of letters
and digits holds these two as well (`CharClass.contains_letters_iff`).
-/

namespace Vetting

open Text

namespace Text

variable {code mate : Nat}

/-- Codes of ASCII are codes of characters. -/
theorem toNat_ofNat_of_lt (ascii : code < 0x80) : (Char.ofNat code).toNat = code := by
  rw [Char.ofNat, dif_pos (.inl (by omega))]
  rfl

/-- A character that no run moves is a case mate of what folds to it. -/
theorem mem_caseMates_iff (still : ∀ run ∈ foldRuns, run.covers mate = false) :
    mate ∈ caseMates code ↔ mate = fold code := by
  rw [caseMates, List.mem_cons, or_iff_left_iff_imp, List.mem_filterMap]
  rintro ⟨run, listed, source⟩
  rw [CaseRun.preimage?, Option.ite_none_right_eq_some] at source
  obtain ⟨⟨covered, -⟩, same⟩ : (_ ∧ _) ∧ _ := ⟨Bool.and_eq_true_iff.mp source.1, Option.some.inj source.2⟩
  rw [same, still run listed] at covered
  cases covered

/-- A run moves nothing but capital letters of ASCII, or what lies behind ASCII. -/
theorem foldRuns_source : ∀ run ∈ foldRuns, 0x41 ≤ run.first ∧ run.last ≤ 0x5A ∨ 0x80 ≤ run.first := by
  decide +kernel

/-- A run behind ASCII stays there, but for those of the long s and of the kelvin sign. -/
theorem foldRuns_target : ∀ run ∈ foldRuns, run.last < 0x80 ∨ 0x80 ≤ run.image run.first ∨
    (run.first = 0x17F ∧ run.last = 0x17F) ∨ (run.first = 0x212A ∧ run.last = 0x212A) := by
  decide +kernel

/-- Folding takes the capital letters of ASCII to small ones and leaves the rest of it. -/
theorem fold_of_lt (ascii : code < 0x80) : fold code = if 0x41 ≤ code ∧ code ≤ 0x5A then code + 0x20 else code := by
  rw [fold, if_pos ascii]
  simp only [Bool.and_eq_true, decide_eq_true_eq]

/-- Beyond ASCII only the long s and the Kelvin sign are folded into it. -/
theorem fold_of_le (beyond : 0x80 ≤ code) :
    (0x80 ≤ fold code ∧ code ≠ 0x17F ∧ code ≠ 0x212A) ∨ (code = 0x17F ∧ fold code = 0x73) ∨
      (code = 0x212A ∧ fold code = 0x6B) := by
  have folds : fold 0x17F = 0x73 ∧ fold 0x212A = 0x6B := by decide +kernel
  by_cases long : code = 0x17F
  · exact .inr (.inl ⟨long, long ▸ folds.1⟩)
  by_cases kelvin : code = 0x212A
  · exact .inr (.inr ⟨kelvin, kelvin ▸ folds.2⟩)
  refine .inl ⟨?_, long, kelvin⟩
  rw [fold, if_neg (Nat.not_lt.mpr beyond), imageUnder?]
  cases found : foldRuns.find? fun run => run.covers code with
  | none => exact beyond
  | some run =>
      have covered := (List.find?_eq_some_iff_append.mp found).1
      simp only [CaseRun.covers, Bool.and_eq_true, decide_eq_true_eq] at covered
      have far : run.image run.first ≤ run.image code := CaseRun.image_mono covered.1.1
      rcases foldRuns_target run (List.mem_of_find?_eq_some found) with ascii | stays | ⟨first, last⟩ |
        ⟨first, last⟩
      · omega
      · exact stays.trans far
      · omega
      · omega

end Text

namespace CharClass

variable {set : CharClass} {c : Char}

/-- A folded class of characters that no run moves holds what folds to one of them. -/
theorem contains_eq (folded : set.folded = true) (positive : set.negated = false)
    (still : ∀ code, set.lists (Char.ofNat code) = true → ∀ run ∈ foldRuns, run.covers code = false) (c : Char) :
    set.contains c = set.lists (Char.ofNat (fold c.toNat)) := by
  rw [contains, folded, positive, if_pos rfl, Bool.bne_false, Bool.eq_iff_iff, List.any_eq_true]
  constructor
  · rintro ⟨mate, among, lists⟩
    rwa [(mem_caseMates_iff (still mate lists)).mp among] at lists
  · intro lists
    exact ⟨fold c.toNat, List.mem_cons_self, lists⟩

/-- The letters and the digits of ASCII in either case, with the hyphen or without. -/
def letters (hyphen : Bool) : CharClass :=
  ⟨[.range 'a' 'z', .range '0' '9'] ++ (if hyphen then [.range '-' '-'] else []), false, true⟩

/-- Characters are compared by their codes. -/
theorem le_iff {c d : Char} : c ≤ d ↔ c.toNat ≤ d.toNat :=
  UInt32.le_iff_toNat_le

/-- The class of letters lists small letters and digits, and a hyphen where that is wanted. -/
theorem lists_letters_iff {hyphen : Bool} : (letters hyphen).lists c = true ↔
    (0x61 ≤ c.toNat ∧ c.toNat ≤ 0x7A) ∨ (0x30 ≤ c.toNat ∧ c.toNat ≤ 0x39) ∨ (hyphen = true ∧ c.toNat = 0x2D) := by
  have hyphenOnly : 0x2D ≤ c.toNat ∧ c.toNat ≤ 0x2D ↔ c.toNat = 0x2D := by omega
  cases hyphen with
  | false =>
      simp only [lists, letters, ClassItem.covers, le_iff, List.append_nil, Bool.false_eq_true, if_false, List.any_cons,
        List.any_nil, Bool.or_eq_true, Bool.and_eq_true, decide_eq_true_eq, false_and, or_false]
      exact Iff.rfl
  | true =>
      simp only [lists, letters, ClassItem.covers, le_iff, if_true, List.cons_append, List.nil_append, List.any_cons,
        List.any_nil, Bool.or_eq_true, Bool.and_eq_true, decide_eq_true_eq, true_and, Bool.false_eq_true, or_false,
        ← hyphenOnly]
      exact Iff.rfl

/-- No run moves a small letter, a digit or the hyphen. -/
theorem covers_of_lists_letters {hyphen : Bool} {code : Nat} (lists : (letters hyphen).lists (Char.ofNat code) = true)
    {run : CaseRun} (listed : run ∈ foldRuns) : run.covers code = false := by
  rw [lists_letters_iff] at lists
  rw [← Bool.not_eq_true, CaseRun.covers, Bool.and_eq_true, Bool.and_eq_true, decide_eq_true_eq, decide_eq_true_eq]
  have source := foldRuns_source run listed
  rcases CaseMapping.toNat_ofNat code with same | zero
  · omega
  · omega

end CharClass

namespace Text

/-- A letter or a digit of ASCII, or one of the two other characters that are letters of ASCII but for their case: the
long s and the kelvin sign. -/
def IsAlphanumeric (c : Char) : Prop :=
  c.isAlphanum = true ∨ c = 'ſ' ∨ c = '\u212A'

instance : DecidablePred IsAlphanumeric := fun _ =>
  inferInstanceAs (Decidable (_ ∨ _))

/-- Capital letters of ASCII are told by their codes. -/
theorem isUpper_iff {c : Char} : c.isUpper = true ↔ 0x41 ≤ c.toNat ∧ c.toNat ≤ 0x5A :=
  decide_eq_true_iff

/-- Small letters of ASCII are told by their codes. -/
theorem isLower_iff {c : Char} : c.isLower = true ↔ 0x61 ≤ c.toNat ∧ c.toNat ≤ 0x7A :=
  Bool.and_eq_true_iff.trans (and_congr decide_eq_true_iff decide_eq_true_iff)

/-- What is alphanumeric is a letter of either case or a digit. -/
theorem isAlphanum_iff {c : Char} : c.isAlphanum = true ↔ (c.isUpper = true ∨ c.isLower = true) ∨ c.isDigit = true :=
  Bool.or_eq_true_iff.trans (or_congr_left Bool.or_eq_true_iff)

end Text

/-- **Letters and digits in either case.**  A folded class of these holds them and two characters more. -/
theorem CharClass.contains_letters_iff {hyphen : Bool} {c : Char} :
    (letters hyphen).contains c = true ↔ IsAlphanumeric c ∨ (hyphen = true ∧ c = '-') := by
  have long : c = 'ſ' ↔ c.toNat = 0x17F := Char.toNat_inj.symm
  have kelvin : c = '\u212A' ↔ c.toNat = 0x212A := Char.toNat_inj.symm
  have minus : c = '-' ↔ c.toNat = 0x2D := Char.toNat_inj.symm
  rw [contains_eq rfl rfl fun _ lists _ => covers_of_lists_letters lists, lists_letters_iff, IsAlphanumeric,
    isAlphanum_iff, isUpper_iff, isLower_iff, isDigit_iff, long, kelvin, minus]
  rcases Nat.lt_or_ge c.toNat 0x80 with ascii | beyond
  · have folded := fold_of_lt ascii
    split at folded
    · rw [toNat_ofNat_of_lt (by omega), folded]
      omega
    · rw [toNat_ofNat_of_lt (by omega), folded]
      grind
  · rcases fold_of_le beyond with ⟨far, notLong, notKelvin⟩ | ⟨same, folded⟩ | ⟨same, folded⟩
    · rcases CaseMapping.toNat_ofNat (fold c.toNat) with valid | zero
      · rw [valid]
        omega
      · rw [zero]
        omega
    · rw [toNat_ofNat_of_lt (by omega), folded]
      omega
    · rw [toNat_ofNat_of_lt (by omega), folded]
      omega

end Vetting
