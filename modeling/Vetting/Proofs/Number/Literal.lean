import Vetting.Proofs.Number.Decimal

/-!
# The grammar of numeric literals

What is read as a number is exactly what has the shape of a numeric literal, blanks at its ends aside
(`Number.isSome_readLiteral?_iff`).  Doubles have names that are no literals; all of these but `Infinity` have a letter
that keeps them away (`Number.any_isForeign_of_readWord?`).
-/

namespace Vetting

open scoped Computability
open Pattern Text

namespace Shape

/-! ## Shapes of literals -/

/-- The word for an infinite number. -/
def infinity : Pattern :=
  chain ("Infinity".toList.map character)

/-- A base of numbers, with the letters that announce it and its digits. -/
structure Radix where
  base : Nat
  marks : List Char
  digits : List ClassItem

/-- The bases that can be announced. -/
def radixes : List Radix := [
  ⟨16, ['x', 'X'], [.range '0' '9', .range 'a' 'f', .range 'A' 'F']⟩,
  ⟨8, ['o', 'O'], [.range '0' '7']⟩,
  ⟨2, ['b', 'B'], [.range '0' '1']⟩]

/-- Digits behind a zero and a letter that announces their base. -/
def announced (radix : Radix) : Pattern :=
  chain [character '0', among radix.marks, atLeastOnce (oneOfClass radix.digits false)]

/-- A numeric literal: nothing, digits whose base is announced, or an infinite or decimal number with an optional
sign. -/
def literal (fraction : Pattern) : Pattern :=
  oneOf empty (radixes.map announced ++ [chain [sign, either infinity (decimal fraction)]])

variable {text : List Char}

/-! ## Digits in other bases -/

/-- An announced literal has a zero, a mark of its base and a row of the digits of the base. -/
theorem mem_announced_iff {radix : Radix} :
    text ∈ (announced radix).language ↔ ∃ mark ∈ radix.marks, ∃ row, text = '0' :: mark :: row ∧ row ≠ [] ∧
      ∀ c ∈ row, (CharClass.mk radix.digits false false).contains c = true := by
  simp only [announced, oneOfClass, language_chain, language_atLeastOnce, List.map_cons, List.map_nil, List.prod_cons,
    List.prod_nil, mul_one]
  constructor
  · rintro ⟨_, zero, _, ⟨_, ⟨mark, listed, rfl⟩, _, ⟨_, ⟨first, own, rfl⟩, rest, others, rfl⟩, rfl⟩, rfl⟩
    obtain rfl := mem_character_iff.mp zero
    exact ⟨mark, contains_among_iff.mp listed, first :: rest, rfl, List.cons_ne_nil _ _,
      List.forall_mem_cons.mpr ⟨own, mem_kstar_one_iff.mp others⟩⟩
  · rintro ⟨mark, listed, row, rfl, some, own⟩
    cases row with
    | nil => exact absurd rfl some
    | cons first rest =>
        rw [character, cons_mem_one_mul_iff, contains_single_iff, and_iff_right rfl, among, cons_mem_one_mul_iff,
          contains_among_iff, and_iff_right listed, cons_mem_one_mul_iff, mem_kstar_one_iff]
        exact List.forall_mem_cons.mp own

/-- A digit of a base is told by its code. -/
theorem isSome_digitValue?_iff_toNat {base : Nat} {c : Char} : (Number.digitValue? base c).isSome = true ↔
    (48 ≤ c.toNat ∧ c.toNat ≤ 57 ∧ c.toNat < base + 48) ∨
      (97 ≤ c.toNat ∧ c.toNat ≤ 102 ∧ c.toNat < base + 87) ∨
        (65 ≤ c.toNat ∧ c.toNat ≤ 70 ∧ c.toNat < base + 55) := by
  simp only [Number.digitValue?, isDigit_iff, CharClass.le_iff, Char.reduceToNat]
  split_ifs <;>
    simp only [Option.isSome_filter, Option.any_some, Option.any_none, decide_eq_true_eq, Bool.false_eq_true,
      false_iff] <;>
    omega

/-- The digits of a known base are those of its class. -/
theorem isSome_digitValue?_iff {radix : Radix} (known : radix ∈ radixes) {c : Char} :
    (Number.digitValue? radix.base c).isSome = true ↔
      (CharClass.mk radix.digits false false).contains c = true := by
  rw [isSome_digitValue?_iff_toNat]
  simp only [radixes, List.mem_cons, List.not_mem_nil, or_false] at known
  rcases known with rfl | rfl | rfl <;>
    simp only [contains_plain, ClassItem.covers, CharClass.le_iff, List.any_cons, List.any_nil, Bool.or_eq_true,
      Bool.and_eq_true, decide_eq_true_eq, Bool.false_eq_true, or_false, Char.reduceToNat] <;>
    omega

/-- A list can be read if each of its items can. -/
theorem isSome_mapM_iff {α β : Type} {f : α → Option β} {list : List α} :
    (list.mapM f).isSome = true ↔ ∀ item ∈ list, (f item).isSome = true := by
  induction list with
  | nil => exact iff_of_true rfl (List.forall_mem_nil _)
  | cons first rest ih =>
      rw [List.forall_mem_cons, ← ih, List.mapM_cons]
      cases f first <;> cases rest.mapM f <;> simp

/-- A row can be read in a base if it is not empty and has nothing but digits of the base. -/
theorem isSome_readInBase?_iff {base : Nat} : (Number.readInBase? base text).isSome = true ↔
    text ≠ [] ∧ ∀ c ∈ text, (Number.digitValue? base c).isSome = true := by
  rw [Number.readInBase?, ne_eq, ← List.isEmpty_iff]
  split
  next empty => exact iff_of_false Bool.false_ne_true fun some => some.1 empty
  next some => rw [Option.isSome_map, isSome_mapM_iff, and_iff_right some]

/-- A base is announced by a zero and one of its marks. -/
theorem announcedBase?_eq_some_iff {base : Nat} {row : List Char} :
    Number.announcedBase? text = some (base, row) ↔
      ∃ radix ∈ radixes, radix.base = base ∧ ∃ mark ∈ radix.marks, text = '0' :: mark :: row := by
  constructor
  · intro found
    unfold Number.announcedBase? at found
    split at found
    next mark rest =>
      split_ifs at found with sixteen eight two <;>
        obtain ⟨rfl, rfl⟩ := Prod.mk.inj (Option.some.inj found)
      · exact ⟨_, List.mem_cons_self, rfl, mark, by simpa using sixteen, rfl⟩
      · exact ⟨_, List.mem_cons_of_mem _ List.mem_cons_self, rfl, mark, by simpa using eight, rfl⟩
      · exact ⟨_, List.mem_cons_of_mem _ (List.mem_cons_of_mem _ List.mem_cons_self), rfl, mark, by simpa using two,
          rfl⟩
    next => cases found
  · rintro ⟨radix, known, rfl, mark, listed, rfl⟩
    simp only [radixes, List.mem_cons, List.not_mem_nil, or_false] at known
    rcases known with rfl | rfl | rfl <;>
      simp only [List.mem_cons, List.not_mem_nil, or_false] at listed <;>
      rcases listed with rfl | rfl <;> rfl

/-- **Announced bases.**  Read is a row of digits of the base that is announced. -/
theorem exists_announced_iff : (∃ radix ∈ radixes, text ∈ (announced radix).language) ↔
    ∃ base row, Number.announcedBase? text = some (base, row) ∧ (Number.readInBase? base row).isSome = true := by
  simp only [announcedBase?_eq_some_iff, isSome_readInBase?_iff, mem_announced_iff]
  constructor
  · rintro ⟨radix, known, mark, listed, row, rfl, some, own⟩
    exact ⟨_, row, ⟨radix, known, rfl, mark, listed, rfl⟩, some,
      fun c among => (isSome_digitValue?_iff known).mpr (own c among)⟩
  · rintro ⟨_, row, ⟨radix, known, rfl, mark, listed, rfl⟩, some, own⟩
    exact ⟨radix, known, mark, listed, row, rfl, some,
      fun c among => (isSome_digitValue?_iff known).mp (own c among)⟩

/-! ## Literals -/

/-- A literal is empty, or announced, or a decimal or an infinity with a sign. -/
theorem mem_literal_iff {fraction : Pattern} : text ∈ (literal fraction).language ↔
    text = [] ∨ (∃ radix ∈ radixes, text ∈ (announced radix).language) ∨
      text ∈ sign.language * (infinity.language + (decimal fraction).language) := by
  rw [literal, mem_oneOf_iff, List.exists_mem_cons_iff]
  simp only [List.mem_append, or_and_right, exists_or, List.mem_map, exists_exists_and_eq_and, List.mem_singleton,
    exists_eq_left, language_chain, List.map_cons, List.map_nil, List.prod_cons, List.prod_nil, mul_one,
    language_either]
  rfl

/-- Infinity is written in one way. -/
theorem mem_infinity_iff : text ∈ infinity.language ↔ text = "Infinity".toList := by
  rw [infinity, language_chain_character]
  rfl

/-- Infinity begins with no sign. -/
theorem open_infinity : Open (fun c => c != '+' && c != '-') infinity.language := by
  intro c rest member
  obtain ⟨rfl, -⟩ := List.cons.inj (mem_infinity_iff.mp member)
  rfl

/-- Nothing without a sign begins with one. -/
theorem open_unsigned {fraction : Pattern} :
    Open (fun c => c != '+' && c != '-') (infinity.language + (decimal fraction).language) := by
  refine open_infinity.add fun c rest member => ?_
  rcases mem_decimal_iff.mp member with whole | point
  · rw [language_digits, mul_assoc, digit, span] at whole
    have own := isDigit_iff.mp (contains_digit_iff.mp (cons_mem_one_mul_iff.mp whole).1)
    simp [← Char.toNat_inj]
    omega
  · obtain ⟨rfl, -⟩ := cons_mem_point_mul_iff.mp point
    rfl

end Shape

namespace Number

open Shape

variable {text : List Char}

/-- A letter that is not the one of a power of ten. -/
def isForeign (c : Char) : Bool :=
  isAlphabetic c && c != 'e' && c != 'E'

/-- Digits are no letters of words for numbers. -/
theorem not_isForeign_of_isDigit {c : Char} (digit : c.isDigit = true) : isForeign c = false := by
  rw [isDigit_iff] at digit
  have small : c.toNat < 0x80 := by omega
  have noLetter : (c.isUpper || c.isLower) = false := by
    rw [← Bool.not_eq_true, Bool.or_eq_true, isUpper_iff, isLower_iff]
    omega
  change c.isAlpha = false at noLetter
  rw [isForeign, isAlphabetic, if_pos small, noLetter]
  rfl

/-- Decimals are written without the letters of words for numbers. -/
theorem writes_decimal : (decimal (many digit)).Writes fun c => isForeign c = false := by
  have digits : digit.Writes fun c => isForeign c = false :=
    fun c holds => not_isForeign_of_isDigit (contains_digit_iff.mp holds)
  have point : (character '.').Writes fun c => isForeign c = false := by
    intro c holds
    rw [contains_single_iff.mp holds]
    decide
  have mark : (among ['e', 'E']).Writes fun c => isForeign c = false := by
    intro c holds
    have listed := contains_among_iff.mp holds
    rcases List.mem_pair.mp listed with rfl | rfl <;> decide
  have sign : (among ['+', '-']).Writes fun c => isForeign c = false := by
    intro c holds
    have listed := contains_among_iff.mp holds
    rcases List.mem_pair.mp listed with rfl | rfl <;> decide
  exact ⟨⟨⟨digits, point, digits⟩, point, digits⟩, mark, sign, digits⟩

/-- What is read as a word. -/
theorem isSome_readWord?_iff : (readWord? (.ofList text)).isSome = true ↔
    (splitSign text).2.map Char.toLower ∈ ["inf".toList, "infinity".toList, "nan".toList] := by
  rw [readWord?, String.toList_ofList]
  generalize splitSign text = parts
  simp only [Option.isSome_map, List.mem_cons, List.not_mem_nil, or_false, ← String.toList_inj, String.toList_ofList,
    ← or_assoc]
  split_ifs with infinite none
  · exact iff_of_true rfl (.inl infinite)
  · exact iff_of_true rfl (.inr none)
  · exact iff_of_false Bool.false_ne_true (not_or_intro infinite none)

/-- The letter `n`, in either case, is one of words for numbers. -/
theorem isForeign_of_toLower {c : Char} (same : c.toLower = 'n') : isForeign c = true := by
  unfold Char.toLower at same
  split at same
  next capital =>
    have bound : c.toNat ≤ 90 := UInt32.le_iff_toNat_le.mp capital.2
    have moved : (c.toNat + 32) % 4294967296 = 110 := by simpa [← Char.toNat_inj] using same
    have letter : c = 'N' := by
      rw [← Char.toNat_inj]
      simp only [Char.reduceToNat]
      omega
    exact letter ▸ rfl
  next => exact same ▸ rfl

/-- A word for a number has one of its letters behind the sign. -/
theorem any_isForeign_of_readWord? (word : (readWord? (.ofList text)).isSome = true) :
    (splitSign text).2.any isForeign = true := by
  have letter : 'n' ∈ (splitSign text).2.map Char.toLower := by
    have listed := isSome_readWord?_iff.mp word
    simp only [List.mem_cons, List.not_mem_nil, or_false] at listed
    rcases listed with same | same | same <;> rw [same] <;> decide
  obtain ⟨c, among, same⟩ := List.mem_map.mp letter
  exact List.any_eq_true.mpr ⟨c, among, isForeign_of_toLower same⟩

/-- The letter that announces a base rules out a decimal number. -/
theorem not_isSome_readUnsigned? {radix : Radix} (known : radix ∈ radixes) {mark : Char} (listed : mark ∈ radix.marks)
    (row : List Char) : ¬ (readUnsigned? ('0' :: mark :: row)).isSome = true := by
  have marks : radixes.all (fun radix => radix.marks.all fun mark =>
      !mark.isDigit && mark != '.' && !(mark == 'e' || mark == 'E')) = true := rfl
  have own := List.all_eq_true.mp (List.all_eq_true.mp marks radix known) mark listed
  rw [Bool.and_eq_true, Bool.and_eq_true, Bool.not_eq_true', Bool.not_eq_true', bne_iff_ne, ← Bool.not_eq_true,
    ← Bool.not_eq_true] at own
  obtain ⟨⟨noDigit, noPoint⟩, noPower⟩ := own
  have behind : ('0' :: mark :: row).dropWhile Char.isDigit = mark :: row := by
    rw [List.dropWhile_cons_of_pos rfl, List.dropWhile_cons_of_neg noDigit]
  rw [isSome_readUnsigned?_of_no_point, behind]
  · rintro ⟨-, nothing | power⟩
    · cases nothing
    · exact noPower (open_exponent mark row power)
  · intro rest same
    rw [behind] at same
    exact noPoint (List.cons.inj same).1

/-- A trimmed text can be read exactly if it is a literal. -/
theorem isSome_readTrimmed?_iff (some : text ≠ []) :
    (readTrimmed? text).isSome = true ↔ text ∈ (literal (many digit)).language := by
  rw [mem_literal_iff, or_iff_right some, exists_announced_iff, mem_sign_mul_iff open_unsigned, Language.mem_add,
    mem_infinity_iff, ← isSome_readUnsigned?_iff, readTrimmed?]
  cases found : announcedBase? text with
  | some announcement =>
      obtain ⟨base, row⟩ := announcement
      obtain ⟨radix, known, -, mark, listed, rfl⟩ := announcedBase?_eq_some_iff.mp found
      have finite : '0' :: mark :: row ≠ "Infinity".toList := fun same => absurd (List.cons.inj same).1 (by decide)
      rw [splitSign_cons (by decide) (by decide),
        or_iff_left (not_or_intro finite (not_isSome_readUnsigned? known listed row))]
      simp
  | none =>
      have unannounced : ¬ ∃ base row, (none : Option (Nat × List Char)) = .some (base, row) ∧
          (readInBase? base row).isSome = true := by
        rintro ⟨_, _, same, -⟩
        cases same
      rw [or_iff_right unannounced]
      dsimp only
      split
      next infinite => exact iff_of_true rfl (.inl infinite)
      next finite =>
        rw [or_iff_right finite]
        split
        next foreign =>
          refine iff_of_false Bool.false_ne_true fun decimal => ?_
          obtain ⟨c, among, own⟩ := List.any_eq_true.mp foreign
          have clean := writes_decimal.of_mem (isSome_readUnsigned?_iff.mp decimal) c among
          exact absurd own (by rw [← isForeign, clean]; decide)
        next own =>
          have noWord : readWord? (.ofList text) = none :=
            Option.not_isSome_iff_eq_none.mp fun word => own (any_isForeign_of_readWord? word)
          rw [readDouble?, noWord, Option.none_or, String.toList_ofList, readDecimal?]
          exact iff_of_eq (congrArg (· = true) Option.isSome_map)

/-- Of the words that doubles have, only one is a literal. -/
theorem eq_infinity_of_readWord? (word : (readWord? (.ofList text)).isSome = true)
    (member : text = [] ∨ (∃ radix ∈ radixes, text ∈ (announced radix).language) ∨
      (splitSign text).2 ∈ infinity.language + (decimal (many digit)).language) :
    (splitSign text).2 = "Infinity".toList := by
  have foreign := any_isForeign_of_readWord? word
  rcases member with rfl | ⟨radix, -, based⟩ | infinite | decimal
  · cases foreign
  · obtain ⟨mark, -, row, rfl, -⟩ := mem_announced_iff.mp based
    rw [isSome_readWord?_iff, splitSign_cons (by decide) (by decide), List.map_cons] at word
    simp at word
  · exact mem_infinity_iff.mp infinite
  · obtain ⟨c, among, own⟩ := List.any_eq_true.mp foreign
    rw [writes_decimal.of_mem decimal c among] at own
    cases own

/-- **Numeric literals.**  Read as a number is exactly what is a literal between blanks.  A word that doubles have is
among these only as `Infinity`, with a sign or without one. -/
theorem isSome_readLiteral?_iff (text : String) :
    ((readLiteral? text).isSome = true ↔ trimmed text.toList ∈ (literal (many digit)).language) ∧
      ((readWord? (trim text)).isSome = true ∧ (readLiteral? text).isSome = true ↔
        trimmed text.toList ∈ (chain [Shape.sign, infinity]).language) := by
  have grammar : (readLiteral? text).isSome = true ↔ trimmed text.toList ∈ (literal (many digit)).language := by
    rw [readLiteral?]
    split
    next empty =>
      rw [empty, mem_literal_iff]
      exact iff_of_true rfl (.inl rfl)
    next some => exact isSome_readTrimmed?_iff some
  refine ⟨grammar, ?_⟩
  rw [grammar, language_chain, List.map_cons, List.map_singleton, List.prod_cons, List.prod_singleton,
    mem_sign_mul_iff open_infinity, mem_infinity_iff, mem_literal_iff, mem_sign_mul_iff open_unsigned, trim]
  constructor
  · rintro ⟨word, literal⟩
    exact eq_infinity_of_readWord? word literal
  · intro infinite
    refine ⟨?_, .inr (.inr (.inl (mem_infinity_iff.mpr infinite)))⟩
    rw [isSome_readWord?_iff, infinite]
    decide

/-- A point that ends a literal is read as well. -/
theorem not_digits_behind_point :
    ¬ ((readLiteral? "1.").isSome = true ↔ trimmed "1.".toList ∈ (literal digits).language) := by
  have read : (readLiteral? "1.").isSome = true := by decide +kernel
  have shape : (whole [literal digits]).occursIn "1." = true ↔ _ := occursIn_whole_iff (by decide)
  rw [List.map_singleton, List.prod_singleton] at shape
  intro claim
  have trimmed : trimmed "1.".toList = "1.".toList := by decide +kernel
  have member := claim.mp read
  rw [trimmed, ← shape] at member
  exact absurd member (by decide +kernel)

end Number

end Vetting
