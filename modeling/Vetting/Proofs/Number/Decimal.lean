import Vetting.Number.Literal
import Vetting.Proofs.Check.OrdinalDate

/-!
# Decimal literals

The shape of decimal literals, and how they are read: read is exactly what has the shape
(`Shape.isSome_readUnsigned?_iff`).  No word of one part begins as a word of the next part does, so a text falls into
its parts in one way only, and the reader finds it by taking all the digits that there are.
-/

namespace Vetting

open scoped Computability
open Pattern Text

namespace Shape

/-! ## Shapes of numbers -/

/-- One or more decimal digits. -/
def digits : Pattern :=
  atLeastOnce digit

/-- A sign, or none. -/
def sign : Pattern :=
  optional (among ['+', '-'])

/-- A power of ten: a letter, an optional sign and digits. -/
def exponent : Pattern :=
  chain [among ['e', 'E'], sign, digits]

/-- Digits with a point among them or without one.  What may follow a point that has digits in front of it is given. -/
def mantissa (fraction : Pattern) : Pattern :=
  either (chain [digits, optional (chain [character '.', fraction])]) (chain [character '.', digits])

/-- A decimal literal without its sign. -/
def decimal (fraction : Pattern) : Pattern :=
  chain [mantissa fraction, optional exponent]

variable {words : Words} {text : List Char}

/-! ## Digits and signs -/

/-- A row of digits has nothing but digits. -/
theorem mem_kstar_digit_iff : text ∈ digit.language∗ ↔ ∀ c ∈ text, c.isDigit = true := by
  rw [digit, span, mem_kstar_one_iff]
  exact forall₂_congr fun c _ => contains_digit_iff

/-- In front of words that do not begin with a digit stand all the digits that there are. -/
theorem mem_kstar_digit_mul_iff (clear : Open (fun c => !c.isDigit) words) :
    text ∈ digit.language∗ * words ↔ text.dropWhile Char.isDigit ∈ words := by
  constructor
  · rintro ⟨row, own, rest, member, rfl⟩
    rw [List.dropWhile_append_of_pos (mem_kstar_digit_iff.mp own)]
    cases rest with
    | nil => exact member
    | cons c others =>
        have other := clear c others member
        rwa [List.dropWhile_cons_of_neg (by simpa using other)]
  · intro member
    exact ⟨_, mem_kstar_digit_iff.mpr fun c => List.mem_takeWhile_imp, _, member, List.takeWhile_append_dropWhile⟩

/-- Digits are one digit and then any number. -/
theorem language_digits : digits.language = digit.language * digit.language∗ :=
  language_atLeastOnce digit

/-- Digits are a row that is not empty and has nothing but digits. -/
theorem mem_digits_iff : text ∈ digits.language ↔ text ≠ [] ∧ ∀ c ∈ text, c.isDigit = true := by
  rw [language_digits]
  cases text with
  | nil => exact iff_of_false nil_not_mem_one_mul fun some => some.1 rfl
  | cons first rest =>
      rw [digit, span, cons_mem_one_mul_iff, contains_digit_iff, List.forall_mem_cons,
        and_iff_right (List.cons_ne_nil first rest)]
      exact and_congr_right' mem_kstar_digit_iff

/-- The same for digits of which there is at least one. -/
theorem mem_digits_mul_iff (clear : Open (fun c => !c.isDigit) words) :
    text ∈ digits.language * words ↔ text.takeWhile Char.isDigit ≠ [] ∧ text.dropWhile Char.isDigit ∈ words := by
  rw [language_digits, mul_assoc]
  cases text with
  | nil => exact iff_of_false nil_not_mem_one_mul fun some => some.1 rfl
  | cons first rest =>
      rw [digit, span, cons_mem_one_mul_iff, contains_digit_iff, ← span, ← digit, mem_kstar_digit_mul_iff clear]
      by_cases own : first.isDigit = true
      · rw [List.takeWhile_cons_of_pos own, List.dropWhile_cons_of_pos own, and_iff_right own,
          and_iff_right (List.cons_ne_nil _ _)]
      · rw [List.takeWhile_cons_of_neg own]
        exact iff_of_false (fun member => own member.1) fun some => some.1 rfl

/-- Without a sign in front the whole text is left. -/
theorem splitSign_cons {c : Char} (plus : c ≠ '+') (minus : c ≠ '-') :
    Number.splitSign (c :: text) = (false, c :: text) := by
  unfold Number.splitSign
  split
  next same => exact absurd (List.cons.inj same).1 minus
  next same => exact absurd (List.cons.inj same).1 plus
  next => rfl

/-- In front of words that do not begin with a sign stands the sign that there is. -/
theorem mem_sign_mul_iff (clear : Open (fun c => c != '+' && c != '-') words) :
    text ∈ sign.language * words ↔ (Number.splitSign text).2 ∈ words := by
  rw [sign, language_optional, add_mul, one_mul, Language.mem_add]
  cases text with
  | nil => exact or_iff_left nil_not_mem_one_mul
  | cons c rest =>
      rw [among, cons_mem_one_mul_iff, contains_among_iff]
      by_cases signed : c = '+' ∨ c = '-'
      · have other : c :: rest ∉ words := by
          intro member
          have own := clear c rest member
          rcases signed with rfl | rfl <;> cases own
        rw [or_iff_right other]
        rcases signed with rfl | rfl
        · exact and_iff_right (by decide)
        · exact and_iff_right (by decide)
      · obtain ⟨plus, minus⟩ := not_or.mp signed
        rw [splitSign_cons plus minus, or_iff_left]
        rintro ⟨listed, -⟩
        simp [plus, minus] at listed

/-! ## Decimal literals -/

/-- An exponent begins with its letter. -/
theorem open_exponent : Open (fun c => c == 'e' || c == 'E') exponent.language := by
  rw [exponent, language_chain]
  refine open_one_mul fun c holds => ?_
  have listed := contains_among_iff.mp holds
  simpa using listed

/-- An exponent can be read exactly if it is one or is missing. -/
theorem isSome_readExponent?_iff : (Number.readExponent? text).isSome = true ↔ text ∈ 1 + exponent.language := by
  have parts : exponent.language = (among ['e', 'E']).language * (sign.language * digits.language) := by
    rw [exponent, language_chain, List.map_cons, List.map_cons, List.map_cons, List.map_nil, List.prod_cons,
      List.prod_cons, List.prod_cons, List.prod_nil, mul_one]
  have clear : Open (fun c => c != '+' && c != '-') digits.language := by
    intro c rest member
    have digit := (mem_digits_iff.mp member).2 c List.mem_cons_self
    rw [isDigit_iff] at digit
    simp [← Char.toNat_inj]
    omega
  cases text with
  | nil => exact iff_of_true rfl (.inl rfl)
  | cons c rest =>
      rw [Language.mem_add, Language.mem_one, or_iff_right (List.cons_ne_nil c rest), parts, among,
        cons_mem_one_mul_iff, contains_among_iff, mem_sign_mul_iff clear, mem_digits_iff, Number.readExponent?]
      by_cases mark : c = 'e' ∨ c = 'E'
      · obtain ⟨negative, row⟩ := Number.splitSign rest
        rw [if_pos mark, and_iff_right (by simpa using mark)]
        by_cases written : row ≠ [] ∧ ∀ c ∈ row, c.isDigit = true
        · have passes : (row.isEmpty || !row.all Char.isDigit) = false := by simpa using written
          refine iff_of_true ?_ written
          simp only [passes]
          cases negative <;> rfl
        · have fails : (row.isEmpty || !row.all Char.isDigit) = true := by
            simpa [not_and_or, or_iff_not_imp_left] using written
          refine iff_of_false ?_ written
          simp only [fails]
          exact Bool.false_ne_true
      · rw [if_neg mark]
        exact iff_of_false Bool.false_ne_true fun given => mark (by simpa using given.1)

/-- The power of ten behind a decimal literal, if there is one. -/
theorem open_scale : Open (fun c => !c.isDigit) (1 + exponent.language) := by
  refine open_one.add fun c rest member => ?_
  have own := open_exponent c rest member
  rcases Bool.or_eq_true_iff.mp own with same | same
  · exact beq_iff_eq.mp same ▸ rfl
  · exact beq_iff_eq.mp same ▸ rfl

/-- A decimal has digits in front of its point, or behind it, or on both sides. -/
theorem mem_decimal_iff {fraction : Pattern} : text ∈ (decimal fraction).language ↔
    text ∈ digits.language * ((1 + {['.']} * fraction.language) * (1 + exponent.language)) ∨
      text ∈ {['.']} * (digits.language * (1 + exponent.language)) := by
  simp only [decimal, mantissa, language_chain, language_either, language_optional, language_character, List.map_cons,
    List.map_nil, List.prod_cons, List.prod_nil, mul_one, add_mul, mul_assoc, Language.mem_add]

/-- What begins with a point goes on behind it. -/
theorem cons_mem_point_mul_iff {c : Char} {rest : List Char} :
    c :: rest ∈ ({['.']} : Words) * words ↔ c = '.' ∧ rest ∈ words := by
  rw [← language_character, cons_mem_character_mul_iff]

/-- A text that begins with a point has no digits in front of it. -/
theorem mem_point_mul_iff : text ∈ ({['.']} : Words) * words ↔
    text.takeWhile Char.isDigit = [] ∧ ∃ rest ∈ words, text.dropWhile Char.isDigit = '.' :: rest := by
  cases text with
  | nil =>
      rw [← language_character, character]
      refine iff_of_false nil_not_mem_one_mul ?_
      rintro ⟨-, _, -, same⟩
      cases same
  | cons c rest =>
      rw [cons_mem_point_mul_iff]
      by_cases own : c.isDigit = true
      · rw [List.takeWhile_cons_of_pos own]
        refine iff_of_false ?_ ?_
        · rintro ⟨rfl, -⟩
          cases own
        · rintro ⟨nothing, -⟩
          cases nothing
      · rw [List.takeWhile_cons_of_neg own, List.dropWhile_cons_of_neg own, and_iff_right rfl]
        constructor
        · rintro ⟨rfl, member⟩
          exact ⟨rest, member, rfl⟩
        · rintro ⟨_, member, same⟩
          obtain ⟨rfl, rfl⟩ := List.cons.inj same
          exact ⟨rfl, member⟩

/-- With a point, digits must stand on one of its sides at least, and an exponent may follow. -/
theorem isSome_readUnsigned?_of_point {rest : List Char} (point : text.dropWhile Char.isDigit = '.' :: rest) :
    (Number.readUnsigned? text).isSome = true ↔
      ¬ (text.takeWhile Char.isDigit = [] ∧ rest.takeWhile Char.isDigit = []) ∧
        rest.dropWhile Char.isDigit ∈ 1 + exponent.language := by
  rw [← isSome_readExponent?_iff, Number.readUnsigned?, point, ← List.isEmpty_iff, ← List.isEmpty_iff,
    ← Bool.and_eq_true]
  split
  next fraction behind same =>
    obtain ⟨rfl, rfl⟩ : rest.takeWhile Char.isDigit = fraction ∧ rest.dropWhile Char.isDigit = behind :=
      Prod.mk.inj same
    split
    next empty => exact iff_of_false Bool.false_ne_true fun some => some.1 empty
    next some => rw [Option.isSome_map, and_iff_right some]

/-- Without a point, digits must stand in front, and an exponent may follow. -/
theorem isSome_readUnsigned?_of_no_point (pointless : ∀ rest, text.dropWhile Char.isDigit ≠ '.' :: rest) :
    (Number.readUnsigned? text).isSome = true ↔
      text.takeWhile Char.isDigit ≠ [] ∧ text.dropWhile Char.isDigit ∈ 1 + exponent.language := by
  rw [← isSome_readExponent?_iff, Number.readUnsigned?]
  split
  next fraction behind same =>
    split at same
    next rest point => exact absurd point (pointless rest)
    next =>
      cases same
      rw [List.isEmpty_nil, Bool.and_true, ne_eq, ← List.isEmpty_iff]
      split
      next empty => exact iff_of_false Bool.false_ne_true fun some => some.1 empty
      next some => rw [Option.isSome_map, and_iff_right some]

/-- **Decimal literals.**  Read is what has digits, a point among them or none, and perhaps a power of ten. -/
theorem isSome_readUnsigned?_iff :
    (Number.readUnsigned? text).isSome = true ↔ text ∈ (decimal (many digit)).language := by
  have clear : Open (fun c => !c.isDigit) ((1 + {['.']} * (many digit).language) * (1 + exponent.language)) := by
    rw [add_mul, one_mul, mul_assoc, ← language_character, character]
    exact open_scale.add (open_one_mul fun c holds => contains_single_iff.mp holds ▸ rfl)
  rw [mem_decimal_iff, mem_digits_mul_iff clear, mem_point_mul_iff, language_many, add_mul, one_mul, mul_assoc,
    Language.mem_add]
  by_cases pointed : ∃ rest, text.dropWhile Char.isDigit = '.' :: rest
  · obtain ⟨rest, point⟩ := pointed
    have unscaled : '.' :: rest ∉ 1 + exponent.language := by
      rintro (nothing | power)
      · cases nothing
      · cases open_exponent _ _ power
    rw [isSome_readUnsigned?_of_point point, point, or_iff_right unscaled, cons_mem_point_mul_iff, and_iff_right rfl,
      mem_kstar_digit_mul_iff open_scale]
    simp only [List.cons.injEq, true_and, exists_eq_right', mem_digits_mul_iff open_scale]
    tauto
  · rw [not_exists] at pointed
    have pointless : text.dropWhile Char.isDigit ∉ ({['.']} : Words) * (digit.language∗ * (1 + exponent.language)) := by
      intro member
      cases behind : text.dropWhile Char.isDigit with
      | nil =>
          rw [behind] at member
          obtain ⟨-, _, -, same⟩ := mem_point_mul_iff.mp member
          cases same
      | cons c rest =>
          rw [behind] at member
          obtain ⟨rfl, -⟩ := cons_mem_point_mul_iff.mp member
          exact pointed rest behind
    rw [isSome_readUnsigned?_of_no_point pointed, or_iff_left pointless, or_iff_left]
    rintro ⟨-, rest, -, same⟩
    exact pointed rest same

end Shape

end Vetting
