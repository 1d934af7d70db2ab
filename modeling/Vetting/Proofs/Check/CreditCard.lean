import Mathlib.Algebra.BigOperators.Group.List.Basic
import Vetting.Proofs.Check.Texts
import Vetting.Proofs.Text.Digits

/-!
# What a check digit detects

A text passes as a card number exactly if its digits, spaces and dashes left out, are of the right number and their
weighted sum is a multiple of ten.  Such a sum tells all slips in one digit, and all exchanges of two neighbours but
those of 0 and 9, and each row of digits can be completed in one way only (`Check.detecting_creditCard`).

All this rests on the two weights of a digit.  Which of them counts at a place depends on how many digits stand behind
it alone (`CreditCard.exists_sumFrom_append`), so a slip changes the sum by a difference of weights of the same kind.
-/

namespace Vetting

open Text

namespace CreditCard

/-! ## Cards -/

/-- What is left of a text without its spaces and dashes. -/
def signs (text : List Char) : List Char :=
  text.filter fun c => c != ' ' && c != '-'

/-- The sum of digits, counted from the last one on; every second one counts twice, less nine if that has two digits. -/
def luhnSum (digits : List Nat) : Nat :=
  (digits.reverse.zipIdx.map fun (digit, place) => if place % 2 = 1 then doubled digit else digit).sum

/-- The text is twelve to nineteen decimal digits, among spaces and dashes, and their sum is a multiple of ten. -/
structure IsCard (text : List Char) : Prop where
  digits : ∀ c ∈ signs text, c.isDigit = true
  enough : 12 ≤ (signs text).length
  few : (signs text).length ≤ 19
  checked : 10 ∣ luhnSum ((signs text).map digitValue)

/-! ## Sums from the front -/

/-- What a digit counts, doubled or not. -/
def weight (double : Bool) (digit : Nat) : Nat :=
  if double then doubled digit else digit

/-- The sum of digits from the front on, where the first one is doubled or not, and then the other way each time. -/
def sumFrom : Bool → List Nat → Nat
  | _, [] => 0
  | double, digit :: rest => weight double digit + sumFrom (!double) rest

/-- The weighted sum begins with a digit that is not doubled. -/
theorem weightedSum_eq (digits : List Nat) : weightedSum digits = sumFrom false digits := by
  induction digits using weightedSum.induct with
  | case1 => rfl
  | case2 digit => rfl
  | case3 first second rest ih =>
      rw [weightedSum, ih, Nat.add_assoc]
      rfl

/-- The sum doubles the digits at odd places. -/
theorem sumFrom_eq (digits : List Nat) (place : Nat) :
    sumFrom (place % 2 == 1) digits =
      ((digits.zipIdx place).map fun (digit, place) => if place % 2 = 1 then doubled digit else digit).sum := by
  induction digits generalizing place with
  | nil => rfl
  | cons digit rest ih =>
      have next : (!(place % 2 == 1)) = ((place + 1) % 2 == 1) := by
        rw [Bool.eq_iff_iff, Bool.not_eq_true', beq_eq_false_iff_ne, beq_iff_eq]
        omega
      rw [sumFrom, next, ih, List.zipIdx_cons, List.map_cons, List.sum_cons, weight]
      simp only [beq_iff_eq]

/-- The sum of Luhn counts places from the right. -/
theorem luhnSum_eq (digits : List Nat) : luhnSum digits = sumFrom false digits.reverse :=
  (sumFrom_eq digits.reverse 0).symm

/-- What stands behind some digits counts in a way that depends on them alone. -/
theorem exists_sumFrom_append (double : Bool) (before : List Nat) :
    ∃ next, ∀ after, sumFrom double (before ++ after) = sumFrom double before + sumFrom next after := by
  induction before generalizing double with
  | nil => exact ⟨double, fun after => (Nat.zero_add _).symm⟩
  | cons digit rest ih =>
      obtain ⟨next, appended⟩ := ih !double
      refine ⟨next, fun after => ?_⟩
      rw [List.cons_append, sumFrom, appended, sumFrom, Nat.add_assoc]

/-! ## Weights -/

/-- At the same place different digits weigh differently. -/
theorem weight_inj : ∀ double, ∀ c < 10, ∀ d < 10, weight double c % 10 = weight double d % 10 → c = d := by
  decide

/-- At neighbouring places only a zero and a nine may be swapped without a trace. -/
theorem weight_swap : ∀ double, ∀ c < 10, ∀ d < 10,
    (weight double c + weight (!double) d) % 10 = (weight double d + weight (!double) c) % 10 →
      c = d ∨ (c = 0 ∧ d = 9) ∨ (c = 9 ∧ d = 0) := by
  decide

/-- Numbers that differ in one digit do not both have a sum that is divisible by ten. -/
theorem eq_of_sums {double : Bool} {before after : List Nat} {c d : Nat} (small : c < 10) (other : d < 10)
    (one : 10 ∣ sumFrom double (before ++ c :: after)) (two : 10 ∣ sumFrom double (before ++ d :: after)) : c = d := by
  obtain ⟨next, appended⟩ := exists_sumFrom_append double before
  rw [appended, sumFrom] at one two
  exact weight_inj next c small d other (by omega)

/-- Numbers in which two neighbours are swapped do not both have such a sum, unless these are a zero and a nine. -/
theorem eq_of_swapped_sums {double : Bool} {before after : List Nat} {c d : Nat} (small : c < 10) (other : d < 10)
    (one : 10 ∣ sumFrom double (before ++ c :: d :: after)) (two : 10 ∣ sumFrom double (before ++ d :: c :: after)) :
    c = d ∨ (c = 0 ∧ d = 9) ∨ (c = 9 ∧ d = 0) := by
  obtain ⟨next, appended⟩ := exists_sumFrom_append double before
  rw [appended, sumFrom, sumFrom] at one two
  exact weight_swap next c small d other (by omega)

/-! ## Reading a text -/

section Reading

variable {text : List Char} {c : Char}

/-- A digit is no sign between digits. -/
theorem isSign_of_isDigit (digit : c.isDigit = true) : (c != ' ' && c != '-') = true := by
  rw [Bool.and_eq_true, bne_iff_ne, bne_iff_ne]
  refine ⟨?_, ?_⟩
  · rintro rfl
    cases digit
  · rintro rfl
    cases digit

/-- Signs are left out on both sides. -/
theorem signs_append (before after : List Char) : signs (before ++ after) = signs before ++ signs after :=
  List.filter_append before after

/-- Digits are not left out. -/
theorem signs_cons (digit : c.isDigit = true) (rest : List Char) : signs (c :: rest) = c :: signs rest :=
  List.filter_cons_of_pos (isSign_of_isDigit digit)

/-- Digits are read one by one, and nothing else is. -/
theorem mapM_eq_some_iff {digits : List Nat} :
    (text.mapM fun c => if c.isDigit then some (c.toNat - '0'.toNat) else none) = some digits ↔
      (∀ c ∈ text, c.isDigit = true) ∧ digits = text.map digitValue := by
  induction text generalizing digits with
  | nil =>
      constructor
      · intro same
        exact ⟨List.forall_mem_nil _, (Option.some.inj same).symm⟩
      · rintro ⟨-, rfl⟩
        rfl
  | cons c rest ih =>
      rw [List.mapM_cons, List.forall_mem_cons, List.map_cons]
      by_cases digit : c.isDigit = true
      · rw [if_pos digit]
        simp only [Option.bind_eq_bind, Option.bind_some, Option.bind_eq_some_iff, ih, digit, true_and]
        constructor
        · rintro ⟨_, ⟨others, rfl⟩, same⟩
          exact ⟨others, (Option.some.inj same).symm⟩
        · rintro ⟨others, rfl⟩
          exact ⟨_, ⟨others, rfl⟩, rfl⟩
      · rw [if_neg digit]
        exact iff_of_false (fun same => nomatch same) fun all => digit all.1.1

/-- A text is taken for a number of a card exactly if it is one. -/
theorem isNumber_iff {text : String} : isNumber text = true ↔ IsCard text.toList := by
  have read := @mapM_eq_some_iff (signs text.toList)
  rw [isNumber, digits?, ← signs]
  cases found : (signs text.toList).mapM fun c => if c.isDigit then some (c.toNat - '0'.toNat) else none with
  | none =>
      refine iff_of_false Bool.false_ne_true fun card => ?_
      exact Option.some_ne_none _ ((read.mpr ⟨card.digits, rfl⟩).symm.trans found)
  | some digits =>
      obtain ⟨all, rfl⟩ := read.mp found
      simp only [List.length_map, Bool.and_eq_true, decide_eq_true_eq, beq_iff_eq, weightedSum_eq, ← luhnSum_eq,
        ← Nat.dvd_iff_mod_eq_zero]
      exact ⟨fun ⟨⟨enough, few⟩, checked⟩ => ⟨all, enough, few, checked⟩,
        fun card => ⟨⟨card.enough, card.few⟩, card.checked⟩⟩

end Reading

/-! ## Slips -/

section Slips

variable {text before between after : List Char} {c d : Char}

/-- The digits of a card have a sum that is divisible by ten. -/
theorem IsCard.sum (card : IsCard text) : 10 ∣ sumFrom false ((signs text).map digitValue).reverse :=
  luhnSum_eq _ ▸ card.checked

/-- A card with another digit in one place is no card. -/
theorem not_isCard_of_replaced (digit : c.isDigit = true) (other : d.isDigit = true) (different : c ≠ d)
    (card : IsCard (before ++ c :: after)) : ¬ IsCard (before ++ d :: after) := by
  intro slip
  have one := card.sum
  have two := slip.sum
  simp only [signs_append, signs_cons digit, signs_cons other, List.map_append, List.map_cons, List.reverse_append,
    List.reverse_cons, List.append_assoc, List.singleton_append] at one two
  have same := eq_of_sums (digitValue_lt digit) (digitValue_lt other) one two
  exact different ((digitValue_inj digit other).mp same)

/-- A card with two neighbours swapped is no card, unless these are a zero and a nine. -/
theorem not_isCard_of_swapped (blank : signs between = []) (digit : c.isDigit = true) (other : d.isDigit = true)
    (different : c ≠ d) (notFirst : ¬ (c = '0' ∧ d = '9')) (notSecond : ¬ (c = '9' ∧ d = '0'))
    (card : IsCard (before ++ c :: between ++ d :: after)) : ¬ IsCard (before ++ d :: between ++ c :: after) := by
  intro slip
  have one := card.sum
  have two := slip.sum
  simp only [signs_append, signs_cons digit, signs_cons other, blank, List.map_append, List.map_cons,
    List.reverse_append, List.reverse_cons, List.append_assoc, List.singleton_append] at one two
  have zero : digitValue '0' = 0 := rfl
  have nine : digitValue '9' = 9 := rfl
  rcases eq_of_swapped_sums (digitValue_lt other) (digitValue_lt digit) one two with same | ⟨first, second⟩ |
    ⟨first, second⟩
  · exact different ((digitValue_inj other digit).mp same).symm
  · rw [← zero, digitValue_inj other rfl] at first
    rw [← nine, digitValue_inj digit rfl] at second
    exact notSecond ⟨second, first⟩
  · rw [← nine, digitValue_inj other rfl] at first
    rw [← zero, digitValue_inj digit rfl] at second
    exact notFirst ⟨second, first⟩

/-- Whether a last digit makes a row of digits a card number depends on the sum of the row. -/
theorem isCard_concat_iff (digits : ∀ c ∈ signs text, c.isDigit = true) (enough : 11 ≤ (signs text).length)
    (few : (signs text).length ≤ 18) (digit : c.isDigit = true) :
    IsCard (text ++ [c]) ↔ 10 ∣ digitValue c + sumFrom true ((signs text).map digitValue).reverse := by
  have shown : signs (text ++ [c]) = signs text ++ [c] := by
    rw [signs_append, signs_cons digit]
    rfl
  have sum : luhnSum ((signs (text ++ [c])).map digitValue) =
      digitValue c + sumFrom true ((signs text).map digitValue).reverse := by
    rw [luhnSum_eq, shown, List.map_append, List.map_singleton, List.reverse_append, List.reverse_singleton,
      List.singleton_append]
    rfl
  rw [← sum]
  refine ⟨IsCard.checked, fun checked => ⟨?_, ?_, ?_, checked⟩⟩
  · rw [shown]
    exact List.forall_mem_append.mpr ⟨digits, List.forall_mem_singleton.mpr digit⟩
  · rw [shown, List.length_append, List.length_singleton]
    omega
  · rw [shown, List.length_append, List.length_singleton]
    omega

/-- Just one digit completes a sum to a multiple of ten. -/
theorem existsUnique_digit (sum : Nat) : ∃! c : Char, c.isDigit = true ∧ 10 ∣ digitValue c + sum := by
  obtain ⟨c, digit, value⟩ := exists_isDigit (n := (10 - sum % 10) % 10) (Nat.mod_lt _ (by decide))
  refine ⟨c, ⟨digit, by omega⟩, ?_⟩
  rintro d ⟨other, divides⟩
  have small := digitValue_lt other
  exact (digitValue_inj other digit).mp (by omega)

end Slips

end CreditCard

/-! ## The check -/

open CreditCard

/-- What a check of card numbers accepts, and what it detects. -/
structure CreditCard.Detecting (test : Check) : Prop where
  /-- It accepts card numbers. -/
  passes_iff : ∀ text : List Char, test.Passes (.ofList text) ↔ IsCard text
  /-- It rejects all else. -/
  fails_iff : ∀ text : List Char, test.Fails (.ofList text) ↔ ¬ IsCard text
  /-- It rejects a card number of which one digit has been replaced. -/
  replaced : ∀ (before after : List Char) (c d : Char), c.isDigit = true → d.isDigit = true → c ≠ d →
    test.Passes (.ofList (before ++ c :: after)) → test.Fails (.ofList (before ++ d :: after))
  /-- It rejects a card number of which two neighbouring digits have been exchanged, unless they are 0 and 9. -/
  swapped : ∀ (before between after : List Char) (c d : Char), signs between = [] → c.isDigit = true →
    d.isDigit = true → c ≠ d → ¬ (c = '0' ∧ d = '9') → ¬ (c = '9' ∧ d = '0') →
      test.Passes (.ofList (before ++ c :: between ++ d :: after)) →
        test.Fails (.ofList (before ++ d :: between ++ c :: after))
  /-- There is one digit that completes a row of eleven to eighteen digits. -/
  completed : ∀ text : List Char, (∀ c ∈ signs text, c.isDigit = true) → 11 ≤ (signs text).length →
    (signs text).length ≤ 18 → ∃! c : Char, c.isDigit = true ∧ test.Passes (.ofList (text ++ [c]))

namespace Check

/-- The check passes the numbers of cards. -/
theorem passes_creditCard_iff {text : List Char} : creditCard.Passes (.ofList text) ↔ IsCard text := by
  rw [passes_iff (by decide), ← String.toList_ofList (l := text), ← isNumber_iff, String.toList_ofList]
  rfl

/-- The check turns down all other texts. -/
theorem fails_creditCard_iff {text : List Char} : creditCard.Fails (.ofList text) ↔ ¬ IsCard text := by
  rw [fails_iff (by decide), passes_creditCard_iff]

/-- **What a check digit detects.**  Card numbers pass and all other texts fail.  Of a card number, no other one is made
by replacing a digit, nor by exchanging two neighbours other than 0 and 9.  A row of digits becomes a card number by
exactly one further digit. -/
theorem detecting_creditCard : Detecting creditCard where
  passes_iff _ := passes_creditCard_iff
  fails_iff _ := fails_creditCard_iff
  replaced before after c d digit other different passes :=
    fails_creditCard_iff.mpr (not_isCard_of_replaced digit other different (passes_creditCard_iff.mp passes))
  swapped before between after c d blank digit other different notFirst notSecond passes :=
    fails_creditCard_iff.mpr
      (not_isCard_of_swapped blank digit other different notFirst notSecond (passes_creditCard_iff.mp passes))
  completed text digits enough few := by
    have completes : ∀ c : Char, c.isDigit = true ∧ creditCard.Passes (.ofList (text ++ [c])) ↔
        c.isDigit = true ∧ 10 ∣ digitValue c + sumFrom true ((signs text).map digitValue).reverse := by
      intro c
      refine and_congr_right fun digit => ?_
      rw [passes_creditCard_iff, isCard_concat_iff digits enough few digit]
    simp only [completes]
    exact existsUnique_digit _

/-- A card number in four groups, of which the first digit is replaced, or exchanged with the second. -/
theorem detecting_creditCard_ofFourGroups :
    creditCard.Passes "4111 1111 1111 1111" ∧ creditCard.Fails "5111 1111 1111 1111" ∧
      creditCard.Fails "1411 1111 1111 1111" ∧
        ∃! c : Char, c.isDigit = true ∧ creditCard.Passes (.ofList ("4111 1111 1111 111".toList ++ [c])) := by
  have passes : creditCard.Passes "4111 1111 1111 1111" := (passes_iff (by decide)).mpr (by decide +kernel)
  obtain ⟨-, -, replaced, swapped, completed⟩ := detecting_creditCard
  refine ⟨passes, ?_, ?_, ?_⟩
  · exact replaced [] "111 1111 1111 1111".toList '4' '5' rfl rfl (by decide) passes
  · exact swapped [] [] "11 1111 1111 1111".toList '4' '1' rfl rfl rfl (by decide) (by decide) (by decide) passes
  · exact completed "4111 1111 1111 111".toList (List.all_eq_true.mp (by decide +kernel)) (by decide +kernel)
      (by decide +kernel)

end Check

end Vetting
