import Vetting.Proofs.Check.Texts
import Vetting.Proofs.Regex.Folding
import Vetting.Proofs.Regex.Language

/-!
# Ordinal dates

The shape of dates begins with a year, which a date in the year may follow, and that a time
(`Shape.occursIn_isoDate_iff`).  The date in the year has one of five forms (`Shape.DateForm`), and the number of its
digits tells the ordinal dates from the others.  Of the days of a year, the shape misses one
(`Check.passes_ordinal_iff`).
-/

namespace Vetting

open scoped Computability
open Pattern Text

namespace Shape

variable {word rest year dash day suffix : List Char} {words : Words} {count : Nat}

/-! ## Digits -/

/-- The class of digits has the decimal digits. -/
theorem contains_digit_iff {c : Char} : (CharClass.mk [.range '0' '9'] false false).contains c = true ↔
    c.isDigit = true := by
  rw [contains_range_iff, isDigit_iff, CharClass.le_iff, CharClass.le_iff]
  exact Iff.rfl

/-- The class holds nothing but decimal digits. -/
def holdsDigits : CharClass → Bool
  | ⟨[.range first last], false, false⟩ => '0' ≤ first && last ≤ '9'
  | _ => false

/-- A class of digits has nothing but digits. -/
theorem isDigit_of_contains {set : CharClass} {c : Char} (digits : holdsDigits set = true)
    (holds : set.contains c = true) : c.isDigit = true := by
  unfold holdsDigits at digits
  split at digits
  · obtain ⟨low, high⟩ := contains_range_iff.mp holds
    rw [Bool.and_eq_true, decide_eq_true_eq, decide_eq_true_eq] at digits
    exact contains_digit_iff.mp (contains_range_iff.mpr
      ⟨Char.le_trans digits.1 low, Char.le_trans high digits.2⟩)
  · cases digits

/-- How many digits a word of the pattern has, where that is so many in each and nothing else. -/
def digitCount? : Pattern → Option Nat
  | .one set => if holdsDigits set then some 1 else none
  | .sequence first second => do return (← digitCount? first) + (← digitCount? second)
  | .either first second => if digitCount? first = digitCount? second then digitCount? first else none
  | _ => none

/-- What a pattern of counted digits matches is a row of so many digits. -/
theorem isRow_of_mem {pattern : Pattern} (counted : digitCount? pattern = some count)
    (member : word ∈ pattern.language) : IsRow count word := by
  induction pattern generalizing count word with
  | one set =>
      rw [digitCount?, Option.ite_none_right_eq_some] at counted
      obtain ⟨digits, one⟩ := counted
      obtain ⟨c, holds, rfl⟩ := member
      obtain rfl := Option.some.inj one
      exact ⟨rfl, List.forall_mem_singleton.mpr (isDigit_of_contains digits holds)⟩
  | sequence first second ihFirst ihSecond =>
      simp only [digitCount?, Option.bind_eq_bind, Option.bind_eq_some_iff, Option.pure_def,
        Option.some.injEq] at counted
      obtain ⟨few, countedFirst, more, countedSecond, rfl⟩ := counted
      obtain ⟨before, own, behind, others, rfl⟩ := member
      obtain ⟨long, digits⟩ := ihFirst countedFirst own
      obtain ⟨far, further⟩ := ihSecond countedSecond others
      refine ⟨?_, List.forall_mem_append.mpr ⟨digits, further⟩⟩
      rw [← long, ← far]
      exact List.length_append
  | either first second ihFirst ihSecond =>
      rw [digitCount?, Option.ite_none_right_eq_some] at counted
      obtain ⟨same, countedFirst⟩ := counted
      rcases member with left | right
      · exact ihFirst countedFirst left
      · exact ihSecond (same ▸ countedFirst) right
  | _ => cases counted

/-- Digits in front of a text are passed over by as many digits in front of a pattern. -/
theorem append_mem_digits_iff (row : IsRow count word) :
    word ++ rest ∈ digit.language ^ count * words ↔ rest ∈ words := by
  obtain ⟨rfl, digits⟩ := row
  induction word with
  | nil => rw [List.length_nil, pow_zero, one_mul, List.nil_append]
  | cons c others ih =>
      obtain ⟨own, remaining⟩ := List.forall_mem_cons.mp digits
      rw [List.length_cons, pow_succ', mul_assoc, List.cons_append, digit, span, cons_mem_one_mul_iff,
        and_iff_right (contains_digit_iff.mpr own)]
      exact ih remaining

/-! ## The parts of a date -/

/-- A date in a year. -/
def dateInYear : Pattern :=
  oneOf dashedDate [chain [month, dayOfMonth], weekDate, ordinalDate]

/-- A time of day behind a date. -/
def timeBehind : Pattern :=
  chain [oneOfClass [.range 'T' 'T', .blank false] false, timeOfDay, optional zone]

/-- **The parts of a date.**  A year is followed by nothing, or by a date in the year and perhaps a time. -/
theorem occursIn_isoDate_iff (years : IsRow 4 year) : isoDate.occursIn (.ofList (year ++ rest)) = true ↔
    rest ∈ 1 + dateInYear.language * (1 + timeBehind.language) := by
  let parts := [optional (among ['+', '-']), times digit 4, optional (chain [dateInYear, optional timeBehind])]
  have shape : (whole parts).occursIn (.ofList (year ++ rest)) = true ↔ _ := occursIn_whole_iff rfl
  refine shape.trans ?_
  simp only [parts, List.map_cons, List.map_nil, List.prod_cons, List.prod_nil, mul_one, language_optional,
    language_times, language_chain, String.toList_ofList]
  rw [add_mul, one_mul, Language.mem_add, append_mem_digits_iff years, or_iff_left]
  -- A sign is no digit.
  obtain ⟨long, digits⟩ := years
  cases year with
  | nil => cases long
  | cons c others =>
      have own := isDigit_iff.mp (digits c List.mem_cons_self)
      rw [List.cons_append, among, cons_mem_one_mul_iff]
      rintro ⟨sign, -⟩
      simp only [contains_plain, ClassItem.covers, List.map_cons, List.map_nil, List.any_cons, List.any_nil,
        Bool.or_false, Bool.or_eq_true, Bool.and_eq_true, decide_eq_true_eq, CharClass.le_iff,
        Char.reduceToNat] at sign
      omega

/-! ## Days of the year -/

/-- A number of a day that the shape knows; one is missing. -/
def IsKnownDay (day : Nat) : Prop :=
  1 ≤ day ∧ day ≤ 366 ∧ day ≠ 360

instance (day : Nat) : Decidable (IsKnownDay day) :=
  inferInstanceAs (Decidable (_ ∧ _))

/-- The digits of a day of the year. -/
def dayOfYear : Pattern :=
  oneOf (chain [character '0', character '0', span '1' '9'])
    [chain [character '0', span '1' '9', digit],
      chain [span '1' '2', digit, digit],
      chain [character '3', either (chain [span '0' '5', digit]) (chain [character '6', span '1' '6'])]]

/-- Three classes one behind the other match three characters. -/
theorem mem_three_iff {first second third : CharClass} :
    word ∈ (one first).language * ((one second).language * (one third).language) ↔
      ∃ a b c, word = [a, b, c] ∧ first.contains a = true ∧ second.contains b = true ∧ third.contains c = true := by
  constructor
  · rintro ⟨_, ⟨a, own, rfl⟩, _, ⟨_, ⟨b, next, rfl⟩, _, ⟨c, last, rfl⟩, rfl⟩, rfl⟩
    exact ⟨a, b, c, rfl, own, next, last⟩
  · rintro ⟨a, b, c, rfl, own, next, last⟩
    exact cons_mem_one_mul_iff.mpr ⟨own, cons_mem_one_mul_iff.mpr ⟨next, c, last, rfl⟩⟩

/-- Three characters make the number of a known day exactly if they are as the shape lists them. -/
theorem isKnownDay_iff {a b c : Char} :
    (a = '0' ∧ b = '0' ∧ '1' ≤ c ∧ c ≤ '9' ∨ a = '0' ∧ ('1' ≤ b ∧ b ≤ '9') ∧ '0' ≤ c ∧ c ≤ '9' ∨
      ('1' ≤ a ∧ a ≤ '2') ∧ ('0' ≤ b ∧ b ≤ '9') ∧ '0' ≤ c ∧ c ≤ '9' ∨
        a = '3' ∧ (('0' ≤ b ∧ b ≤ '5') ∧ '0' ≤ c ∧ c ≤ '9' ∨ b = '6' ∧ '1' ≤ c ∧ c ≤ '6')) ↔
      (∀ d ∈ [a, b, c], d.isDigit = true) ∧ IsKnownDay (Address.decimalOf [a, b, c]) := by
  simp only [List.mem_cons, List.not_mem_nil, or_false, forall_eq_or_imp, forall_eq]
  simp only [isDigit_iff, IsKnownDay, Address.decimalOf, List.foldl_cons, List.foldl_nil, CharClass.le_iff,
    ← Char.toNat_inj, Char.reduceToNat]
  omega

/-- The days of a year that the pattern knows are rows of three digits. -/
theorem mem_dayOfYear_iff : word ∈ dayOfYear.language ↔ IsRow 3 word ∧ IsKnownDay (Address.decimalOf word) := by
  simp only [dayOfYear, oneOf, language_either, language_chain, List.map_cons, List.map_nil, List.prod_cons,
    List.prod_nil, mul_one, mul_add]
  simp only [digit, span, character, Language.mem_add, mem_three_iff, contains_range_iff, contains_single_iff,
    ← exists_or, ← and_or_left, isKnownDay_iff]
  constructor
  · rintro ⟨a, b, c, rfl, digits, known⟩
    exact ⟨⟨rfl, digits⟩, known⟩
  · rintro ⟨⟨long, digits⟩, known⟩
    obtain ⟨a, b, c, rfl⟩ := List.length_eq_three.mp long
    exact ⟨a, b, c, rfl, digits, known⟩

/-! ## The forms of a date -/

/-- A dash or none. -/
def IsDash (dash : List Char) : Prop :=
  dash = [] ∨ dash = ['-']

/-- How a date in a year may be written: a month, a month and a day with dashes or without, a week, or a day of the
year. -/
inductive DateForm : List Char → Prop
  | month {month : List Char} (months : IsRow 2 month) : DateForm ('-' :: month)
  | dashed {month day : List Char} (months : IsRow 2 month) (days : IsRow 2 day) :
      DateForm ('-' :: (month ++ '-' :: day))
  | compact {month day : List Char} (months : IsRow 2 month) (days : IsRow 2 day) : DateForm (month ++ day)
  | week {dash rest : List Char} (dashed : IsDash dash) (behind : ∀ c ∈ rest, c.isDigit = true ∨ c = '-') :
      DateForm (dash ++ 'W' :: rest)
  | ordinal {dash day : List Char} (dashed : IsDash dash) (days : IsRow 3 day)
      (known : IsKnownDay (Address.decimalOf day)) : DateForm (dash ++ day)

/-- A dash may be missing. -/
theorem mem_optional_dash_iff : dash ∈ (optional (character '-')).language ↔ IsDash dash := by
  rw [language_optional, Language.mem_add, Language.mem_one, mem_character_iff]
  rfl

/-- A date of year, month and day has the form of a date. -/
theorem dateForm_of_mem_dashedDate (member : word ∈ dashedDate.language) : DateForm word := by
  simp only [dashedDate, language_chain, language_optional, List.map_cons, List.map_nil, List.prod_cons, List.prod_nil,
    mul_one, Language.mem_mul, Language.mem_add, Language.mem_one, mem_character_iff] at member
  obtain ⟨_, rfl, _, ⟨month, months, _, rfl | ⟨_, rfl, day, days, rfl⟩, rfl⟩, rfl⟩ := member
  · exact (List.append_nil month).symm ▸ .month (isRow_of_mem rfl months)
  · exact .dashed (isRow_of_mem rfl months) (isRow_of_mem rfl days)

/-- A date of year and week has the form of a date. -/
theorem dateForm_of_mem_weekDate (member : word ∈ weekDate.language) : DateForm word := by
  simp only [weekDate, language_chain, List.map_cons, List.map_nil, List.prod_cons, List.prod_nil, mul_one,
    Language.mem_mul, mem_character_iff, mem_optional_dash_iff] at member
  obtain ⟨dash, dashed, _, ⟨_, rfl, _, ⟨number, numbers, last, ending, rfl⟩, rfl⟩, rfl⟩ := member
  have week : IsRow 2 number := isRow_of_mem rfl numbers
  change DateForm (dash ++ 'W' :: (number ++ last))
  refine .week dashed (List.forall_mem_append.mpr ⟨fun c among => .inl (week.digits c among), ?_⟩)
  rw [language_optional, Language.mem_add, Language.mem_one, language_chain] at ending
  simp only [List.map_cons, List.map_nil, List.prod_cons, List.prod_nil, mul_one, Language.mem_mul,
    mem_optional_dash_iff] at ending
  rcases ending with rfl | ⟨_, rfl | rfl, day, days, rfl⟩
  · exact List.forall_mem_nil _
  · have one : IsRow 1 day := isRow_of_mem rfl days
    exact fun c among => .inl (one.digits c among)
  · have one : IsRow 1 day := isRow_of_mem rfl days
    exact List.forall_mem_cons.mpr ⟨.inr rfl, fun c among => .inl (one.digits c among)⟩

/-- A date of year and day has the form of a date. -/
theorem dateForm_of_mem_ordinalDate (member : word ∈ ordinalDate.language) : DateForm word := by
  obtain ⟨dash, dashed, day, days, rfl⟩ := member
  obtain ⟨row, known⟩ := mem_dayOfYear_iff.mp days
  exact .ordinal (mem_optional_dash_iff.mp dashed) row known

/-- Whatever follows the year of a date gives it the form of one. -/
theorem dateForm_of_mem (member : word ∈ dateInYear.language) : DateForm word := by
  rcases member with dashed | ⟨month, months, day, days, rfl⟩ | week | ordinal
  · exact dateForm_of_mem_dashedDate dashed
  · exact .compact (isRow_of_mem rfl months) (isRow_of_mem rfl days)
  · exact dateForm_of_mem_weekDate week
  · exact dateForm_of_mem_ordinalDate ordinal

/-- A character of a date, which a time does not begin with. -/
def isDatePart (c : Char) : Bool :=
  c.isDigit || c == '-' || c == 'W'

/-- A dash is part of a date. -/
theorem isDatePart_of_isDash (dashed : IsDash dash) : ∀ c ∈ dash, isDatePart c = true := by
  rcases dashed with rfl | rfl
  · exact List.forall_mem_nil _
  · exact List.forall_mem_singleton.mpr rfl

/-- Digits are part of a date. -/
theorem isDatePart_of_isRow (row : IsRow count word) : ∀ c ∈ word, isDatePart c = true := by
  intro c among
  rw [isDatePart, row.digits c among, Bool.true_or, Bool.true_or]

/-- A date consists of what is part of dates. -/
theorem DateForm.isDatePart (form : DateForm word) : ∀ c ∈ word, isDatePart c = true := by
  cases form with
  | month months => exact List.forall_mem_cons.mpr ⟨rfl, isDatePart_of_isRow months⟩
  | dashed months days =>
      exact List.forall_mem_cons.mpr ⟨rfl, List.forall_mem_append.mpr
        ⟨isDatePart_of_isRow months, List.forall_mem_cons.mpr ⟨rfl, isDatePart_of_isRow days⟩⟩⟩
  | compact months days =>
      exact List.forall_mem_append.mpr ⟨isDatePart_of_isRow months, isDatePart_of_isRow days⟩
  | week dashed behind =>
      refine List.forall_mem_append.mpr ⟨isDatePart_of_isDash dashed, List.forall_mem_cons.mpr ⟨rfl, fun c among => ?_⟩⟩
      rcases behind c among with digit | rfl
      · rw [Shape.isDatePart, digit, Bool.true_or, Bool.true_or]
      · rfl
  | ordinal dashed days => exact List.forall_mem_append.mpr ⟨isDatePart_of_isDash dashed, isDatePart_of_isRow days⟩

/-- A date is given by a week, or it is short, or it is long and begins with a dash. -/
theorem DateForm.bounded (form : DateForm word) :
    'W' ∈ word.take 2 ∨ word.length ≤ 4 ∨ (word.length = 6 ∧ word.head? = some '-') := by
  cases form with
  | month months => exact .inr (.inl (by rw [List.length_cons, months.length_eq]; decide))
  | dashed months days =>
      refine .inr (.inr ⟨?_, rfl⟩)
      rw [List.length_cons, List.length_append, List.length_cons, months.length_eq, days.length_eq]
  | compact months days => exact .inr (.inl (by rw [List.length_append, months.length_eq, days.length_eq]))
  | week dashed behind =>
      rcases dashed with rfl | rfl
      · exact .inl List.mem_cons_self
      · exact .inl (List.mem_cons_of_mem _ List.mem_cons_self)
  | ordinal dashed days =>
      refine .inr (.inl ?_)
      rw [List.length_append, days.length_eq]
      rcases dashed with rfl | rfl
      · decide
      · decide

/-- A dash has no digits. -/
theorem filter_isDash (dashed : IsDash dash) : dash.filter Char.isDigit = [] := by
  rcases dashed with rfl | rfl
  · rfl
  · rfl

/-- A date of three digits that is not given by a week is an ordinal date. -/
theorem DateForm.known (form : DateForm word) (noWeek : 'W' ∉ word)
    (three : (word.filter Char.isDigit).length = 3) : IsKnownDay (Address.decimalOf (word.filter Char.isDigit)) := by
  have noDigit : Char.isDigit '-' ≠ true := by decide
  cases form with
  | month months =>
      rw [List.filter_cons_of_neg noDigit, months.filter_eq, months.length_eq] at three
      cases three
  | dashed months days =>
      rw [List.filter_cons_of_neg noDigit, List.filter_append, List.filter_cons_of_neg noDigit, List.length_append,
        months.filter_eq, days.filter_eq, months.length_eq, days.length_eq] at three
      cases three
  | compact months days =>
      rw [List.filter_append, List.length_append, months.filter_eq, days.filter_eq, months.length_eq,
        days.length_eq] at three
      cases three
  | week dashed behind => exact absurd (List.mem_append_right _ List.mem_cons_self) noWeek
  | ordinal dashed days known => rwa [List.filter_append, filter_isDash dashed, days.filter_eq]

/-- An ordinal date is in the language exactly if the pattern knows its day. -/
theorem ordinal_mem_iff (dashed : IsDash dash) (days : IsRow 3 day) :
    dash ++ day ∈ dateInYear.language ↔ IsKnownDay (Address.decimalOf day) := by
  have digits : (dash ++ day).filter Char.isDigit = day := by
    rw [List.filter_append, filter_isDash dashed, days.filter_eq, List.nil_append]
  constructor
  · intro member
    have noWeek : 'W' ∉ dash ++ day := by
      rw [List.mem_append, not_or]
      refine ⟨?_, fun among => absurd (days.digits _ among) (by decide)⟩
      rcases dashed with rfl | rfl
      · decide
      · decide
    have known := (dateForm_of_mem member).known noWeek
    rw [digits] at known
    exact known days.length_eq
  · intro known
    exact .inr (.inr (.inr ⟨dash, mem_optional_dash_iff.mpr dashed, day, mem_dayOfYear_iff.mpr ⟨days, known⟩, rfl⟩))

/-! ## What follows a date -/

/-- A time begins with something that is no part of dates. -/
theorem not_isDatePart_of_mem {c : Char} (member : c :: rest ∈ 1 + timeBehind.language) : isDatePart c = false := by
  rw [timeBehind, language_chain, List.map_cons, List.prod_cons, oneOfClass, Language.mem_add, Language.mem_one,
    or_iff_right (List.cons_ne_nil c rest), cons_mem_one_mul_iff] at member
  have opens := member.1
  simp only [contains_plain, ClassItem.covers, List.any_cons, List.any_nil, Bool.bne_false, Bool.or_false,
    Bool.or_eq_true, Bool.and_eq_true, decide_eq_true_eq, CharClass.le_iff, isBlank, beq_iff_eq, ← Char.toNat_inj,
    Char.reduceToNat] at opens
  rw [← Bool.not_eq_true]
  simp only [isDatePart, Bool.or_eq_true, isDigit_iff, beq_iff_eq, ← Char.toNat_inj, Char.reduceToNat]
  omega

/-- A text that begins with a part of a date goes on with more of the date, and then perhaps with a time. -/
theorem exists_time {before : List Char} (parts : ∀ c ∈ before, isDatePart c = true)
    (member : before ++ rest ∈ dateInYear.language * (1 + timeBehind.language)) :
    ∃ more, before ++ more ∈ dateInYear.language ∧ ∃ time ∈ 1 + timeBehind.language, more ++ time = rest := by
  obtain ⟨date, dates, time, times, same⟩ := Language.mem_mul.mp member
  -- The date ends inside of the given text, or not before it.
  rcases List.append_eq_append_iff.mp same with ⟨left, rfl, rfl⟩ | ⟨more, rfl, rfl⟩
  · cases left with
    | nil => exact ⟨[], by rwa [List.append_nil, List.append_nil], rest, times, rfl⟩
    | cons c others =>
        have own := parts c (List.mem_append_right _ List.mem_cons_self)
        rw [not_isDatePart_of_mem times] at own
        cases own
  · exact ⟨more, dates, time, times, rfl⟩

/-- A date with a month and a day of the month, with dashes or without. -/
inductive IsCalendarDate : List Char → Prop
  | mk {year dash month day : List Char} (years : IsRow 4 year) (dashed : IsDash dash) (months : IsRow 2 month)
      (days : IsRow 2 day) (inYear : 1 ≤ Address.decimalOf month ∧ Address.decimalOf month ≤ 12)
      (inMonth : 1 ≤ Address.decimalOf day ∧ Address.decimalOf day ≤ 31) :
      IsCalendarDate (year ++ (dash ++ month ++ dash ++ day))

/-- A date does not go on behind a month and a day of the month. -/
theorem eq_nil_of_mem {month more : List Char} (dashed : IsDash dash) (months : IsRow 2 month) (days : IsRow 2 day)
    (member : dash ++ month ++ dash ++ day ++ more ∈ dateInYear.language) : more = [] := by
  obtain ⟨a, b, rfl⟩ := List.length_eq_two.mp months.length_eq
  obtain ⟨c, d, rfl⟩ := List.length_eq_two.mp days.length_eq
  have first := months.digits a List.mem_cons_self
  have second := months.digits b (List.mem_cons_of_mem _ List.mem_cons_self)
  have bounded := (dateForm_of_mem member).bounded
  rcases dashed with rfl | rfl
  · rcases bounded with week | short | ⟨-, opens⟩
    · rcases List.mem_pair.mp week with rfl | rfl
      · cases first
      · cases second
    · rw [List.length_append] at short
      exact List.length_eq_zero_iff.mp (Nat.le_zero.mp (Nat.add_le_add_iff_left.mp short))
    · cases Option.some.inj opens
      cases first
  · rcases bounded with week | short | ⟨long, -⟩
    · rcases List.mem_pair.mp week with dash | rfl
      · cases dash
      · cases first
    · rw [List.length_append] at short
      exact absurd (Nat.le_trans (Nat.le_add_right 6 more.length) short) (by decide)
    · rw [List.length_append] at long
      exact List.length_eq_zero_iff.mp (Nat.add_left_cancel long)

/-- Nothing but a time may follow a calendar date. -/
theorem time_of_isCalendarDate {date : List Char} (calendar : IsCalendarDate date)
    (accepted : isoDate.occursIn (.ofList (date ++ suffix)) = true) : suffix ∈ 1 + timeBehind.language := by
  obtain @⟨year, dash, month, day, years, dashed, months, days, -, -⟩ := calendar
  have parts : ∀ c ∈ dash ++ month ++ dash ++ day, isDatePart c = true :=
    List.forall_mem_append.mpr ⟨List.forall_mem_append.mpr ⟨List.forall_mem_append.mpr
      ⟨isDatePart_of_isDash dashed, isDatePart_of_isRow months⟩, isDatePart_of_isDash dashed⟩, isDatePart_of_isRow days⟩
  have some : day ++ suffix ≠ [] := List.append_ne_nil_of_left_ne_nil days.ne_nil _
  rw [List.append_assoc, occursIn_isoDate_iff years, Language.mem_add, Language.mem_one, List.append_assoc,
    or_iff_right (List.append_ne_nil_of_right_ne_nil _ some), ← List.append_assoc] at accepted
  obtain ⟨more, dates, time, times, rfl⟩ := exists_time parts accepted
  rwa [eq_nil_of_mem dashed months days dates, List.nil_append]

end Shape

namespace Check

open Shape

/-- The text may stand behind a date: it is empty, or follows a calendar date in a text that passes. -/
def FollowsDate (suffix : List Char) : Prop :=
  suffix = [] ∨ ∃ date, IsCalendarDate date ∧ isoDate.Passes (.ofList (date ++ suffix))

/-- What may follow a date is a time or nothing. -/
theorem time_of_followsDate {suffix : List Char} (follows : FollowsDate suffix) :
    suffix ∈ 1 + timeBehind.language := by
  rcases follows with rfl | ⟨date, calendar, passes⟩
  · exact .inl rfl
  · exact time_of_isCalendarDate calendar ((passes_iff_of_shape rfl).mp passes)

/-- **Ordinal dates.**  A year and three digits pass, alone or in front of what may stand behind a calendar date,
exactly if the digits are the number of a day of the year, other than the 360th. -/
theorem passes_ordinal_iff {year dash day suffix : List Char} (years : IsRow 4 year) (dashed : IsDash dash)
    (days : IsRow 3 day) (follows : FollowsDate suffix) :
    isoDate.Passes (.ofList (year ++ (dash ++ day ++ suffix))) ↔ IsKnownDay (Address.decimalOf day) := by
  have times := time_of_followsDate follows
  have parts : ∀ c ∈ dash ++ day, isDatePart c = true :=
    List.forall_mem_append.mpr ⟨isDatePart_of_isDash dashed, isDatePart_of_isRow days⟩
  have some : dash ++ day ++ suffix ≠ [] :=
    List.append_ne_nil_of_left_ne_nil (List.append_ne_nil_of_right_ne_nil _ days.ne_nil) _
  rw [passes_iff_of_shape rfl, occursIn_isoDate_iff years, ← ordinal_mem_iff dashed days, Language.mem_add,
    Language.mem_one, or_iff_right some]
  constructor
  · intro member
    obtain ⟨more, dates, time, -, rfl⟩ := exists_time parts member
    cases more with
    | nil => rwa [List.append_nil] at dates
    | cons c others =>
        have own := (dateForm_of_mem dates).isDatePart c (List.mem_append_right _ List.mem_cons_self)
        rw [not_isDatePart_of_mem times] at own
        cases own
  · exact fun member => ⟨_, member, suffix, times, rfl⟩

/-- The last day of a leap year, in the last second of the day. -/
theorem passes_ordinal_iff_ofLastSecond :
    FollowsDate "T23:59:59.123456789Z".toList ∧
      isoDate.Passes
        (.ofList (['2', '0', '2', '0'] ++ (['-'] ++ ['3', '6', '6'] ++ "T23:59:59.123456789Z".toList))) := by
  have years : IsRow 4 ['2', '0', '2', '0'] := by decide
  have dashed : IsDash ['-'] := .inr rfl
  have calendar : IsCalendarDate (['2', '0', '2', '0'] ++ (['-'] ++ ['1', '2'] ++ ['-'] ++ ['3', '1'])) :=
    .mk years dashed (by decide) (by decide) (by decide) (by decide)
  have follows : FollowsDate "T23:59:59.123456789Z".toList :=
    .inr ⟨_, calendar, (passes_iff_of_shape rfl).mpr (by decide +kernel)⟩
  exact ⟨follows, (passes_ordinal_iff years dashed (by decide) follows).mpr (by decide)⟩

/-- The 360th day of a year does not pass. -/
theorem not_every_day : ¬ (isoDate.Passes (.ofList (['2', '0', '2', '0'] ++ (['-'] ++ ['3', '6', '0'] ++ []))) ↔
    1 ≤ Address.decimalOf ['3', '6', '0'] ∧ Address.decimalOf ['3', '6', '0'] ≤ 366) := by
  rw [passes_iff_of_shape rfl]
  decide +kernel

end Check

end Vetting
