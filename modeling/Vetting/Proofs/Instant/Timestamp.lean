import Vetting.Check.Basic
import Vetting.Proofs.Instant.Calendar
import Vetting.Proofs.Number.Decimal

/-!
# Writing and reading timestamps

A number is written with so many digits, and these have the number that was written (`naturalOf_padded`).  A timestamp
in UTC is read exactly if its date and time exist (`Written.ofTimestamp?_text`).  An instant that is written and read is
the same up to its milliseconds (`ofTimestamp?_timestamp`).
-/

namespace Vetting

open scoped Computability
open Pattern Text
open Number (naturalOf)

namespace Instant

variable {word rest : List Char} {count n : Nat}

/-! ## Digits -/

/-- A row of digits has the number that the standard reader of digits gives it. -/
theorem naturalOf_eq_ofDigitChars (word : List Char) : naturalOf word = Nat.ofDigitChars 10 word 0 :=
  rfl

/-- Each zero behind a number makes it ten times as large. -/
theorem naturalOf_append_zeros (word : List Char) (count : Nat) :
    naturalOf (word ++ List.replicate count '0') = 10 ^ count * naturalOf word := by
  rw [naturalOf_eq_ofDigitChars, Nat.ofDigitChars_append, Nat.ofDigitChars_replicate_zero, naturalOf_eq_ofDigitChars]

/-- A small number that is padded is a row of so many digits. -/
theorem isRow_padded (some : 0 < count) (small : n < 10 ^ count) : IsRow count (padded count n) := by
  have short : (Nat.toDigits 10 n).length ≤ count := (Nat.length_toDigits_le_iff (by decide) some).mpr small
  refine ⟨?_, List.forall_mem_append.mpr ⟨fun c among => ?_, fun c among => ?_⟩⟩
  · rw [padded, List.length_append, List.length_replicate, Nat.sub_add_cancel short]
  · rw [List.eq_of_mem_replicate among]
    rfl
  · exact Nat.isDigit_of_mem_toDigits (by decide) (by decide) among

/-- A padded number is read back. -/
theorem naturalOf_padded (count n : Nat) : naturalOf (padded count n) = n := by
  rw [naturalOf_eq_ofDigitChars, padded, Nat.ofDigitChars_append, Nat.ofDigitChars_replicate_zero, Nat.mul_zero,
    Nat.ofDigitChars_ten_toDigits]

/-- Three digits behind the point count milliseconds. -/
theorem nanosOf_of_isRow (row : IsRow 3 word) : nanosOf word = naturalOf word * 1000000 := by
  rw [nanosOf, List.take_of_length_le (row.length_eq.le.trans (by decide)), row.length_eq, naturalOf_append_zeros]
  exact Nat.mul_comm _ _

/-- Two digits are tens and ones. -/
theorem naturalOf_pair (tens ones : Char) : naturalOf [tens, ones] = 10 * digitValue tens + digitValue ones := by
  rw [naturalOf, List.foldl_cons, List.foldl_cons, List.foldl_nil, Nat.mul_zero, Nat.zero_add, digitValue, digitValue]

/-- Two digits, of which the first one is limited. -/
theorem append_mem_pair_iff {words : Words} (row : IsRow 2 word) (last : Char) (limit : Nat)
    (limited : 48 ≤ last.toNat ∧ 10 * (last.toNat - 47) = limit) :
    word ++ rest ∈ (Shape.span '0' last).language * (Shape.digit.language * words) ↔
      naturalOf word < limit ∧ rest ∈ words := by
  obtain ⟨tens, ones, rfl⟩ := List.length_eq_two.mp row.length_eq
  have first := row.digits tens List.mem_cons_self
  have second := row.digits ones (List.mem_cons_of_mem _ List.mem_cons_self)
  rw [List.cons_append, Shape.span, cons_mem_one_mul_iff, List.cons_append, Shape.digit, Shape.span,
    cons_mem_one_mul_iff, Shape.contains_digit_iff, and_iff_right second, contains_range_iff, naturalOf_pair]
  refine and_congr_left' ?_
  rw [isDigit_iff] at first second
  simp only [CharClass.le_iff, digitValue, Char.reduceToNat]
  omega

/-! ## Reading -/

/-- Two digits are read as their number. -/
theorem twoDigits?_of_isRow {tens ones : Char} (row : IsRow 2 [tens, ones]) :
    twoDigits? tens ones = some (naturalOf [tens, ones]) := by
  rw [twoDigits?, row.digits tens List.mem_cons_self, row.digits ones (List.mem_cons_of_mem _ List.mem_cons_self)]
  rfl

/-- Four digits are two and two. -/
theorem isRow_halves {a b c d : Char} (row : IsRow 4 [a, b, c, d]) : IsRow 2 [a, b] ∧ IsRow 2 [c, d] := by
  obtain ⟨first, second⟩ := List.forall_mem_append.mp (show ∀ x ∈ [a, b] ++ [c, d], x.isDigit = true from row.digits)
  exact ⟨⟨rfl, first⟩, rfl, second⟩

/-- Four digits are read as hundreds and the rest. -/
theorem naturalOf_halves (a b c d : Char) : naturalOf [a, b] * 100 + naturalOf [c, d] = naturalOf [a, b, c, d] := by
  simp only [naturalOf, List.foldl_cons, List.foldl_nil]
  omega

/-- Seconds that are written down are left as they are. -/
theorem withSeconds_append {before : List Char} (long : before.length = 16) (rest : List Char) :
    withSeconds (before ++ ':' :: rest) = before ++ ':' :: rest := by
  rw [withSeconds, List.drop_left' long]
  rfl

/-- A zone does not begin with a colon. -/
theorem not_mem_offset (rest : List Char) : ':' :: rest ∉ Shape.offset.language := by
  rw [Shape.offset, language_either, Language.mem_add, language_chain]
  rintro (signed | utc)
  · rw [List.map_cons, List.prod_cons, Shape.among, cons_mem_one_mul_iff] at signed
    exact absurd (Shape.contains_among_iff.mp signed.1) (by decide)
  · cases Shape.mem_character_iff.mp utc

/-- The digits of a timestamp in UTC with all its parts. -/
structure Written where
  year : List Char
  month : List Char
  day : List Char
  hour : List Char
  minute : List Char
  second : List Char
  fraction : List Char
  year_isRow : IsRow 4 year
  month_isRow : IsRow 2 month
  day_isRow : IsRow 2 day
  hour_isRow : IsRow 2 hour
  minute_isRow : IsRow 2 minute
  second_isRow : IsRow 2 second
  fraction_digits : fraction ≠ [] ∧ ∀ c ∈ fraction, c.isDigit = true

namespace Written

variable (written : Written)

/-- The digits with the marks between them. -/
def text : List Char :=
  written.year ++ '-' :: (written.month ++ '-' :: (written.day ++ 'T' :: (written.hour ++ ':' :: (written.minute ++
    ':' :: (written.second ++ '.' :: (written.fraction ++ ['Z']))))))

/-- The date that the digits name. -/
def date : CalendarDate :=
  ⟨naturalOf written.year, naturalOf written.month, naturalOf written.day⟩

/-- The seconds since midnight that the digits name. -/
def secondOfDay : Nat :=
  naturalOf written.hour * 3600 + naturalOf written.minute * 60 + naturalOf written.second

/-- There is such a date, and such a time of day. -/
def IsReal : Prop :=
  written.date.isValid = true ∧ naturalOf written.hour < 24 ∧ naturalOf written.minute < 60 ∧
    naturalOf written.second < 60

/-- The fraction and the zone are as the shape has them. -/
theorem fraction_mem : '.' :: (written.fraction ++ ['Z']) ∈
    (1 + {['.']} * Shape.digits.language) * Shape.offset.language := by
  refine ⟨'.' :: written.fraction, .inr ?_, ['Z'], .inr (Shape.mem_character_iff.mpr rfl), rfl⟩
  exact Shape.cons_mem_point_mul_iff.mpr ⟨rfl, Shape.mem_digits_iff.mpr written.fraction_digits⟩

/-- The shape of timestamps asks little more than digits, at least of the month, the day and the time. -/
theorem occursIn_text_iff : Shape.timestamp.occursIn (.ofList written.text) = true ↔
    naturalOf written.month < 20 ∧ naturalOf written.day < 40 ∧ naturalOf written.hour < 30 ∧
      naturalOf written.minute < 60 ∧ naturalOf written.second < 60 := by
  rw [Shape.timestamp, Shape.occursIn_whole_iff rfl, String.toList_ofList, text]
  simp only [List.map_cons, List.map_nil, List.prod_cons, List.prod_nil, mul_one, language_times, language_optional,
    Shape.sixtieth, language_chain, mul_assoc]
  rw [Shape.append_mem_digits_iff written.year_isRow, Shape.cons_mem_character_mul_iff, and_iff_right rfl,
    append_mem_pair_iff written.month_isRow '1' 20 (by decide), Shape.cons_mem_character_mul_iff, and_iff_right rfl,
    append_mem_pair_iff written.day_isRow '3' 40 (by decide), Shape.cons_mem_character_mul_iff, and_iff_right rfl,
    append_mem_pair_iff written.hour_isRow '2' 30 (by decide), Shape.cons_mem_character_mul_iff, and_iff_right rfl,
    append_mem_pair_iff written.minute_isRow '5' 60 (by decide), add_mul, one_mul, Language.mem_add,
    or_iff_right (not_mem_offset _), Shape.seconds]
  simp only [List.map_cons, List.map_nil, List.prod_cons, List.prod_nil, mul_one, language_optional,
    Shape.sixtieth, language_chain, mul_assoc]
  rw [Shape.cons_mem_character_mul_iff, and_iff_right rfl, append_mem_pair_iff written.second_isRow '5' 60 (by decide)]
  rw [Shape.language_character, ← Shape.digits, and_iff_left written.fraction_mem]

instance : Decidable written.IsReal :=
  inferInstanceAs (Decidable (_ ∧ _))

/-- A real moment has the shape of timestamps. -/
theorem occursIn_text (real : written.IsReal) : Shape.timestamp.occursIn (.ofList written.text) = true := by
  obtain ⟨valid, hour, minute, second⟩ := real
  have bounds := CalendarDate.bounds_of_isValid valid
  refine written.occursIn_text_iff.mpr ⟨?_, ?_, ?_, minute, second⟩
  · exact Nat.lt_of_le_of_lt bounds.1 (by decide)
  · exact Nat.lt_of_le_of_lt bounds.2 (by decide)
  · exact Nat.lt_trans hour (by decide)

/-- Seconds below sixty are read with their fraction. -/
theorem readSeconds?_text : readSeconds? (':' :: (written.second ++ '.' :: (written.fraction ++ ['Z']))) =
    if naturalOf written.second < 60 then some (naturalOf written.second, nanosOf written.fraction, ['Z'])
      else none := by
  obtain ⟨some, digits⟩ := written.fraction_digits
  obtain ⟨tens, ones, same⟩ := List.length_eq_two.mp written.second_isRow.length_eq
  have row := written.second_isRow
  rw [same] at row ⊢
  have all : (written.fraction ++ ['Z']).takeWhile Char.isDigit = written.fraction := by
    rw [List.takeWhile_append_of_pos digits, List.takeWhile_cons_of_neg (by decide), List.append_nil]
  have zone : (written.fraction ++ ['Z']).dropWhile Char.isDigit = ['Z'] := by
    rw [List.dropWhile_append_of_pos digits, List.dropWhile_cons_of_neg (by decide)]
  have full : written.fraction.isEmpty = false := List.isEmpty_eq_false_iff.mpr some
  change (twoDigits? tens ones >>= fun seconds => readFraction? ('.' :: (written.fraction ++ ['Z'])) >>= _) = _
  rw [twoDigits?_of_isRow row, readFraction?, all, zone, full]
  rfl

/-- The text of a moment is read exactly if the moment is real. -/
theorem ofCharacters?_text : ofCharacters? written.text = if written.IsReal then
    some ⟨written.date.toDays * 86400 + written.secondOfDay, nanosOf written.fraction⟩ else none := by
  obtain ⟨y₁, y₂, y₃, y₄, year⟩ := List.length_eq_four.mp written.year_isRow.length_eq
  obtain ⟨m₁, m₂, month⟩ := List.length_eq_two.mp written.month_isRow.length_eq
  obtain ⟨d₁, d₂, day⟩ := List.length_eq_two.mp written.day_isRow.length_eq
  obtain ⟨h₁, h₂, hour⟩ := List.length_eq_two.mp written.hour_isRow.length_eq
  obtain ⟨n₁, n₂, minute⟩ := List.length_eq_two.mp written.minute_isRow.length_eq
  obtain ⟨century, yearOfCentury⟩ := isRow_halves (year ▸ written.year_isRow)
  rw [text, year, month, day, hour, minute]
  simp only [List.cons_append, List.nil_append]
  rw [ofCharacters?, twoDigits?_of_isRow century, twoDigits?_of_isRow yearOfCentury,
    twoDigits?_of_isRow (month ▸ written.month_isRow), twoDigits?_of_isRow (day ▸ written.day_isRow),
    twoDigits?_of_isRow (hour ▸ written.hour_isRow), twoDigits?_of_isRow (minute ▸ written.minute_isRow),
    readSeconds?_text]
  simp only [Option.bind_eq_bind, Option.bind_some]
  have named : (⟨naturalOf [y₁, y₂] * 100 + naturalOf [y₃, y₄], naturalOf [m₁, m₂], naturalOf [d₁, d₂]⟩ :
      CalendarDate) = written.date := by
    rw [date, year, month, day, ← naturalOf_halves, Nat.cast_add, Nat.cast_mul, Nat.cast_ofNat]
  rw [named, ← hour, ← minute]
  by_cases inMinute : naturalOf written.second < 60
  · rw [if_pos inMinute]
    simp only [Option.bind_some, readZone?, Int.sub_zero, IsReal, inMinute, and_true]
    rfl
  · rw [if_neg inMinute, if_neg fun real => inMinute real.2.2.2]
    rfl

/-- A text that has seconds gets no others. -/
theorem withSeconds_text : withSeconds written.text = written.text := by
  have long : (written.year ++ '-' :: (written.month ++ '-' :: (written.day ++ 'T' :: (written.hour ++ ':' ::
      written.minute)))).length = 16 := by
    simp only [List.length_append, List.length_cons, written.year_isRow.length_eq, written.month_isRow.length_eq,
      written.day_isRow.length_eq, written.hour_isRow.length_eq, written.minute_isRow.length_eq]
  have kept := withSeconds_append long (written.second ++ '.' :: (written.fraction ++ ['Z']))
  simpa only [text, List.append_assoc, List.cons_append] using kept

/-- **Timestamps in UTC.**  Digits are read exactly if there is such a date and such a time of day. -/
theorem ofTimestamp?_text : ofTimestamp? (.ofList written.text) = if written.IsReal then
    some ⟨written.date.toDays * 86400 + written.secondOfDay, nanosOf written.fraction⟩ else none := by
  rw [ofTimestamp?, String.toList_ofList, withSeconds_text, ofCharacters?_text]
  by_cases real : written.IsReal
  · rw [if_pos (written.occursIn_text real)]
  · rw [if_neg real, ite_self]

end Written

/-! ## Writing -/

/-- The year has four digits, and the nanoseconds are fewer than a second. -/
structure IsWritable (instant : Instant) : Prop where
  year : 0 ≤ instant.date.year ∧ instant.date.year ≤ 9999
  nanos : instant.nanos < 1000000000

instance (instant : Instant) : Decidable instant.IsWritable :=
  decidable_of_iff (_ ∧ _) ⟨fun ⟨year, nanos⟩ => ⟨year, nanos⟩, fun ⟨year, nanos⟩ => ⟨year, nanos⟩⟩

/-- The instant without what is left over after whole milliseconds. -/
def toMilliseconds (instant : Instant) : Instant :=
  ⟨instant.seconds, instant.nanos / 1000000 * 1000000⟩

variable (instant : Instant)

/-- The date of an instant is a date of the calendar. -/
theorem isValid_date : instant.date.isValid = true :=
  CalendarDate.isValid_ofDays _

/-- A day has 86400 seconds. -/
theorem secondOfDay_lt : instant.secondOfDay < 86400 := by
  rw [secondOfDay]
  omega

/-- The date and the second of the day make up the seconds of an instant. -/
theorem toDays_date : instant.date.toDays * 86400 + instant.secondOfDay = instant.seconds := by
  rw [date, CalendarDate.toDays_ofDays, secondOfDay]
  omega

variable {instant}

/-- A writable instant has a year of four digits. -/
theorem isRow_year (writable : instant.IsWritable) : IsRow 4 (padded 4 instant.date.year.toNat) := by
  refine isRow_padded (by decide) ?_
  have few := writable.year.2
  omega

/-- A number below a hundred is written with two digits. -/
theorem isRow_pair (small : n < 100) : IsRow 2 (padded 2 n) :=
  isRow_padded (by decide) small

/-- A writable instant has a fraction of three digits. -/
theorem isRow_fraction (writable : instant.IsWritable) : IsRow 3 (padded 3 (instant.nanos / 1000000)) := by
  refine isRow_padded (by decide) ?_
  have few := writable.nanos
  omega

/-- The digits that an instant is written with. -/
def written (instant : Instant) (writable : instant.IsWritable) : Written where
  year := padded 4 instant.date.year.toNat
  month := padded 2 instant.date.month
  day := padded 2 instant.date.day
  hour := padded 2 (instant.secondOfDay / 3600)
  minute := padded 2 (instant.secondOfDay / 60 % 60)
  second := padded 2 (instant.secondOfDay % 60)
  fraction := padded 3 (instant.nanos / 1000000)
  year_isRow := isRow_year writable
  month_isRow := isRow_pair (Nat.lt_of_le_of_lt (CalendarDate.bounds_of_isValid instant.isValid_date).1 (by decide))
  day_isRow := isRow_pair (Nat.lt_of_le_of_lt (CalendarDate.bounds_of_isValid instant.isValid_date).2 (by decide))
  hour_isRow := isRow_pair (by have := instant.secondOfDay_lt; omega)
  minute_isRow := isRow_pair (by omega)
  second_isRow := isRow_pair (by omega)
  fraction_digits := ⟨(isRow_fraction writable).ne_nil, (isRow_fraction writable).digits⟩

/-- The timestamp of a writable instant is the text of its parts. -/
theorem text_written (writable : instant.IsWritable) : .ofList (instant.written writable).text = instant.timestamp := by
  rw [timestamp, yearText, if_pos writable.year]
  simp only [Written.text, written, List.append_assoc, List.cons_append]

/-- The parts of a writable instant have its date. -/
theorem date_written (writable : instant.IsWritable) : (instant.written writable).date = instant.date := by
  simp only [Written.date, written, naturalOf_padded, Int.toNat_of_nonneg writable.year.1]

/-- The parts of a writable instant have its second of the day. -/
theorem secondOfDay_written (writable : instant.IsWritable) :
    (instant.written writable).secondOfDay = instant.secondOfDay := by
  simp only [Written.secondOfDay, written, naturalOf_padded]
  omega

/-- The parts of a writable instant are those of a real moment. -/
theorem isReal_written (writable : instant.IsWritable) : (instant.written writable).IsReal := by
  have inDay := instant.secondOfDay_lt
  refine ⟨(date_written writable).symm ▸ instant.isValid_date, ?_⟩
  simp only [written, naturalOf_padded]
  omega

/-- **There and back.**  A written instant is read as the same instant, cut down to milliseconds, and a text with it is
converted to that. -/
theorem ofTimestamp?_timestamp (instant : Instant) (writable : instant.IsWritable) :
    ofTimestamp? instant.timestamp = some instant.toMilliseconds ∧
      Check.date.convert? (.string instant.timestamp) = some (.date instant.toMilliseconds) := by
  have back : ofTimestamp? instant.timestamp = some instant.toMilliseconds := by
    rw [← text_written writable, Written.ofTimestamp?_text, if_pos (isReal_written writable), date_written,
      secondOfDay_written, toDays_date, written, nanosOf_of_isRow (isRow_fraction writable), naturalOf_padded,
      toMilliseconds]
  refine ⟨back, ?_⟩
  rw [Check.convert?, Check.instantOf?, back, Option.map_some]

/-- The last instant of the leap day of the year zero. -/
theorem ofTimestamp?_timestamp_leapDay :
    (⟨-62162035201, 999999999⟩ : Instant).timestamp = "0000-02-29T23:59:59.999Z" ∧
      ofTimestamp? "0000-02-29T23:59:59.999Z" = some ⟨-62162035201, 999000000⟩ ∧
        Check.date.convert? (.string "0000-02-29T23:59:59.999Z") = some (.date ⟨-62162035201, 999000000⟩) := by
  have text : (⟨-62162035201, 999999999⟩ : Instant).timestamp = "0000-02-29T23:59:59.999Z" := by decide +kernel
  have read := ofTimestamp?_timestamp ⟨-62162035201, 999999999⟩ (by decide)
  rw [text] at read
  exact ⟨text, read⟩

end Instant

end Vetting
