import Vetting.Check.Shapes
import Vetting.Instant.Basic
import Vetting.Number.Literal

/-!
# Timestamps

The written form of an instant: a date, the letter `T`, a time, and a zone.  A text has to have the shape of a timestamp
before it is read.  Reading takes any offset below a day and any number of fraction digits, and the seconds may be left
out; writing always gives milliseconds in UTC.
-/

namespace Vetting.Instant

open Vetting.Number (naturalOf)

/-- The number written with at least `width` digits. -/
def padded (width n : Nat) : List Char :=
  let digits := Nat.toDigits 10 n
  List.replicate (width - digits.length) '0' ++ digits

/-- Four digits; a year outside the four-digit ones shows its sign. -/
def yearText (year : Int) : List Char :=
  if 0 ≤ year ∧ year ≤ 9999 then padded 4 year.toNat
  else (if year < 0 then '-' else '+') :: padded 4 year.natAbs

/-- The date in UTC. -/
def date (instant : Instant) : CalendarDate :=
  .ofDays (instant.seconds / 86400)

/-- The seconds since midnight in UTC. -/
def secondOfDay (instant : Instant) : Nat :=
  (instant.seconds % 86400).toNat

/-- The instant in UTC, cut down to milliseconds. -/
def timestamp (instant : Instant) : String :=
  let date := instant.date
  let second := instant.secondOfDay
  String.ofList (yearText date.year ++ '-' :: padded 2 date.month ++ '-' :: padded 2 date.day ++
    'T' :: padded 2 (second / 3600) ++ ':' :: padded 2 (second / 60 % 60) ++
    ':' :: padded 2 (second % 60) ++ '.' :: padded 3 (instant.nanos / 1000000) ++ ['Z'])

/-- The number of a two-digit field. -/
def twoDigits? (tens ones : Char) : Option Nat :=
  if tens.isDigit && ones.isDigit then some (naturalOf [tens, ones]) else none

/-- The nanoseconds of a row of fraction digits; those after the ninth do not count. -/
def nanosOf (digits : List Char) : Nat :=
  naturalOf (digits.take 9 ++ List.replicate (9 - digits.length) '0')

/-- The offset of a zone from UTC, in seconds. -/
def readZone? : List Char → Option Int
  | ['Z'] => some 0
  | [sign, h₁, h₂, ':', m₁, m₂] => do
    let hours ← twoDigits? h₁ h₂
    let minutes ← twoDigits? m₁ m₂
    if hours < 24 ∧ minutes < 60 then
      let offset : Int := hours * 3600 + minutes * 60
      if sign = '+' then some offset
      else if sign = '-' then some (-offset)
      else none
    else none
  | _ => none

/-- The nanoseconds of an optional fraction, and what follows it. -/
def readFraction? : List Char → Option (Nat × List Char)
  | '.' :: rest =>
    let digits := rest.takeWhile Char.isDigit
    if digits.isEmpty then none
    else some (nanosOf digits, rest.dropWhile Char.isDigit)
  | rest => some (0, rest)

/-- The seconds and nanoseconds after the minutes, and the zone. -/
def readSeconds? : List Char → Option (Nat × Nat × List Char)
  | ':' :: s₁ :: s₂ :: rest => do
    let seconds ← twoDigits? s₁ s₂
    let (nanos, zone) ← readFraction? rest
    if seconds < 60 then some (seconds, nanos, zone) else none
  | _ => none

/-- The instant of a written date, time and zone. -/
def ofCharacters? : List Char → Option Instant
  | y₁ :: y₂ :: y₃ :: y₄ :: '-' :: m₁ :: m₂ :: '-' :: d₁ :: d₂ :: 'T' ::
      h₁ :: h₂ :: ':' :: n₁ :: n₂ :: rest => do
    let century ← twoDigits? y₁ y₂
    let yearOfCentury ← twoDigits? y₃ y₄
    let month ← twoDigits? m₁ m₂
    let day ← twoDigits? d₁ d₂
    let hour ← twoDigits? h₁ h₂
    let minute ← twoDigits? n₁ n₂
    let (second, nanos, zone) ← readSeconds? rest
    let offset ← readZone? zone
    let date : CalendarDate := ⟨century * 100 + yearOfCentury, month, day⟩
    if date.isValid ∧ hour < 24 ∧ minute < 60 then
      some ⟨date.toDays * 86400 + (hour * 3600 + minute * 60 + second : Nat) - offset, nanos⟩
    else none
  | _ => none

/-- The timestamp with its seconds, which are zero where it leaves them out. -/
def withSeconds (text : List Char) : List Char :=
  match text.drop 16 with
  | ':' :: _ => text
  | zone => text.take 16 ++ ":00".toList ++ zone

/-- The instant of a timestamp. -/
def ofTimestamp? (text : String) : Option Instant :=
  if Shape.timestamp.occursIn text then ofCharacters? (withSeconds text.toList) else none

end Vetting.Instant
