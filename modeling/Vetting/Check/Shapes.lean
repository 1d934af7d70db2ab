import Vetting.Regex.Basic

/-!
# Shapes of texts

The patterns that a text as a whole has to have: words, identifiers, mail addresses, host names, dates and
timestamps.
-/

namespace Vetting.Shape

open Pattern

/-- One character of a class. -/
def oneOfClass (items : List ClassItem) (folded : Bool) : Pattern :=
  one ⟨items, false, folded⟩

/-- One given character. -/
def character (c : Char) : Pattern :=
  one (.single c false)

/-- A character from the first to the last. -/
def span (first last : Char) : Pattern :=
  one ⟨[.range first last], false, false⟩

/-- One of the characters. -/
def among (characters : List Char) : Pattern :=
  one ⟨characters.map fun c => .range c c, false, false⟩

/-- A text that consists of the parts and of nothing else. -/
def whole (parts : List Pattern) : Pattern :=
  chain (start :: parts ++ [finish])

/-- A decimal digit of ASCII. -/
def digit : Pattern :=
  span '0' '9'

/-- Letters and digits in either case. -/
def alphanumeric : Pattern :=
  whole [atLeastOnce (oneOfClass [.range 'a' 'z', .range '0' '9'] true)]

/-- Letters, digits and underscores. -/
def token : Pattern :=
  whole [atLeastOnce (oneOfClass [.range 'A' 'Z', .range 'a' 'z', .range '0' '9', .range '_' '_'] false)]

/-- A digit in base sixteen in either case. -/
def hexDigit : Pattern :=
  oneOfClass [.range '0' '9', .range 'a' 'f'] true

/-- Digits in base sixteen. -/
def hexadecimal : Pattern :=
  whole [atLeastOnce hexDigit]

/-- Eight, three times four, and twelve digits in base sixteen, with or without dashes between. -/
def guid : Pattern :=
  whole [times hexDigit 8, optional (character '-'),
    times (chain [times hexDigit 4, optional (character '-')]) 3, times hexDigit 12]

/-- A character in front of the sign of a mail address. -/
def mailCharacter : Pattern :=
  oneOfClass
    ([.range 'a' 'z', .range '0' '9'] ++
      ['-', '~', '!', '$', '%', '^', '&', '*', '_', '=', '+', '\x7d', '\x7b', '\'', '?'].map
        fun c => ClassItem.range c c) true

/-- A character inside a domain of a mail address. -/
def domainCharacter : Pattern :=
  oneOfClass [.range '-' '-', .range 'a' 'z', .range '0' '9', .range '_' '_'] true

/-- A domain with a last part of letters. -/
def mailDomain : Pattern :=
  chain [oneOfClass [.range 'a' 'z', .range '0' '9', .range '_' '_'] true, many domainCharacter,
    many (chain [character '.', atLeastOnce domainCharacter]), character '.',
    repeated (oneOfClass [.range 'a' 'z', .range 'р' 'р', .range 'ф' 'ф'] true) 2 none]

/-- Four numbers of up to three digits. -/
def mailNumbers : Pattern :=
  let number := repeated digit 1 (some 3)
  chain [number, character '.', number, character '.', number, character '.', number]

/-- A mail address, with an optional port. -/
def mailAddress : Pattern :=
  whole [atLeastOnce mailCharacter, many (chain [character '.', atLeastOnce mailCharacter]),
    character '@', either mailDomain mailNumbers,
    optional (chain [character ':', repeated digit 1 (some 5)])]

/-- A part of a host name: letters, digits and inner hyphens. -/
def hostLabel : Pattern :=
  let outer := oneOfClass [.range 'a' 'z', .range '0' '9'] true
  let inner := oneOfClass [.range 'a' 'z', .range '0' '9', .range '-' '-'] true
  either outer (chain [outer, many inner, outer])

/-- Labels with dots between them. -/
def hostName : Pattern :=
  whole [many (chain [hostLabel, character '.']), hostLabel]

/-- A month of two digits. -/
def month : Pattern :=
  either (chain [character '0', span '1' '9']) (chain [character '1', span '0' '2'])

/-- A day of a month, of two digits. -/
def dayOfMonth : Pattern :=
  oneOf (chain [character '0', span '1' '9'])
    [chain [span '1' '2', digit], chain [character '3', span '0' '1']]

/-- A month and a day after dashes; the day may be left out. -/
def dashedDate : Pattern :=
  chain [character '-', month, optional (chain [character '-', dayOfMonth])]

/-- A week and a day of the week. -/
def weekDate : Pattern :=
  chain [optional (character '-'), character 'W',
    either (chain [span '0' '4', digit]) (chain [character '5', span '0' '2']),
    optional (chain [optional (character '-'), span '1' '7'])]

/-- A day of the year, of three digits. -/
def ordinalDate : Pattern :=
  chain [optional (character '-'),
    oneOf (chain [character '0', character '0', span '1' '9'])
      [chain [character '0', span '1' '9', digit],
       chain [span '1' '2', digit, digit],
       chain [character '3',
        either (chain [span '0' '5', digit]) (chain [character '6', span '1' '6'])]]]

/-- An hour of two digits, up to 23. -/
def hour : Pattern :=
  either (chain [span '0' '1', digit]) (chain [character '2', span '0' '3'])

/-- A number of two digits, up to 59. -/
def sixtieth : Pattern :=
  chain [span '0' '5', digit]

/-- A time of day: hours, minutes, seconds and a fraction, each of which may end it; or midnight as 24. -/
def timeOfDay : Pattern :=
  let colon := optional (character ':')
  let fraction := chain [among ['.', ','], atLeastOnce digit]
  let seconds := chain [colon, sixtieth, optional fraction]
  let minutes := chain [colon, sixtieth, optional seconds]
  either (chain [hour, optional minutes])
    (chain [character '2', character '4', colon, character '0', character '0'])

/-- A zone: UTC, or an offset. -/
def zone : Pattern :=
  either (among ['z', 'Z'])
    (chain [among ['+', '-'], hour, optional (chain [optional (character ':'), sixtieth])])

/-- A year, with a calendar, week or ordinal date, which may be followed by a time. -/
def isoDate : Pattern :=
  let date := oneOf dashedDate [chain [month, dayOfMonth], weekDate, ordinalDate]
  let time := chain [oneOfClass [.range 'T' 'T', .blank false] false, timeOfDay, optional zone]
  whole [optional (among ['+', '-']), times digit 4, optional (chain [date, optional time])]

/-- The seconds of a timestamp, with or without a fraction. -/
def seconds : Pattern :=
  chain [character ':', sixtieth, optional (chain [character '.', atLeastOnce digit])]

/-- The offset of a timestamp: none, or hours and minutes. -/
def offset : Pattern :=
  either (chain [among ['+', '-'], span '0' '2', digit, character ':', sixtieth]) (character 'Z')

/-- A full date and time with an explicit zone; the seconds may be left out. -/
def timestamp : Pattern :=
  whole [times digit 4, character '-', span '0' '1', digit, character '-', span '0' '3', digit,
    character 'T', span '0' '2', digit, character ':', sixtieth, optional seconds, offset]

end Vetting.Shape
