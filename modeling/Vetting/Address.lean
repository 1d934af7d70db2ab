import Vetting.Text.Pieces

/-!
# Internet addresses

The written forms of addresses of version 4 and 6.  The two have no text in common: one has dots and no
colon, the other has colons.
-/

namespace Vetting.Address

open Vetting.Text

/-- A digit in base sixteen. -/
def isHexDigit (c : Char) : Bool :=
  c.isDigit || ('a' ≤ c && c ≤ 'f') || ('A' ≤ c && c ≤ 'F')

/-- The number of a row of decimal digits. -/
def decimalOf (digits : List Char) : Nat :=
  digits.foldl (fun total c => 10 * total + (c.toNat - '0'.toNat)) 0

/-- A number up to 255 in decimal digits, without a zero in front. -/
def isOctet (text : List Char) : Bool :=
  !text.isEmpty && text.length ≤ 3 && text.all Char.isDigit && decimalOf text ≤ 255
    && (text.length == 1 || text.head? != some '0')

/-- Four octets with dots between them. -/
def isVersion4 (text : List Char) : Bool :=
  let octets := pieces '.' text
  octets.length == 4 && octets.all isOctet

/-- Up to four digits in base sixteen. -/
def isGroup (text : List Char) : Bool :=
  !text.isEmpty && text.length ≤ 4 && text.all isHexDigit

/-- How many groups a row of groups stands for; an address of version 4 at its end counts as two. -/
def groupCount? : List (List Char) → Option Nat
  | [] => some 0
  | [last] => if isGroup last then some 1 else if isVersion4 last then some 2 else none
  | group :: rest => if isGroup group then (groupCount? rest).map (· + 1) else none

/-- How many groups a text with single colons stands for; an empty text has none. -/
def groupsIn? (text : List Char) : Option Nat :=
  if text.isEmpty then some 0 else groupCount? (pieces ':' text)

/-- The parts before and after the first double colon. -/
def cutAtGap? : List Char → Option (List Char × List Char)
  | [] => none
  | ':' :: ':' :: rest => some ([], rest)
  | c :: rest => (cutAtGap? rest).map fun (before, after) => (c :: before, after)

/-- Eight groups with colons between them, or fewer with one gap, and no version 4 address before it. -/
def isVersion6 (text : List Char) : Bool :=
  match cutAtGap? text with
  | none => groupsIn? text == some 8
  | some (before, after) =>
    match groupsIn? before, groupsIn? after with
    | some left, some right => before.all (· != '.') && left + right ≤ 7
    | _, _ => false

/-- An address of either version. -/
def isAddress (text : List Char) : Bool :=
  isVersion4 text || isVersion6 text

end Vetting.Address
