import Vetting.Address
import Vetting.Url.Domain.Basic

/-!
# Hosts

The host of a reference: a domain name, an address, or, under a scheme without rules for hosts, any text
without delimiters.  A name that ends in a number has to be an address of version 4, which may be written
with fewer parts and in base eight, ten or sixteen.
-/

namespace Vetting

/-- The host of a reference. -/
inductive Host where
  | domain (labels : List (List Char))
  | version4
  | version6
  | unparsed (text : List Char)
deriving DecidableEq

namespace Host

open Vetting.Text

/-- The digits of a base. -/
def isDigitOf (base : Nat) (c : Char) : Bool :=
  if base = 16 then Address.isHexDigit c
  else '0'.toNat ≤ c.toNat && c.toNat < '0'.toNat + base

/-- The value of a digit in base sixteen or less. -/
def digitOf (c : Char) : Nat :=
  if c.isDigit then c.toNat - '0'.toNat else c.toLower.toNat - 'a'.toNat + 10

/-- The number of a row of digits in a base. -/
def numberIn? (base : Nat) (digits : List Char) : Option Nat :=
  if digits.all (isDigitOf base) then
    some (digits.foldl (fun total c => base * total + digitOf c) 0)
  else none

/-- The number that a part of an address stands for. -/
def number? (part : List Char) : Option Nat :=
  match part with
  | [] => none
  | '0' :: 'x' :: digits => numberIn? 16 digits
  | '0' :: 'X' :: digits => numberIn? 16 digits
  | '0' :: second :: digits => numberIn? 8 (second :: digits)
  | digits => numberIn? 10 digits

/-- The parts without an empty one at the end. -/
def withoutTrailing (parts : List (List Char)) : List (List Char) :=
  if parts.getLast? = some [] then parts.dropLast else parts

/-- The last part of a name, not counting a dot at its end, is a number. -/
def endsInNumber (labels : List (List Char)) : Bool :=
  match (withoutTrailing labels).getLast? with
  | none => false
  | some last => (!last.isEmpty && last.all Char.isDigit) || (number? last).isSome

/-- The parts make up an address of version 4: the last number fills the bytes that the others leave. -/
def areVersion4 (labels : List (List Char)) : Bool :=
  let parts := withoutTrailing labels
  match parts.mapM number? with
  | none => false
  | some numbers =>
    match numbers.reverse with
    | [] => false
    | last :: others =>
      others.length ≤ 3 && others.all (· ≤ 255) && last < Nat.pow 256 (4 - others.length)

/-- The byte that an escape of two digits stands for. -/
def escapedByte? (high low : UInt8) : Option UInt8 :=
  (numberIn? 16 [Char.ofNat high.toNat, Char.ofNat low.toNat]).map Nat.toUInt8

/-- The bytes of a text with every escaped byte in place of its escape. -/
def unescaped : List UInt8 → List UInt8
  | 37 :: high :: low :: rest =>
    match escapedByte? high low with
    | some byte => byte :: unescaped rest
    | none => 37 :: unescaped (high :: low :: rest)
  | byte :: rest => byte :: unescaped rest
  | [] => []

/-- The text with every escape replaced, if it is well formed then. -/
def unescapedText? (text : List Char) : Option (List Char) :=
  let bytes := (String.ofList text).toUTF8.toList
  (String.fromUTF8? (ByteArray.mk (unescaped bytes).toArray)).map String.toList

/-- The address between brackets. -/
def bracketed? (text : List Char) : Option Host :=
  if text.getLast? = some ']' ∧ Address.isVersion6 text.dropLast then some version6 else none

/-- The host under a scheme with rules for hosts. -/
def ofName? (text : List Char) : Option Host :=
  match text with
  | '[' :: rest => bracketed? rest
  | _ => do
    let labels ← Domain.labels? (← unescapedText? text)
    if labels = [[]] then none
    else if endsInNumber labels then
      if areVersion4 labels then some version4 else none
    else some (domain labels)

/-- A character that no host may hold, whatever the scheme. -/
def isDelimiter (c : Char) : Bool :=
  ['\x00', '\t', '\n', '\x0d', ' ', '#', '/', ':', '<', '>', '?', '@', '[', '\\', ']', '^', '|'].contains c

/-- The host under a scheme without rules for hosts. -/
def ofText? (text : List Char) : Option Host :=
  match text with
  | '[' :: rest => bracketed? rest
  | _ => if text.any isDelimiter then none else some (unparsed text)

end Host

end Vetting
