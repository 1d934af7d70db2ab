import Vetting.Text.Casing
import Vetting.Text.Mark
import Vetting.Text.Pieces
import Vetting.Url.Domain.DirectionTable
import Vetting.Url.Domain.JoiningTable
import Vetting.Url.Domain.MappingTable
import Vetting.Url.Punycode

/-!
# Domain names

A domain name is put into its canonical form character by character, cut into labels, and checked label
by label: no forbidden characters, no combining mark in front, joining controls only where they have an
effect, and one direction of writing in each label.
-/

namespace Vetting.Domain

open Vetting.Text

/-- A character of ASCII that no domain name may hold. -/
def isForbiddenAscii (c : Char) : Bool :=
  c.toNat ≤ 0x20 || c.toNat == 0x7F ||
    ['%', '#', '/', ':', '<', '>', '?', '@', '[', '\\', ']', '^', '|'].contains c

/-- What a character stands for in the canonical form. -/
def canonical? (c : Char) : Option (List Char) :=
  if c.toNat < 0x80 then some [c.toLower]
  else if vanishing.contains c then some []
  else if forbiddenBeyondAscii.contains c then none
  else match asciiExpansions.lookup c.toNat with
    | some codes => some (codes.map Char.ofNat)
    | none =>
      match imageUnder? asciiRuns c.toNat with
      | some code => some [Char.ofNat code]
      | none => some (lowerOf c)

/-- The character is its own canonical form. -/
def isCanonical (c : Char) : Bool :=
  canonical? c == some [c] && !variants.contains c

/-- The labels of the canonical form; those in punycode are decoded. -/
def decoded? (label : List Char) : Option (List Char) :=
  match label with
  | 'x' :: 'n' :: '-' :: '-' :: encoded => do
    let text ← Punycode.decode? encoded
    if text.any (fun c => 0x80 ≤ c.toNat) && text.all isCanonical then some text else none
  | _ => some label

/-- The classes of characters by direction. -/
inductive Direction where
  | left
  | right
  | arabicLetter
  | arabicNumber
  | europeanNumber
  | nonspacing
  | neutral
  | other
deriving DecidableEq

/-- The direction of a character. -/
def direction (c : Char) : Direction :=
  if rightToLeft.contains c then .right
  else if arabicLetters.contains c then .arabicLetter
  else if arabicNumbers.contains c then .arabicNumber
  else if europeanNumbers.contains c then .europeanNumber
  else if nonspacingMarks.contains c then .nonspacing
  else if [europeanSeparators, commonSeparators, europeanTerminators, otherNeutrals,
      boundaryNeutrals].any (·.contains c) then .neutral
  else if separatorsAndControls.contains c then .other
  else .left

/-- The name holds something that is written from right to left. -/
def isMixed (labels : List (List Char)) : Bool :=
  labels.any fun label => label.any fun c =>
    [Direction.right, .arabicLetter, .arabicNumber].contains (direction c)

/-- The label is written in one direction. -/
def hasOneDirection (label : List Char) : Bool :=
  let directions := label.map direction
  let last := (directions.reverse.dropWhile (· == .nonspacing)).head?
  match directions with
  | [] => true
  | first :: _ =>
    if first = .left then
      directions.all (fun d => [Direction.left, .europeanNumber, .neutral, .nonspacing].contains d)
        && (last == some .left || last == some .europeanNumber)
    else if first = .right ∨ first = .arabicLetter then
      directions.all (fun d => d != .left && d != .other)
        && (last == some .right || last == some .arabicLetter || last == some .europeanNumber
          || last == some .arabicNumber)
        && !(directions.contains .europeanNumber && directions.contains .arabicNumber)
    else false

/-- Letters on both sides join across a control between them. -/
def joinsAcross (before after : List Char) : Bool :=
  let reaches (text : List Char) (tables : List CharTable) :=
    match text.dropWhile joiningTransparent.contains with
    | [] => false
    | c :: _ => tables.any (·.contains c)
  reaches before [leftJoining, dualJoining] && reaches after [rightJoining, dualJoining]

/-- The joining controls of a label have an effect, given the characters before it, nearest first. -/
def joinersFit (before : List Char) : List Char → Bool
  | [] => true
  | c :: rest =>
    let afterVirama := (before.head?).any viramas.contains
    let fits :=
      if c.toNat = 0x200C then afterVirama || joinsAcross before rest
      else if c.toNat = 0x200D then afterVirama
      else true
    fits && joinersFit (c :: before) rest

/-- A label may be part of a domain name. -/
def isValidLabel (label : List Char) : Bool :=
  label.all (fun c => !isForbiddenAscii c)
    && !(label.head?).any isMark
    && joinersFit [] label

/-- The labels of a domain name. -/
def labels? (text : List Char) : Option (List (List Char)) := do
  let canonical ← text.mapM canonical?
  let labels ← (pieces '.' canonical.flatten).mapM decoded?
  if labels.all isValidLabel && (!isMixed labels || labels.all hasOneDirection) then some labels else none

end Vetting.Domain
