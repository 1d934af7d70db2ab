/-!
# Tables of characters

A class of characters is stored as a list of ranges of code points, a mapping of single characters as a
list of runs: evenly spaced code points that all move by the same amount.
-/

namespace Vetting.Text

/-- The code points from `first` to `last`, both included. -/
structure CharRange where
  first : Nat
  last : Nat

/-- A class of characters. -/
abbrev CharTable := List CharRange

/-- The code point lies in the range. -/
def CharRange.covers (range : CharRange) (code : Nat) : Bool :=
  range.first ≤ code && code ≤ range.last

/-- The character belongs to the class. -/
def CharTable.contains (table : CharTable) (c : Char) : Bool :=
  table.any fun range => range.covers c.toNat

/-- Every `step`-th code point from `first` to `last` moves by `shift`. -/
structure CaseRun where
  first : Nat
  last : Nat
  step : Nat
  shift : Int

/-- The run moves the code point. -/
def CaseRun.covers (run : CaseRun) (code : Nat) : Bool :=
  run.first ≤ code && code ≤ run.last && (code - run.first) % run.step == 0

/-- Where the run moves a code point that it covers. -/
def CaseRun.image (run : CaseRun) (code : Nat) : Nat :=
  (code + run.shift).toNat

/-- The code point that the run moves to the given one. -/
def CaseRun.preimage? (run : CaseRun) (code : Nat) : Option Nat :=
  let source := (code - run.shift).toNat
  if run.covers source && run.image source == code then some source else none

/-- The image of a code point under the first run that covers it. -/
def imageUnder? (runs : List CaseRun) (code : Nat) : Option Nat :=
  (runs.find? fun run => run.covers code).map fun run => run.image code

end Vetting.Text
