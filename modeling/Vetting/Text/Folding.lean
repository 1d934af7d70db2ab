import Vetting.Text.FoldTable

/-!
# Characters that differ only in case

Two characters are case mates when they have the same simple folding.  The kelvin sign is a mate of `k`,
the long s of `s`.
-/

namespace Vetting.Text

/-- The simple folding of a code point. -/
def fold (code : Nat) : Nat :=
  if code < 0x80 then (if 0x41 ≤ code && code ≤ 0x5A then code + 0x20 else code)
  else (imageUnder? foldRuns code).getD code

/-- The code points with the same folding as the given one. -/
def caseMates (code : Nat) : List Nat :=
  fold code :: foldRuns.filterMap fun run => run.preimage? (fold code)

end Vetting.Text
