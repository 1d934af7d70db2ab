import Vetting.Text.CaseTable

/-!
# Upper and lower case

Full case mapping: one character may become several, and a capital sigma becomes a final sigma at the
end of a word.
-/

namespace Vetting.Text

/-- The upper-case form of a character. -/
def upperOf (c : Char) : List Char :=
  if c.toNat < 0x80 then [c.toUpper]
  else match upperExpansions.lookup c.toNat with
    | some codes => codes.map Char.ofNat
    | none => [Char.ofNat ((imageUnder? upperRuns c.toNat).getD c.toNat)]

/-- The lower-case form of a character that stands alone. -/
def lowerOf (c : Char) : List Char :=
  if c.toNat < 0x80 then [c.toLower]
  else match lowerExpansions.lookup c.toNat with
    | some codes => codes.map Char.ofNat
    | none => [Char.ofNat ((imageUnder? lowerRuns c.toNat).getD c.toNat)]

/-- Looking past the ignorable characters, the next one has a case. -/
def meetsCased (text : List Char) : Bool :=
  match text.dropWhile caseIgnorable.contains with
  | [] => false
  | c :: _ => cased.contains c

/-- The lower-case form of a text, given the characters before it, nearest first. -/
def lowerAfter (before : List Char) : List Char → List Char
  | [] => []
  | c :: rest =>
    if c = 'Σ' then
      (if meetsCased before && !meetsCased rest then 'ς' else 'σ') :: lowerAfter (c :: before) rest
    else lowerOf c ++ lowerAfter (c :: before) rest

/-- The string in lower case. -/
def toLower (text : String) : String :=
  String.ofList (lowerAfter [] text.toList)

/-- The string in upper case. -/
def toUpper (text : String) : String :=
  String.ofList (text.toList.flatMap upperOf)

/-- The two strings differ at most in the case of ASCII letters. -/
def sameIgnoringAsciiCase (left right : String) : Bool :=
  left.toList.map Char.toLower == right.toList.map Char.toLower

end Vetting.Text
