/-!
# Blank characters

The property `White_Space` of the character database, and the trimming that goes with it.
-/

namespace Vetting.Text

/-- Blank space in any script: tabs, line ends and the spaces of all widths. -/
def isBlank (c : Char) : Bool :=
  (0x9 ≤ c.toNat && c.toNat ≤ 0xD) || c == ' ' || c.toNat == 0x85 || c.toNat == 0xA0
    || c.toNat == 0x1680 || (0x2000 ≤ c.toNat && c.toNat ≤ 0x200A) || c.toNat == 0x2028
    || c.toNat == 0x2029 || c.toNat == 0x202F || c.toNat == 0x205F || c.toNat == 0x3000

/-- The text without the blanks at its two ends. -/
def trimmed (text : List Char) : List Char :=
  ((text.dropWhile isBlank).reverse.dropWhile isBlank).reverse

/-- The string without the blanks at its two ends. -/
def trim (text : String) : String :=
  String.ofList (trimmed text.toList)

end Vetting.Text
