/-!
# Blanks

The characters with the Unicode property `White_Space`, and trimming by them.

## Main definitions

- `isBlank` — the property
- `trimBlank` — a text without its leading and trailing blanks
- `lowerAscii` — a text with its ASCII capitals in lower case
-/

namespace Waterway.Text

/-- The code points of the property `White_Space`, as ranges with both ends. -/
def blankRanges : List (Nat × Nat) :=
  [(0x09, 0x0D), (0x20, 0x20), (0x85, 0x85), (0xA0, 0xA0), (0x1680, 0x1680), (0x2000, 0x200A),
   (0x2028, 0x2029), (0x202F, 0x202F), (0x205F, 0x205F), (0x3000, 0x3000)]

/-- Whether a character has the property `White_Space`. -/
def isBlank (c : Char) : Bool :=
  blankRanges.any fun (low, high) => low ≤ c.toNat && c.toNat ≤ high

/-- The characters without the leading and trailing blanks. -/
def trimBlankChars (cs : List Char) : List Char :=
  ((cs.dropWhile isBlank).reverse.dropWhile isBlank).reverse

/-- A text without its leading and trailing blanks. -/
def trimBlank (s : String) : String :=
  String.ofList (trimBlankChars s.toList)

/-- A text with its ASCII capitals in lower case; every other character stays as it is. -/
def lowerAscii (s : String) : String :=
  String.ofList (s.toList.map Char.toLower)

end Waterway.Text
