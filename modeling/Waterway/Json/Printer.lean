import Waterway.Decimal.Layout
import Waterway.Json.Basic

/-!
# The compact text of a JSON value

No blanks, fields in the order in which they stand, characters beyond ASCII as they are.

## Main definitions

- `Json.numberLayout` — how numbers that are not integers are written
- `Json.escape` — one character of a string
- `Json.print` — the text of a value
-/

namespace Waterway.Json

/-- Numbers with a scientific exponent from -5 to 15 are written with a decimal point and at least one
digit after it, all others in scientific notation with a signed exponent. -/
def numberLayout : Decimal.Layout :=
  ⟨-5, 15⟩

/-- The four hexadecimal digits of a code unit. -/
def hex4 (n : Nat) : List Char :=
  let ds := Nat.toDigits 16 n
  List.replicate (4 - ds.length) '0' ++ ds

/-- One character of a string: quotes, backslashes and control characters are escaped. -/
def escape (c : Char) : List Char :=
  match c with
  | '"' => ['\\', '"']
  | '\\' => ['\\', '\\']
  | '\x08' => ['\\', 'b']
  | '\t' => ['\\', 't']
  | '\n' => ['\\', 'n']
  | '\x0c' => ['\\', 'f']
  | '\r' => ['\\', 'r']
  | c => if c.toNat < 0x20 then '\\' :: 'u' :: hex4 c.toNat else [c]

/-- A string between quotes. -/
def printText (s : String) : List Char :=
  '"' :: s.toList.flatMap escape ++ ['"']

mutual

/-- The characters of the text of a value. -/
def printChars : Json → List Char
  | .null => "null".toList
  | .bool true => "true".toList
  | .bool false => "false".toList
  | .integer n => (toString n).toList
  | .decimal x => if x.isFinite then (numberLayout.write x).toList else "null".toList
  | .text s => printText s
  | .list items => '[' :: printItems items ++ [']']
  | .record fields => '\x7b' :: printFields fields ++ ['\x7d']

/-- Items with commas between them. -/
def printItems : List Json → List Char
  | [] => []
  | [item] => item.printChars
  | item :: rest => item.printChars ++ ',' :: printItems rest

def printFields : List (String × Json) → List Char
  | [] => []
  | [(name, value)] => printText name ++ ':' :: value.printChars
  | (name, value) :: rest => printText name ++ ':' :: value.printChars ++ ',' :: printFields rest

end

/-- The compact text of a value. -/
def print (v : Json) : String :=
  String.ofList v.printChars

end Waterway.Json
