import Waterway.Text.Printed

/-!
# Texts between quotes

The form in which an error message shows a text it did not expect: between double quotes, with a
backslash before quotes and backslashes, short names for the common control characters, and a code
point in braces for every other character that has no printed form.

## Main definitions

- `quoted` — the quoted form of a text
-/

namespace Waterway.Text

/-- One character inside quotes. -/
def quotedChar (c : Char) : List Char :=
  match c with
  | '\x00' => ['\\', '0']
  | '\t' => ['\\', 't']
  | '\r' => ['\\', 'r']
  | '\n' => ['\\', 'n']
  | '"' => ['\\', '"']
  | '\\' => ['\\', '\\']
  | c =>
    if isPrinted c then [c]
    else ['\\', 'u', '\x7b'] ++ Nat.toDigits 16 c.toNat ++ ['\x7d']

/-- A text between double quotes, in which every character is visible. -/
def quoted (s : String) : String :=
  String.ofList ('"' :: s.toList.flatMap quotedChar ++ ['"'])

end Waterway.Text
