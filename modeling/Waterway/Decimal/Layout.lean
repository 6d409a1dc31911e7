import Waterway.Decimal.Shortest

/-!
# How a decimal is written

The text of a double: its shortest digits, laid out with a decimal point where the exponent is small
and in scientific notation elsewhere.

## Main definitions

- `Layout` — where the positional notation ends
- `Layout.write` — the text of a finite double

## Design notes

Both zeros are laid out like any other value with the digit `0` and exponent `0`; the sign of the
negative zero is written.
-/

namespace Waterway.Decimal

/-- Which scientific exponents are written with a decimal point instead. -/
structure Layout where
  /-- The least exponent of the positional notation. -/
  least : Int
  /-- The greatest exponent of the positional notation. -/
  greatest : Int

/-- The scientific exponent of a decimal: that of its first digit. -/
def Digits.leading (d : Digits) : Int :=
  d.exponent + (Nat.toDigits 10 d.significand).length - 1

/-- The digits with a decimal point, at least one digit on either side of it. -/
def Digits.positional (d : Digits) : List Char :=
  let ds := Nat.toDigits 10 d.significand
  if 0 ≤ d.exponent then
    ds ++ List.replicate d.exponent.toNat '0' ++ ['.', '0']
  else
    let places := d.exponent.natAbs
    let padded := List.replicate (places + 1 - ds.length) '0' ++ ds
    padded.take (padded.length - places) ++ '.' :: padded.drop (padded.length - places)

/-- The digits in scientific notation, with a signed exponent. -/
def Digits.scientific (d : Digits) : List Char :=
  let fraction := match Nat.toDigits 10 d.significand with
    | [] => []
    | [c] => [c]
    | c :: cs => c :: '.' :: cs
  let e := d.leading
  fraction ++ 'e' :: (if e < 0 then '-' else '+') :: Nat.toDigits 10 e.natAbs

def Layout.digits (l : Layout) (d : Digits) : List Char :=
  if l.least ≤ d.leading ∧ d.leading ≤ l.greatest then d.positional else d.scientific

/-- The text of a finite double. -/
def Layout.write (l : Layout) (x : Float) : String :=
  let magnitude := if significand x = 0 then ⟨0, 0⟩ else shortest x
  String.ofList ((if signBit x then ['-'] else []) ++ l.digits magnitude)

end Waterway.Decimal
