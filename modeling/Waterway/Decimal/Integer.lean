/-!
# Integer literals in a range

An optional sign and decimal digits, read from left to right; the first character that is no digit or
that takes the value out of range decides which error is reported.

## Main definitions

- `IntegerRange` — a range of whole numbers, such as the signed ones of 64 bits
- `IntegerRange.read` — reads a literal whose value lies in the range

## Design notes

A minus sign is accepted only where the range has negative numbers; elsewhere it counts as a character
that is no digit.
-/

namespace Waterway.Decimal

/-- The whole numbers from `least` to `greatest`. -/
structure IntegerRange where
  least : Int
  greatest : Int
deriving Repr, DecidableEq

namespace IntegerRange

/-- The whole numbers of `bits` bits in two's complement. -/
def signed (bits : Nat) : IntegerRange :=
  ⟨-(Nat.pow 2 (bits - 1) : Nat), (Nat.pow 2 (bits - 1) : Nat) - 1⟩

/-- The natural numbers of `bits` bits. -/
def unsigned (bits : Nat) : IntegerRange :=
  ⟨0, (Nat.pow 2 bits : Nat) - 1⟩

/-- Whether `n` lies in the range. -/
def contains (r : IntegerRange) (n : Int) : Bool :=
  r.least ≤ n && n ≤ r.greatest

end IntegerRange

/-- Why a text is no integer of a range. -/
inductive IntegerError where
  | empty
  | invalidDigit
  | tooLarge
  | tooSmall
deriving Repr, DecidableEq

def IntegerError.message : IntegerError → String
  | .empty => "cannot parse integer from empty string"
  | .invalidDigit => "invalid digit found in string"
  | .tooLarge => "number too large to fit in target type"
  | .tooSmall => "number too small to fit in target type"

/-- The value of an ASCII decimal digit. -/
def digitValue? (c : Char) : Option Nat :=
  if '0' ≤ c ∧ c ≤ '9' then some (c.toNat - '0'.toNat) else none

namespace IntegerRange

/-- Continues a literal whose digits so far amount to `value`, counting digits downwards if
`negative`. -/
def readDigits (r : IntegerRange) (negative : Bool) : (value : Int) → List Char → Except IntegerError Int
  | value, [] => .ok value
  | value, c :: cs =>
    match digitValue? c with
    | none => .error .invalidDigit
    | some d =>
      let next := if negative then value * 10 - d else value * 10 + d
      if r.greatest < next then .error .tooLarge
      else if next < r.least then .error .tooSmall
      else r.readDigits negative next cs

/-- Reads a literal whose value lies in the range. -/
def read (r : IntegerRange) (text : List Char) : Except IntegerError Int :=
  match text with
  | [] => .error .empty
  | ['+'] | ['-'] => .error .invalidDigit
  | '+' :: digits => r.readDigits false 0 digits
  | '-' :: digits =>
    if r.least < 0 then r.readDigits true 0 digits else .error .invalidDigit
  | digits => r.readDigits false 0 digits

end IntegerRange

end Waterway.Decimal
