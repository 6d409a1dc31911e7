/-!
# Rounding to the nearest whole number

A half goes away from zero, both for rational numbers and for binary floating point, where the
rounding is carried out on the significand and is therefore exact.

## Main definitions

- `roundHalfUp` — the natural number nearest to a quotient, a half going up
- `roundRat`, `roundDouble` — the nearest whole number, a half going away from zero
- `significand`, `unitExponent` — a finite double as a whole number of units

## Design notes

The significand of a double is decoded from its bits. A double whose exponent leaves no fractional
bits is whole already (or infinite, or not a number) and is returned unchanged; the sign of a result
that rounds to zero is kept.
-/

namespace Waterway.Decimal

/-- The natural number nearest to `num / den`, a half going up. -/
def roundHalfUp (num den : Nat) : Nat :=
  (2 * num + den) / (2 * den)

/-- The whole number nearest to `q`, a half going away from zero. -/
def roundRat (q : Rat) : Rat :=
  let n : Rat := (roundHalfUp q.num.natAbs q.den : Nat)
  if q.num < 0 then -n else n

/-- The exponent field of a double. -/
def exponentField (x : Float) : Nat :=
  x.toBits.toNat / Nat.pow 2 52 % Nat.pow 2 11

/-- The fraction field of a double. -/
def fractionField (x : Float) : Nat :=
  x.toBits.toNat % Nat.pow 2 52

/-- Whether the sign bit of a double is set. -/
def signBit (x : Float) : Bool :=
  x.toBits.toNat / Nat.pow 2 63 == 1

/-- The significand of a finite double, as a whole number of units of `2 ^ unitExponent`. -/
def significand (x : Float) : Nat :=
  if exponentField x = 0 then fractionField x else fractionField x + Nat.pow 2 52

/-- The binary exponent of the unit in which `significand` counts. -/
def unitExponent (x : Float) : Int :=
  (max 1 (exponentField x) : Nat) - 1075

/-- The whole number nearest to `x`, a half going away from zero. -/
def roundDouble (x : Float) : Float :=
  if unitExponent x < 0 then
    let n := Float.ofNat (roundHalfUp (significand x) (Nat.pow 2 (unitExponent x).natAbs))
    if signBit x then -n else n
  else x

end Waterway.Decimal
