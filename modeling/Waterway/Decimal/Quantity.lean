import Waterway.Decimal.Rounding

/-!
# Measured quantities

Scoring and calibration are written once, for any type of number with the operations of `Quantity`.
The running program uses `Float`; `Rat` gives the same formulas in exact arithmetic.

## Main definitions

- `Quantity` — the arithmetic, order and rounding that a measured quantity needs
- `Quantity.roundTo` — rounding to a number of decimal places

## Design notes

Order is asked for as it is given, with no law attached: the order of `Float` is partial because of
NaN, and the branches of the formulas are laid out so that a NaN takes the last one.
-/

namespace Waterway.Decimal

/-- The operations on numbers that scoring and calibration use. -/
class Quantity (α : Type) extends Sub α, Mul α, Div α, Neg α, LT α, LE α, BEq α, OfScientific α where
  decidableLT : DecidableLT α
  decidableLE : DecidableLE α
  /-- The nearest whole number, a half going away from zero. -/
  roundHalfAway : α → α

attribute [reducible, instance] Quantity.decidableLT Quantity.decidableLE

instance : Quantity Float where
  decidableLT := inferInstance
  decidableLE := inferInstance
  roundHalfAway := roundDouble

instance : Quantity Rat where
  decidableLT := inferInstance
  decidableLE := inferInstance
  roundHalfAway := roundRat

namespace Quantity

variable {α : Type} [Quantity α]

/-- The power of ten with the given exponent. -/
def tenTo (places : Nat) : α :=
  OfScientific.ofScientific 1 false places

/-- Rounds to `places` decimal places, a half going away from zero. -/
def roundTo (x : α) (places : Nat) : α :=
  roundHalfAway (x * tenTo places) / tenTo places

end Quantity

end Waterway.Decimal
