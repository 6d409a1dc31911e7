import Waterway.Decimal.Rounding

/-!
# The fewest digits that read back

The decimal of fewest significant digits inside the interval of reals that round to a given double;
of those with as few digits, the one nearest to the double, and of two equally near the one whose last
digit is even.

## Main definitions

- `Digits` — a decimal `significand * 10 ^ exponent`
- `Interval` — the reals that round to a double, over a common scale
- `shortest` — the decimal described above, for a positive finite double

## Design notes

All arithmetic is on natural numbers. A double is `m * 2 ^ q`; the interval is stated in quarters of
its unit, so that the narrower lower half at a power of two is whole as well. On a grid of powers of
ten only the two neighbours of the double need testing: if any point of the grid lies in the
interval, one of them does.
-/

namespace Waterway.Decimal

/-- The decimal `significand * 10 ^ exponent`. -/
structure Digits where
  /-- The digits, read as a natural number. -/
  significand : Nat
  /-- The power of ten by which they count. -/
  exponent : Int
deriving Repr, DecidableEq

/-- Reals around a value, all three counted in units of `1 / scale`. -/
structure Interval where
  low : Nat
  value : Nat
  high : Nat
  /-- Whether the two ends belong to the interval. -/
  closed : Bool
  scale : Nat

/-- The reals that round to the double `m * 2 ^ q`, where `m` is its significand. -/
def Interval.around (m : Nat) (q : Int) : Interval :=
  let below := if m = Nat.pow 2 52 ∧ -1074 < q then 1 else 2
  let up := Nat.pow 2 (q - 2).toNat
  { low := (4 * m - below) * up
    value := 4 * m * up
    high := (4 * m + 2) * up
    closed := m % 2 = 0
    scale := Nat.pow 2 (2 - q).toNat }

/-- Whether `num / den` lies in the interval. -/
def Interval.contains (i : Interval) (num den : Nat) : Bool :=
  let x := num * i.scale
  if i.closed then i.low * den ≤ x && x ≤ i.high * den else i.low * den < x && x < i.high * den

/-- The largest `e` with `10 ^ e ≤ num / den`, for a positive quotient. -/
def floorLog10 (num den : Nat) : Int :=
  let estimate : Int := ((num.log2 : Int) - den.log2 - 1) * 30103 / 100000 - 1
  let reaches (e : Int) : Bool := den * Nat.pow 10 e.toNat ≤ num * Nat.pow 10 (-e).toNat
  if reaches (estimate + 2) then estimate + 2
  else if reaches (estimate + 1) then estimate + 1
  else estimate

/-- The numerator and denominator of `d * 10 ^ k`. -/
def gridPoint (d : Nat) (k : Int) : Nat × Nat :=
  (d * Nat.pow 10 k.toNat, Nat.pow 10 (-k).toNat)

/-- The point of the grid of multiples of `10 ^ k` that lies in the interval and is nearest to its
value, if there is one. -/
def Interval.nearestOnGrid (i : Interval) (k : Int) : Option Nat :=
  let num := i.value * Nat.pow 10 (-k).toNat
  let den := i.scale * Nat.pow 10 k.toNat
  let d := num / den
  let inside (d : Nat) : Bool := let (n, e) := gridPoint d k; i.contains n e
  match inside d, inside (d + 1) with
  | false, false => none
  | true, false => some d
  | false, true => some (d + 1)
  | true, true =>
    let past := 2 * (num % den)
    if past < den then some d
    else if den < past then some (d + 1)
    else if d % 2 = 0 then some d else some (d + 1)

/-- Tries grids of `count`, `count + 1`, … significant digits, `tries` of them at most. -/
def Interval.fewest (i : Interval) (top : Int) : (count tries : Nat) → Option Digits
  | _, 0 => none
  | count, tries + 1 =>
    let k := top - count + 1
    match i.nearestOnGrid k with
    | some d => some ⟨d, k⟩
    | none => i.fewest top (count + 1) tries

/-- Drops trailing zeros of the digits, `tries` of them at most. -/
def Digits.trim (d : Digits) : (tries : Nat) → Digits
  | 0 => d
  | tries + 1 =>
    if d.significand % 10 = 0 ∧ d.significand ≠ 0 then
      Digits.trim ⟨d.significand / 10, d.exponent + 1⟩ tries
    else d

/-- The decimal of fewest digits that reads back as the positive finite double `x`. Seventeen digits
always suffice. -/
def shortest (x : Float) : Digits :=
  let i := Interval.around (significand x) (unitExponent x)
  match i.fewest (floorLog10 i.value i.scale) 1 17 with
  | some d => d.trim 20
  | none => ⟨significand x, unitExponent x⟩

end Waterway.Decimal
