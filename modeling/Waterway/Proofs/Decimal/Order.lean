import Mathlib
import Waterway.Decimal.Quantity

/-!
# The order of doubles

Doubles are compared case by case. All the cases come to one comparison of places on a line, on which only what is no
number has no place. So the order is total among numbers, and comparisons can be chained.

## Main definitions

- `place` — where an unpacked double is on the line
- `LawfulQuantity` — quantities whose comparisons can be chained
- `Quantity.AtMost` — what is no greater than a quantity

## Main statements

- `compare_eq` — unpacked doubles are compared by their places
- `lt_iff_place`, `le_iff_place` — so are doubles
- `not_lt_iff` — of two numbers, one is less than the other or at least as great
-/

namespace Waterway.Decimal

open Float.Model Float.Model.UnpackedFloat

/-- Quantities whose comparisons can be chained. -/
class LawfulQuantity (α : Type) [Quantity α] : Prop where
  lt_of_le_of_lt {x y z : α} : x ≤ y → y < z → x < z

namespace Quantity

variable {α : Type} [Quantity α]

/-- One quantity is another one, or at most that. What is no number is at most itself. -/
def AtMost (x y : α) : Prop :=
  x = y ∨ x ≤ y

/-- What is at most a quantity keeps below the bounds that the quantity keeps below. -/
theorem AtMost.lt [LawfulQuantity α] {x y bound : α} (h : AtMost x y) (hy : y < bound) : x < bound := by
  rcases h with rfl | hle
  · exact hy
  · exact LawfulQuantity.lt_of_le_of_lt hle hy

end Quantity

/-! ## Unpacked doubles -/

/-- Where an unpacked double is on the line: its kind, from negative to positive infinity, then its exponent and its
significand, all of them with the sign. -/
def place : UnpackedFloat → Int ×ₗ Int ×ₗ Int
  | .infinity sign => toLex (sign.apply 2, toLex (0, 0))
  | .finite sign mantissa exponent _ => toLex (sign.apply 1, toLex (sign.apply exponent, sign.apply mantissa))
  | .zero _ | .notANumber => toLex (0, toLex (0, 0))

theorem compare_neg (a b : Int) : compare (-a) (-b) = compare b a := by
  rw [← cmp_eq_compare, ← cmp_eq_compare]
  exact StrictAnti.cmp_map_eq (fun _ _ => Int.neg_lt_neg) a b

theorem compare_natCast (a b : Nat) : compare (a : Int) (b : Int) = compare a b := by
  rw [← cmp_eq_compare, ← cmp_eq_compare]
  exact StrictMono.cmp_map_eq (fun _ _ => Int.ofNat_lt.mpr) a b

/-- Of two finite doubles the exponents are compared first; below zero the greater significand is the lesser double. -/
theorem compare_finite (sign sign' : Sign) (m m' : Nat) (e e' : Int) (hpos : 0 < m) (hpos' : 0 < m') :
    (finite sign m e hpos).compare (finite sign' m' e' hpos') =
      some (compare (place (finite sign m e hpos)) (place (finite sign' m' e' hpos'))) := by
  rw [UnpackedFloat.compare.eq_def, Prod.Lex.compare_def]
  cases sign <;> cases sign'
  · simp [compareLex, compareOn, place, Sign.apply, Prod.Lex.compare_def, Ordering.swap_then, compare_neg,
      compare_natCast, Int.compare_swap, Nat.compare_swap]
  · rfl
  · rfl
  · simp [compareLex, compareOn, place, Sign.apply, Prod.Lex.compare_def, compare_natCast]

/-- Unpacked doubles are compared by their places. -/
theorem compare_eq {u v : UnpackedFloat} (hu : u.isNaN = false) (hv : v.isNaN = false) :
    u.compare v = some (compare (place u) (place v)) := by
  cases u with
  | notANumber => cases hu
  | infinity sign =>
    cases v with
    | notANumber => cases hv
    | infinity sign' => cases sign <;> cases sign' <;> rfl
    | zero => cases sign <;> rfl
    | finite sign' => cases sign <;> cases sign' <;> rfl
  | zero =>
    cases v with
    | notANumber => cases hv
    | infinity sign' => cases sign' <;> rfl
    | zero => rfl
    | finite sign' => cases sign' <;> rfl
  | finite sign m e hpos =>
    cases v with
    | notANumber => cases hv
    | infinity sign' => cases sign <;> cases sign' <;> rfl
    | zero => cases sign <;> rfl
    | finite sign' m' e' hpos' => exact compare_finite sign sign' m m' e e' hpos hpos'

/-- What is no number cannot be compared. -/
theorem isNaN_of_compare {u v : UnpackedFloat} {o : Ordering} (h : u.compare v = some o) :
    u.isNaN = false ∧ v.isNaN = false := by
  cases u with
  | notANumber => cases h
  | infinity | zero | finite =>
    cases v with
    | notANumber => cases h
    | infinity | zero | finite => exact ⟨rfl, rfl⟩

/-! ## Doubles -/

/-- Where a double is on the line. -/
def placeOf (x : Float) : Int ×ₗ Int ×ₗ Int :=
  place x.toModel.unpack

theorem lt_iff_place {x y : Float} : x < y ↔ x.isNaN = false ∧ y.isNaN = false ∧ placeOf x < placeOf y := by
  have hcompare : x < y ↔ x.toModel.unpack.compare y.toModel.unpack = some .lt := by
    change decide (x.toModel < y.toModel) = true ↔ _
    rw [decide_eq_true_iff]
    exact beq_iff_eq
  rw [hcompare]
  constructor
  · intro h
    obtain ⟨hx, hy⟩ := isNaN_of_compare h
    rw [compare_eq hx hy, Option.some_inj, compare_lt_iff_lt] at h
    exact ⟨hx, hy, h⟩
  · rintro ⟨hx, hy, h⟩
    rw [compare_eq hx hy, Option.some_inj, compare_lt_iff_lt]
    exact h

theorem le_iff_place {x y : Float} : x ≤ y ↔ x.isNaN = false ∧ y.isNaN = false ∧ placeOf x ≤ placeOf y := by
  have hcompare : x ≤ y ↔ ∃ o, x.toModel.unpack.compare y.toModel.unpack = some o ∧ o.isLE := by
    change decide (x.toModel ≤ y.toModel) = true ↔ _
    rw [decide_eq_true_iff]
    exact Option.any_eq_true _ _
  rw [hcompare]
  constructor
  · rintro ⟨o, h, hle⟩
    obtain ⟨hx, hy⟩ := isNaN_of_compare h
    rw [compare_eq hx hy, Option.some_inj] at h
    rw [← h, Ordering.isLE_iff_ne_gt] at hle
    exact ⟨hx, hy, compare_le_iff_le.mp hle⟩
  · rintro ⟨hx, hy, h⟩
    refine ⟨_, compare_eq hx hy, ?_⟩
    rw [Ordering.isLE_iff_ne_gt]
    exact compare_le_iff_le.mpr h

/-- Of two numbers, one is less than the other or at least as great. -/
theorem not_lt_iff {x y : Float} (hx : x.isNaN = false) (hy : y.isNaN = false) : ¬x < y ↔ y ≤ x := by
  constructor
  · intro h
    exact le_iff_place.mpr ⟨hy, hx, not_lt.mp fun hlt => h (lt_iff_place.mpr ⟨hx, hy, hlt⟩)⟩
  · intro hle hlt
    obtain ⟨-, -, hplace⟩ := le_iff_place.mp hle
    obtain ⟨-, -, hplace'⟩ := lt_iff_place.mp hlt
    exact absurd hplace' (not_lt.mpr hplace)

instance : LawfulQuantity Float where
  lt_of_le_of_lt h h' := by
    obtain ⟨hx, -, hle⟩ := le_iff_place.mp h
    obtain ⟨-, hz, hlt⟩ := lt_iff_place.mp h'
    exact lt_iff_place.mpr ⟨hx, hz, lt_of_le_of_lt hle hlt⟩

instance : LawfulQuantity Rat where
  lt_of_le_of_lt h h' := lt_of_le_of_lt (α := Rat) h h'

end Waterway.Decimal
