import Mathlib
import Waterway.Decimal.Quantity

/-!
# Rounding in exact arithmetic

A rational number is rounded by rounding its size. What is at least zero is rounded up to a whole number from half a
unit below it on, and with the sign of the number the sign of the result changes. So rounding never turns the order of
two numbers around. The result is the nearest number of the wanted places, and of two equally near ones the one further
from zero; no other number is.

## Main definitions

- `IsNearest` — the nearest multiple of a step, of two equally near ones the one further from zero

## Main statements

- `roundRat_neg` — the number with the other sign is rounded to the result with the other sign
- `natCast_le_roundRat_iff` — what is rounded to a whole number or more
- `roundRat_mono`, `Quantity.roundTo_mono` — rounding keeps the order
- `IsNearest.unique` — there is only one nearest multiple
- `Quantity.roundTo_eq_iff` — what rounding to some places gives
-/

namespace Waterway.Decimal

/-- A quotient is rounded up from half a unit below a whole number on. -/
theorem le_roundHalfUp_iff {k num den : Nat} (hden : 0 < den) :
    k ≤ roundHalfUp num den ↔ (k : Rat) - 1 / 2 ≤ num / den := by
  have hden' : (0 : Rat) < den := Nat.cast_pos.mpr hden
  rw [roundHalfUp, Nat.le_div_iff_mul_le (by omega), ← Nat.cast_le (α := Rat), le_div_iff₀ hden']
  push_cast
  constructor
  · intro h
    linarith
  · intro h
    linarith

theorem roundRat_of_nonneg {q : Rat} (hq : 0 ≤ q) : roundRat q = roundHalfUp q.num.natAbs q.den :=
  if_neg (not_lt.mpr (Rat.num_nonneg.mpr hq))

theorem roundRat_of_neg {q : Rat} (hq : q < 0) : roundRat q = -roundHalfUp q.num.natAbs q.den :=
  if_pos (Rat.num_neg.mpr hq)

theorem roundRat_nonneg {q : Rat} (hq : 0 ≤ q) : 0 ≤ roundRat q := by
  rw [roundRat_of_nonneg hq]
  exact Nat.cast_nonneg _

/-- Only the size of a number is rounded. -/
theorem roundRat_neg (q : Rat) : roundRat (-q) = -roundRat q := by
  rcases lt_trichotomy q 0 with hneg | rfl | hpos
  · rw [roundRat_of_neg hneg, roundRat_of_nonneg (by linarith), neg_neg, Rat.num_neg_eq_neg_num, Int.natAbs_neg,
      Rat.den_neg_eq_den]
  · decide
  · rw [roundRat_of_nonneg hpos.le, roundRat_of_neg (by linarith), Rat.num_neg_eq_neg_num, Int.natAbs_neg,
      Rat.den_neg_eq_den]

/-- What is rounded to a whole number or more is no further below it than half a unit. -/
theorem natCast_le_roundRat_iff {q : Rat} (hq : 0 ≤ q) {k : Nat} : (k : Rat) ≤ roundRat q ↔ (k : Rat) - 1 / 2 ≤ q := by
  have hnum : (q.num.natAbs : Rat) = q.num := by
    rw [← Int.cast_natCast, Int.natAbs_of_nonneg (Rat.num_nonneg.mpr hq)]
  rw [roundRat_of_nonneg hq, Nat.cast_le, le_roundHalfUp_iff q.den_pos, hnum, Rat.num_div_den]

/-- What is below zero is rounded to no whole number above it. -/
theorem natCast_le_roundRat_iff_of_pos {q : Rat} {k : Nat} (hk : 0 < k) :
    (k : Rat) ≤ roundRat q ↔ (k : Rat) - 1 / 2 ≤ q := by
  have hk' : (1 : Rat) ≤ k := Nat.one_le_cast.mpr hk
  rcases le_total 0 q with hq | hq
  · exact natCast_le_roundRat_iff hq
  · have hsize : 0 ≤ roundRat (-q) := roundRat_nonneg (neg_nonneg.mpr hq)
    rw [roundRat_neg] at hsize
    exact iff_of_false (by linarith) (by linarith)

theorem roundRat_mono_of_nonneg {q q' : Rat} (hq : 0 ≤ q) (h : q ≤ q') : roundRat q ≤ roundRat q' := by
  obtain ⟨k, hk⟩ : ∃ k : Nat, roundRat q = k := ⟨_, roundRat_of_nonneg hq⟩
  have hbelow : (k : Rat) - 1 / 2 ≤ q := (natCast_le_roundRat_iff hq).mp hk.ge
  rw [hk]
  exact (natCast_le_roundRat_iff (hq.trans h)).mpr (hbelow.trans h)

/-- Rounding keeps the order. -/
theorem roundRat_mono {q q' : Rat} (h : q ≤ q') : roundRat q ≤ roundRat q' := by
  rcases le_total 0 q with hq | hq
  · exact roundRat_mono_of_nonneg hq h
  · have hsize : 0 ≤ roundRat (-q) := roundRat_nonneg (neg_nonneg.mpr hq)
    rw [roundRat_neg] at hsize
    rcases le_total 0 q' with hq' | hq'
    · have hsize' := roundRat_nonneg hq'
      linarith
    · -- below zero the sizes are in the opposite order
      have hsizes := roundRat_mono_of_nonneg (neg_nonneg.mpr hq') (neg_le_neg h)
      rw [roundRat_neg, roundRat_neg] at hsizes
      linarith

/-- `r` is the multiple of `step` nearest to `x`, and of two equally near ones the one further from zero. -/
structure IsNearest (step x r : Rat) : Prop where
  multiple : ∃ k : Int, r = k * step
  within_half : |r - x| ≤ step / 2
  away : |r - x| = step / 2 → |x| < |r|

namespace IsNearest

variable {step x r r' : Rat}

theorem neg (h : IsNearest step x r) : IsNearest step (-x) (-r) := by
  have hdistance : |-r - -x| = |r - x| := by
    rw [neg_sub_neg, abs_sub_comm]
  obtain ⟨k, hk⟩ := h.multiple
  refine ⟨⟨-k, ?_⟩, hdistance.trans_le h.within_half, fun htie => ?_⟩
  · rw [hk]
    push_cast
    ring
  · rw [abs_neg, abs_neg]
    exact h.away (hdistance.symm.trans htie)

/-- Counting in another unit changes nothing. -/
theorem div (h : IsNearest step x r) {unit : Rat} (hunit : 0 < unit) :
    IsNearest (step / unit) (x / unit) (r / unit) := by
  have hdistance : |r / unit - x / unit| = |r - x| / unit := by
    rw [← sub_div, abs_div, abs_of_pos hunit]
  have hhalf : step / unit / 2 = step / 2 / unit := div_right_comm _ _ _
  obtain ⟨k, hk⟩ := h.multiple
  refine ⟨⟨k, ?_⟩, ?_, fun htie => ?_⟩
  · rw [hk, mul_div_assoc]
  · rw [hdistance, hhalf]
    exact div_le_div_of_nonneg_right h.within_half hunit.le
  · rw [hdistance, hhalf, div_left_inj' hunit.ne'] at htie
    rw [abs_div, abs_div, abs_of_pos hunit]
    exact div_lt_div_of_pos_right (h.away htie) hunit

theorem of_multiple (hstep : 0 < step) (k : Int) : IsNearest step (k * step) (k * step) := by
  have hhalf : |k * step - k * step| < step / 2 := by
    rw [sub_self, abs_zero]
    exact half_pos hstep
  exact ⟨⟨k, rfl⟩, hhalf.le, fun htie => absurd htie hhalf.ne⟩

/-- A multiple that is chosen half a step below a number is further from zero, hence negative. -/
theorem neg_of_half_below (hstep : 0 < step) (h : IsNearest step x r) (hr : r = x - step / 2) : r < 0 := by
  by_contra hnonneg
  have htie : |r - x| = step / 2 := by
    rw [hr, sub_sub_cancel_left, abs_neg, abs_of_pos (half_pos hstep)]
  have haway := h.away htie
  rw [abs_of_nonneg (not_lt.mp hnonneg), abs_of_nonneg (by linarith)] at haway
  linarith

theorem pos_of_half_above (hstep : 0 < step) (h : IsNearest step x r) (hr : r = x + step / 2) : 0 < r :=
  neg_neg_iff_pos.mp (h.neg.neg_of_half_below hstep (by rw [hr, neg_add']))

/-- Were two multiples nearest, they would lie half a step to either side; but one of those is not further from zero. -/
theorem le (hstep : 0 < step) (h : IsNearest step x r) (h' : IsNearest step x r') : r' ≤ r := by
  by_contra hlt
  obtain ⟨k, hk⟩ := h.multiple
  obtain ⟨k', hk'⟩ := h'.multiple
  have hsucc : k + 1 ≤ k' := by
    rw [not_le, hk, hk'] at hlt
    exact Int.add_one_le_of_lt (Int.cast_lt.mp (lt_of_mul_lt_mul_right hlt hstep.le))
  have hapart : (k + 1) * step ≤ r' := by
    rw [hk']
    exact mul_le_mul_of_nonneg_right (by exact_mod_cast hsucc) hstep.le
  have hlow : -(step / 2) ≤ r - x := (abs_le.mp h.within_half).1
  have hhigh : r' - x ≤ step / 2 := (abs_le.mp h'.within_half).2
  have hneg : (k : Rat) * step < 0 := hk ▸ h.neg_of_half_below hstep (by linarith)
  have hpos : 0 < ((k + 1 : Int) : Rat) * step := by
    have hr' := h'.pos_of_half_above hstep (by linarith)
    push_cast
    linarith
  have hk_neg : k < 0 := Int.cast_lt_zero.mp (neg_of_mul_neg_left hneg hstep.le)
  have hk_pos : 0 < k + 1 := Int.cast_pos.mp (pos_of_mul_pos_left hpos hstep.le)
  omega

theorem unique (hstep : 0 < step) (h : IsNearest step x r) (h' : IsNearest step x r') : r = r' :=
  le_antisymm (h'.le hstep h) (h.le hstep h')

end IsNearest

theorem isNearest_roundRat_of_nonneg {q : Rat} (hq : 0 ≤ q) : IsNearest 1 q (roundRat q) := by
  obtain ⟨k, hk⟩ : ∃ k : Nat, roundRat q = k := ⟨_, roundRat_of_nonneg hq⟩
  have hlow : (k : Rat) - 1 / 2 ≤ q := (natCast_le_roundRat_iff hq).mp hk.ge
  have hhigh : q < k + 1 / 2 := by
    have hsucc : ¬((k + 1 : Nat) : Rat) ≤ roundRat q := by
      rw [hk, Nat.cast_le]
      exact Nat.not_succ_le_self k
    rw [natCast_le_roundRat_iff hq] at hsucc
    push_cast at hsucc
    linarith
  rw [hk]
  refine ⟨⟨k, by simp⟩, abs_le.mpr ⟨by linarith, by linarith⟩, fun htie => ?_⟩
  -- the whole number below is never as far as half a unit away
  have hbelow : q < k := by
    by_contra hle
    rw [abs_of_nonpos (by linarith)] at htie
    linarith
  rwa [abs_of_nonneg hq, Nat.abs_cast]

/-- A number is rounded to the nearest whole number, a half going away from zero. -/
theorem isNearest_roundRat (q : Rat) : IsNearest 1 q (roundRat q) := by
  rcases le_total 0 q with hq | hq
  · exact isNearest_roundRat_of_nonneg hq
  · have hsize := (isNearest_roundRat_of_nonneg (neg_nonneg.mpr hq)).neg
    rwa [roundRat_neg, neg_neg, neg_neg] at hsize

/-- What is rounded to more than a whole number is at least half a unit above it. -/
theorem natCast_lt_roundRat_iff {q : Rat} {k : Nat} : (k : Rat) < roundRat q ↔ (k : Rat) + 1 / 2 ≤ q := by
  have hsucc : (k : Rat) < roundRat q ↔ ((k + 1 : Nat) : Rat) ≤ roundRat q := by
    obtain ⟨n, hn⟩ := (isNearest_roundRat q).multiple
    rw [hn, mul_one]
    exact_mod_cast Int.lt_iff_add_one_le
  rw [hsucc, natCast_le_roundRat_iff_of_pos k.succ_pos]
  push_cast
  constructor
  · intro h
    linarith
  · intro h
    linarith

namespace Quantity

theorem tenTo_eq_pow (places : Nat) : (tenTo places : Rat) = 10 ^ places := by
  have hdef : (tenTo places : Rat) = Rat.ofScientific 1 false places := rfl
  rw [hdef, Rat.ofScientific_false_def]
  push_cast
  exact one_mul _

theorem roundTo_eq (x : Rat) (places : Nat) : roundTo x places = roundRat (x * 10 ^ places) / 10 ^ places := by
  rw [← tenTo_eq_pow]
  rfl

/-- Rounding to some places keeps the order. -/
theorem roundTo_mono {x y : Rat} (h : x ≤ y) (places : Nat) : roundTo x places ≤ roundTo y places := by
  have hfactor : (0 : Rat) ≤ 10 ^ places := by positivity
  rw [roundTo_eq, roundTo_eq]
  exact div_le_div_of_nonneg_right (roundRat_mono (mul_le_mul_of_nonneg_right h hfactor)) hfactor

theorem isNearest_roundTo (x : Rat) (places : Nat) : IsNearest (1 / 10 ^ places) x (roundTo x places) := by
  have hfactor : (0 : Rat) < 10 ^ places := by positivity
  have hscaled := (isNearest_roundRat (x * 10 ^ places)).div hfactor
  rwa [mul_div_cancel_right₀ _ hfactor.ne', ← roundTo_eq] at hscaled

/-- Rounding to some places gives the nearest number of so many places, a half going away from zero. -/
theorem roundTo_eq_iff {x r : Rat} {places : Nat} : roundTo x places = r ↔ IsNearest (1 / 10 ^ places) x r := by
  constructor
  · rintro rfl
    exact isNearest_roundTo x places
  · exact (isNearest_roundTo x places).unique (by positivity)

theorem roundTo_neg (x : Rat) (places : Nat) : roundTo (-x) places = -roundTo x places :=
  roundTo_eq_iff.mpr (isNearest_roundTo x places).neg

/-- What has been rounded is not changed by rounding it again. -/
theorem roundTo_roundTo (x : Rat) (places : Nat) : roundTo (roundTo x places) places = roundTo x places := by
  obtain ⟨k, hk⟩ := (isNearest_roundTo x places).multiple
  rw [hk]
  exact roundTo_eq_iff.mpr (.of_multiple (by positivity) k)

end Quantity

end Waterway.Decimal
