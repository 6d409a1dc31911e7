import Waterway.Observation.Calibration
import Waterway.Proofs.Decimal.Rounding

/-!
# The movement between two levels

The rate of change is the difference of two levels, rounded to hundredths. In exact arithmetic it depends on nothing but
that difference, and rounding treats both directions alike: seen the other way round, the water falls by as much as it
had risen.

## Main definitions

- `Trend.reversed` — the trend of the opposite movement

## Main statements

- `rateOfChange_swap`, `trendOf_neg` — the rate and the trend of the opposite movement
- `trendOf_rateOfChange_eq_rising_iff` — the difference from which the water counts as rising
- `movement_symmetric` — what rounding does to a number, and so to the movement between two levels
-/

namespace Waterway

open Decimal

/-- The trend of the opposite movement. -/
def Trend.reversed : Trend → Trend
  | .rising => .falling
  | .falling => .rising
  | .stable => .stable

theorem Trend.reversed_eq_iff {t u : Trend} : t.reversed = u ↔ t = u.reversed := by
  cases t <;> cases u <;> decide

theorem trendOf_eq (rate : Rat) :
    trendOf rate = if 1 < rate then .rising else if rate < -1 then .falling else .stable := by
  rw [trendOf]
  norm_num

theorem trendOf_eq_rising_iff {rate : Rat} : trendOf rate = .rising ↔ 1 < rate := by
  rw [trendOf_eq]
  split_ifs with hrising
  · exact iff_of_true rfl hrising
  all_goals exact iff_of_false (by decide) hrising

/-- The opposite rate gives the opposite trend. -/
theorem trendOf_neg (rate : Rat) : trendOf (-rate) = (trendOf rate).reversed := by
  have hrising : 1 < -rate ↔ rate < -1 := lt_neg
  have hfalling : -rate < -1 ↔ 1 < rate := neg_lt_neg_iff
  simp only [trendOf_eq, hrising, hfalling]
  split_ifs with hbelow habove
  · linarith
  all_goals rfl

theorem rateOfChange_swap (level previous : Rat) :
    rateOfChange previous (some level) = -rateOfChange level (some previous) := by
  rw [rateOfChange, ← neg_sub level previous]
  exact Quantity.roundTo_neg (level - previous) 2

/-- Only the difference of the two levels counts. -/
theorem rateOfChange_add (level previous shift : Rat) :
    rateOfChange (level + shift) (some (previous + shift)) = rateOfChange level (some previous) := by
  rw [rateOfChange, add_sub_add_right_eq_sub]
  rfl

theorem one_lt_roundTo_iff {x : Rat} : 1 < Quantity.roundTo x 2 ↔ 1.005 ≤ x := by
  have hhundredths : 1 < Quantity.roundTo x 2 ↔ ((100 : Nat) : Rat) < roundRat (x * 10 ^ 2) := by
    rw [Quantity.roundTo_eq, lt_div_iff₀ (by norm_num)]
    norm_num
  rw [hhundredths, natCast_lt_roundRat_iff]
  constructor
  · intro h
    linarith
  · intro h
    linarith

theorem trendOf_rateOfChange_eq_rising_iff {level previous : Rat} :
    trendOf (rateOfChange level (some previous)) = .rising ↔ 1.005 ≤ level - previous :=
  trendOf_eq_rising_iff.trans one_lt_roundTo_iff

theorem trendOf_rateOfChange_eq_falling_iff {level previous : Rat} :
    trendOf (rateOfChange level (some previous)) = .falling ↔ 1.005 ≤ previous - level := by
  rw [← trendOf_rateOfChange_eq_rising_iff, rateOfChange_swap, trendOf_neg, Trend.reversed_eq_iff, Trend.reversed]

/-- Rounding gives the nearest number of so many places, a half going away from zero; it changes nothing that has been
rounded, treats both signs alike and keeps the order. So the rate of change is within half a hundredth of the difference
of two levels, and there is a trend from half a hundredth beyond a centimetre on. The opposite movement has the opposite
rate and trend, and levels that are counted from another height have the same. -/
theorem movement_symmetric (x : Rat) (places : Nat) (level previous shift : Rat) (c c' : Calibration Rat)
    (observedAt observedAt' : Instant) :
    let rounded := Quantity.roundTo x places
    let forward := WaterLevel.derive level (some previous) c observedAt
    let backward := WaterLevel.derive previous (some level) c' observedAt'
    let shifted := WaterLevel.derive (level + shift) (some (previous + shift)) c' observedAt'
    (IsNearest (1 / 10 ^ places) x rounded ∧ Quantity.roundTo rounded places = rounded ∧
      Quantity.roundTo (-x) places = -rounded ∧ ∀ y, x ≤ y → rounded ≤ Quantity.roundTo y places) ∧
    IsNearest (1 / 10 ^ 2) (level - previous) forward.changeRate ∧
    (forward.trend = .rising ↔ 1.005 ≤ level - previous) ∧
    (forward.trend = .falling ↔ 1.005 ≤ previous - level) ∧
    backward.changeRate = -forward.changeRate ∧ backward.trend = forward.trend.reversed ∧
    shifted.changeRate = forward.changeRate ∧ shifted.trend = forward.trend := by
  intro rounded forward backward shifted
  have hbackward : backward.changeRate = -forward.changeRate := rateOfChange_swap level previous
  have hshifted : shifted.changeRate = forward.changeRate := rateOfChange_add level previous shift
  have hnearest : IsNearest (1 / 10 ^ 2) (level - previous) forward.changeRate :=
    Quantity.isNearest_roundTo (level - previous) 2
  have hreversed : backward.trend = forward.trend.reversed := by
    show trendOf backward.changeRate = (trendOf forward.changeRate).reversed
    rw [hbackward, trendOf_neg]
  have htrend : shifted.trend = forward.trend := congrArg trendOf hshifted
  refine ⟨⟨?_, ?_, ?_, fun y hy => ?_⟩, hnearest, trendOf_rateOfChange_eq_rising_iff,
    trendOf_rateOfChange_eq_falling_iff, hbackward, hreversed, hshifted, htrend⟩
  · exact Quantity.isNearest_roundTo x places
  · exact Quantity.roundTo_roundTo x places
  · exact Quantity.roundTo_neg x places
  · exact Quantity.roundTo_mono hy places

/-- A sensor three metres above the bed. -/
def lockGauge : Calibration Rat :=
  ⟨300, 150, 200⟩

/-- A half goes away from zero in either direction, and half a hundredth beyond a centimetre is a movement. -/
theorem movement_symmetric_lockGauge :
    let forward := WaterLevel.derive 101.005 (some 100) lockGauge .year2000
    let backward := WaterLevel.derive 100 (some 101.005) lockGauge .year2000
    let shifted := WaterLevel.derive (101.005 + 48.3) (some (100 + 48.3)) lockGauge .year2000
    Quantity.roundTo (0.125 : Rat) 2 = 0.13 ∧ Quantity.roundTo (-0.125 : Rat) 2 = -0.13 ∧
    (0.125 : Rat) ≤ 0.134 ∧ (0.13 : Rat) ≤ Quantity.roundTo 0.134 2 ∧
    forward.changeRate = 1.01 ∧ forward.trend = .rising ∧ backward.changeRate = -1.01 ∧ backward.trend = .falling ∧
    shifted.changeRate = 1.01 ∧ shifted.trend = .rising := by
  intro forward backward shifted
  have hle : (0.125 : Rat) ≤ 0.134 := by norm_num
  have hrounded : Quantity.roundTo (0.125 : Rat) 2 = 0.13 := by decide +kernel
  have hrate : forward.changeRate = 1.01 := by decide +kernel
  obtain ⟨⟨-, -, hneg, hmono⟩, -, hrising, -, hswap, hreversed, hshifted, htrend⟩ :=
    movement_symmetric 0.125 2 101.005 100 48.3 lockGauge lockGauge .year2000 .year2000
  have hup : forward.trend = .rising := hrising.mpr (by norm_num)
  have hdown : backward.trend = .falling := by rw [hreversed, hup, Trend.reversed]
  have hopposite : backward.changeRate = -1.01 := by rw [hswap, hrate]
  rw [hrounded] at hneg hmono
  exact ⟨hrounded, hneg, hle, hmono _ hle, hrate, hup, hopposite, hdown, hshifted.trans hrate, htrend.trans hup⟩

end Waterway
