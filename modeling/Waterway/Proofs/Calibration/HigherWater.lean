import Waterway.Observation.Calibration
import Waterway.Proofs.Decimal.Rounding
import Waterway.Proofs.Judgement.Risk

/-!
# Higher water

The nearer the surface is to the sensor, the higher is the water. In exact arithmetic nothing that is made of the
distance looks safer then: neither the status, nor the score of the site, nor the alert of the sensor.

## Main definitions

- `WaterLevel.LooksNoHigher` — a status is no worse than another one in any part

## Main statements

- `WaterLevel.derive_mono` — the status of a higher level looks no lower
- `higher_water_no_safer` — from the distance to the score and to the alert
-/

namespace Waterway

open Decimal

/-- The place of a trend in the order from falling to rising. -/
def Trend.rank : Trend → Nat
  | .falling => 0
  | .stable => 1
  | .rising => 2

/-- A status is no worse than another one: neither the height of the water, nor its movement. -/
structure WaterLevel.LooksNoHigher (s s' : WaterLevel Rat) : Prop where
  criticalPercentage : s.criticalPercentage ≤ s'.criticalPercentage
  changeRate : s.changeRate ≤ s'.changeRate
  trend : s.trend.rank ≤ s'.trend.rank

namespace Calibration

variable {c : Calibration Rat}

/-- The critical level of a usable calibration is above the bed. -/
theorem Usable.criticalLevel_pos (hc : c.Usable) : 0 < c.criticalLevel := by
  have hlevel : ¬c.criticalLevel ≤ (0.0 : Rat) := hc
  norm_num at hlevel
  exact hlevel

theorem levelAt_anti {d d' : Rat} (h : d ≤ d') : c.levelAt d' ≤ c.levelAt d :=
  sub_le_sub_left h c.height

theorem criticalPercentage_mono (hc : c.Usable) {level level' : Rat} (h : level ≤ level') :
    c.criticalPercentage level ≤ c.criticalPercentage level' := by
  have hshare : level / c.criticalLevel ≤ level' / c.criticalLevel :=
    div_le_div_of_nonneg_right h hc.criticalLevel_pos.le
  exact Quantity.roundTo_mono (mul_le_mul_of_nonneg_right hshare (by norm_num)) 1

/-- The critical level is looked at first, so the levels of alarm may be in any order. -/
theorem rank_alert_mono {level level' : Rat} (h : level ≤ level') : (c.alert level).rank ≤ (c.alert level').rank := by
  fun_cases alert c level with
  | case1 hcritical =>
    rw [alert, if_pos (hcritical.trans h)]
  | case2 hcritical hwarning =>
    rw [alert, if_pos (c := c.warningLevel ≤ level') (hwarning.trans h)]
    split_ifs <;> simp [LevelAlert.rank]
  | case3 => exact Nat.zero_le _

end Calibration

theorem rateOfChange_mono {level level' : Rat} (h : level ≤ level') (previous : Option Rat) :
    rateOfChange level previous ≤ rateOfChange level' previous := by
  cases previous with
  | none => exact le_refl _
  | some p => exact Quantity.roundTo_mono (sub_le_sub_right h p) 2

theorem rank_trendOf_mono {rate rate' : Rat} (h : rate ≤ rate') : (trendOf rate).rank ≤ (trendOf rate').rank := by
  fun_cases trendOf rate with
  | case1 hrising =>
    rw [trendOf, if_pos (lt_of_lt_of_le hrising h)]
  | case2 => exact Nat.zero_le _
  | case3 hrising hfalling =>
    rw [trendOf, if_neg (c := rate' < -1.0) fun hfalling' => hfalling (lt_of_le_of_lt h hfalling')]
    split_ifs <;> simp [Trend.rank]

/-- The status of a higher level looks no lower. -/
theorem WaterLevel.derive_mono {c : Calibration Rat} (hc : c.Usable) (previous : Option Rat) {level level' : Rat}
    (h : level ≤ level') (observedAt observedAt' : Instant) :
    (derive level previous c observedAt).LooksNoHigher (derive level' previous c observedAt') where
  criticalPercentage := c.criticalPercentage_mono hc h
  changeRate := rateOfChange_mono h previous
  trend := rank_trendOf_mono (rateOfChange_mono h previous)

/-- A status that looks no lower makes the evidence no better. -/
theorem WaterLevel.LooksNoHigher.noWorse {s s' : WaterLevel Rat} (h : s.LooksNoHigher s') (blockage : Option Blockage)
    (weather : Option (Weather Rat)) :
    Evidence.NoWorse { blockage, waterLevel := some s, weather } { blockage, waterLevel := some s', weather } where
  blockage b hb := ⟨b, hb, Nat.le_refl _⟩
  waterLevel := by
    rintro _ ⟨⟩
    refine ⟨s', rfl, .inr h.criticalPercentage, fun hrising => ?_⟩
    have hrank : 2 ≤ s'.trend.rank := by
      have htrend := h.trend
      rwa [hrising] at htrend
    cases htrend : s'.trend with
    | rising => rfl
    | stable | falling => exact absurd (htrend ▸ hrank) (by decide)
  weather w hw := ⟨w, hw, .inl rfl⟩

/-- The nearer the surface is to the sensor, the higher are the percentage of the critical level, the rate of change
and the trend, the score of the site and the alert of the sensor, or they stay as they are. -/
theorem higher_water_no_safer {c : Calibration Rat} (hc : c.Usable) (previous : Option Rat) {near far : Rat}
    (h : near ≤ far) (observedAt observedAt' : Instant) (blockage : Option Blockage) (weather : Option (Weather Rat))
    (t : Thresholds) :
    let high := WaterLevel.derive (c.levelAt near) previous c observedAt
    let low := WaterLevel.derive (c.levelAt far) previous c observedAt'
    low.criticalPercentage ≤ high.criticalPercentage ∧ low.changeRate ≤ high.changeRate ∧
    low.trend.rank ≤ high.trend.rank ∧
    (judge { blockage, waterLevel := some low, weather } t).score ≤
      (judge { blockage, waterLevel := some high, weather } t).score ∧
    (c.alert (c.levelAt far)).rank ≤ (c.alert (c.levelAt near)).rank := by
  intro high low
  have hlevel : c.levelAt far ≤ c.levelAt near := Calibration.levelAt_anti h
  have hlooks : low.LooksNoHigher high := WaterLevel.derive_mono hc previous hlevel observedAt' observedAt
  refine ⟨hlooks.criticalPercentage, hlooks.changeRate, hlooks.trend, ?_, Calibration.rank_alert_mono hlevel⟩
  exact (hlooks.noWorse blockage weather).score_le

/-- A sensor whose levels of alarm are in the wrong order. -/
def crossedGauge : Calibration Rat :=
  ⟨300, 250, 200⟩

/-- Two millimetres are enough for a higher band, for a trend, and for twenty points. -/
theorem higher_water_no_safer_crossedGauge :
    let high := WaterLevel.derive (crossedGauge.levelAt 120) (some 178.995) crossedGauge .year2000
    let low := WaterLevel.derive (crossedGauge.levelAt 120.2) (some 178.995) crossedGauge .year2000
    crossedGauge.Usable ∧ (120 : Rat) ≤ 120.2 ∧ low.trend = .stable ∧ high.trend = .rising ∧
    low.criticalPercentage ≤ high.criticalPercentage ∧ low.trend.rank ≤ high.trend.rank ∧
    (judge ({ waterLevel := some low } : Evidence Rat) ⟨45, 75, 76⟩).score = 30 ∧
    (judge ({ waterLevel := some high } : Evidence Rat) ⟨45, 75, 76⟩).score = 50 ∧ (30 : UInt8) ≤ 50 := by
  intro high low
  have hc : crossedGauge.Usable := by decide +kernel
  have hle : (120 : Rat) ≤ 120.2 := by norm_num
  have hlow : (judge ({ waterLevel := some low } : Evidence Rat) ⟨45, 75, 76⟩).score = 30 := by decide +kernel
  have hhigh : (judge ({ waterLevel := some high } : Evidence Rat) ⟨45, 75, 76⟩).score = 50 := by decide +kernel
  obtain ⟨hpercentage, -, htrend, hscore, -⟩ :=
    higher_water_no_safer hc (some 178.995) hle .year2000 .year2000 none none ⟨45, 75, 76⟩
  rw [hlow, hhigh] at hscore
  exact ⟨hc, hle, by decide +kernel, by decide +kernel, hpercentage, htrend, hlow, hhigh, hscore⟩

end Waterway
