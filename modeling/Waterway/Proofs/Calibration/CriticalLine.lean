import Waterway.Proofs.Calibration.HigherWater
import Waterway.Proofs.Judgement.Wording

/-!
# The critical line

A sensor gives the alert from the critical level on. A judgement goes by the percentage of that level, which has one
decimal place, and so it speaks of the critical level a little below it already. In exact arithmetic the two differ
there and nowhere else.

## Main definitions

- `Calibration.IsAlmostCritical` — a level below the critical one that is a hundred percent of it when rounded

## Main statements

- `Calibration.hundred_le_criticalPercentage_iff` — the level from which the percentage is a hundred or more
- `said_critical_iff` — what a judgement says of such a percentage
- `critical_line_iff` — where the alert and the judgement agree
-/

namespace Waterway

open Decimal

namespace Calibration

variable {c : Calibration Rat} {level : Rat}

theorem alert_eq_critical_iff : c.alert level = .critical ↔ c.criticalLevel ≤ level := by
  rw [alert]
  split_ifs with hcritical
  · exact iff_of_true rfl hcritical
  all_goals exact iff_of_false (by decide) hcritical

/-- The percentage is a hundred or more from a twentieth of a percent below the critical level on. -/
theorem hundred_le_criticalPercentage_iff (hc : c.Usable) :
    100 ≤ c.criticalPercentage level ↔ 0.9995 * c.criticalLevel ≤ level := by
  have hpos := hc.criticalLevel_pos
  have hrounded : 100 ≤ c.criticalPercentage level ↔
      ((1000 : Nat) : Rat) ≤ roundRat (level / c.criticalLevel * 100.0 * 10 ^ 1) := by
    rw [criticalPercentage, Quantity.roundTo_eq, le_div_iff₀ (by norm_num)]
    norm_num
  rw [hrounded, natCast_le_roundRat_iff_of_pos (by norm_num), ← le_div_iff₀ hpos]
  push_cast
  constructor
  · intro h
    linarith
  · intro h
    linarith

/-- A level below the critical one that is a hundred percent of it when rounded. -/
def IsAlmostCritical (c : Calibration Rat) (level : Rat) : Prop :=
  0.9995 * c.criticalLevel ≤ level ∧ level < c.criticalLevel

theorem criticalPercentage_criticalLevel (hc : c.Usable) : c.criticalPercentage c.criticalLevel = 100 := by
  rw [criticalPercentage, div_self hc.criticalLevel_pos.ne']
  decide +kernel

theorem IsAlmostCritical.criticalPercentage_eq (hc : c.Usable) (h : c.IsAlmostCritical level) :
    c.criticalPercentage level = 100 := by
  refine le_antisymm ?_ ((hundred_le_criticalPercentage_iff hc).mpr h.1)
  exact (criticalPercentage_mono hc h.2.le).trans (criticalPercentage_criticalLevel hc).le

end Calibration

namespace Finding

/-- What is said of a percentage, as far as something is said. -/
theorem head?_ofPercentage (p : Rat) : (ofPercentage p).conditions.head? =
    if p < 90 then none else if p < 100 then some .nearingCritical else if p = 100 then some .atCritical
    else some .aboveCritical := by
  rw [ofPercentage]
  norm_num
  grind

theorem head?_ofPercentage_eq_atCritical_iff {p : Rat} :
    (ofPercentage p).conditions.head? = some .atCritical ↔ p = 100 := by
  rw [head?_ofPercentage]
  grind

theorem head?_ofPercentage_eq_aboveCritical_iff {p : Rat} :
    (ofPercentage p).conditions.head? = some .aboveCritical ↔ 100 < p := by
  rw [head?_ofPercentage]
  grind

end Finding

namespace Judgement

/-- A judgement speaks of the critical level: the water is at it, or above it. -/
def SpeaksOfCritical (j : Judgement) : Prop :=
  Condition.atCritical.message ∈ j.conditions ∨ Condition.aboveCritical.message ∈ j.conditions

instance : DecidablePred SpeaksOfCritical := fun _ =>
  inferInstanceAs (Decidable (_ ∨ _))

end Judgement

section

variable {e : Evidence Rat} {s : WaterLevel Rat} {t : Thresholds}

theorem atCritical_mem_judge_iff (hs : e.waterLevel = some s) :
    Condition.atCritical.message ∈ (judge e t).conditions ↔ s.criticalPercentage = 100 := by
  have hlevel : Condition.atCritical ∈ Topic.level.conditions := by decide
  rw [mem_conditions_judge_iff hlevel, Evidence.said, hs, Option.bind_some,
    Finding.head?_ofPercentage_eq_atCritical_iff]

theorem aboveCritical_mem_judge_iff (hs : e.waterLevel = some s) :
    Condition.aboveCritical.message ∈ (judge e t).conditions ↔ 100 < s.criticalPercentage := by
  have hlevel : Condition.aboveCritical ∈ Topic.level.conditions := by decide
  rw [mem_conditions_judge_iff hlevel, Evidence.said, hs, Option.bind_some,
    Finding.head?_ofPercentage_eq_aboveCritical_iff]

theorem speaksOfCritical_judge_iff (hs : e.waterLevel = some s) :
    (judge e t).SpeaksOfCritical ↔ 100 ≤ s.criticalPercentage := by
  rw [Judgement.SpeaksOfCritical, atCritical_mem_judge_iff hs, aboveCritical_mem_judge_iff hs, le_iff_eq_or_lt, eq_comm]

end

/-- The alert of the sensor and the judgement agree on the critical level, but for the levels just below it that are a
hundred percent of it when rounded. There the judgement says that the water is at the critical level, and the sensor
gives a lesser alert. -/
theorem critical_line_iff {c : Calibration Rat} (hc : c.Usable) (level : Rat) (previous : Option Rat)
    (observedAt : Instant) (blockage : Option Blockage) (weather : Option (Weather Rat)) (t : Thresholds) :
    let j := judge { blockage, waterLevel := some (.derive level previous c observedAt), weather } t
    ((c.alert level = .critical ↔ j.SpeaksOfCritical) ↔ ¬c.IsAlmostCritical level) ∧
    (c.IsAlmostCritical level → c.alert level ≠ .critical ∧ Condition.atCritical.message ∈ j.conditions) := by
  intro j
  have hspeaks : j.SpeaksOfCritical ↔ 0.9995 * c.criticalLevel ≤ level :=
    (speaksOfCritical_judge_iff rfl).trans (Calibration.hundred_le_criticalPercentage_iff hc)
  have hbelow : 0.9995 * c.criticalLevel ≤ c.criticalLevel := by
    have hpos := hc.criticalLevel_pos
    linarith
  refine ⟨?_, fun halmost => ⟨?_, ?_⟩⟩
  · rw [hspeaks, Calibration.alert_eq_critical_iff, Calibration.IsAlmostCritical, not_and, not_lt]
    exact ⟨Iff.mpr, fun hlevel => ⟨hbelow.trans, hlevel⟩⟩
  · rw [Ne, Calibration.alert_eq_critical_iff, not_le]
    exact halmost.2
  · exact (atCritical_mem_judge_iff rfl).mpr (halmost.criticalPercentage_eq hc)

/-- A sensor three metres above the bed, with a critical level of two metres. -/
def bridgeGauge : Calibration Rat :=
  ⟨300, 150, 200⟩

/-- At 99.9 percent alert and judgement agree, and at 99.975 percent they do not. -/
theorem critical_line_iff_bridgeGauge :
    let j (level : Rat) := judge { waterLevel := some (.derive level none bridgeGauge .year2000) } ⟨45, 75, 76⟩
    bridgeGauge.Usable ∧ (bridgeGauge.alert 199.8 = .critical ↔ (j 199.8).SpeaksOfCritical) ∧
    bridgeGauge.IsAlmostCritical 199.95 ∧ Condition.atCritical.message ∈ (j 199.95).conditions := by
  intro j
  have hc : bridgeGauge.Usable := by decide +kernel
  have halmost : bridgeGauge.IsAlmostCritical 199.95 := by
    constructor <;> norm_num [bridgeGauge]
  have hnot : ¬bridgeGauge.IsAlmostCritical 199.8 := by
    rintro ⟨hle, -⟩
    norm_num [bridgeGauge] at hle
  obtain ⟨hagree, -⟩ := critical_line_iff hc 199.8 none .year2000 none none ⟨45, 75, 76⟩
  obtain ⟨-, hlisted⟩ := critical_line_iff hc 199.95 none .year2000 none none ⟨45, 75, 76⟩
  exact ⟨hc, hagree.mpr hnot, halmost, (hlisted halmost).2⟩

/-- Half a millimetre below the critical level the judgement says that the water is at it, and the alert is a
warning. -/
theorem almost_critical_judged :
    bridgeGauge.Usable ∧ bridgeGauge.alert 199.95 = .warning ∧
    ¬(bridgeGauge.alert 199.95 = .critical ↔
      (judge { waterLevel := some (.derive 199.95 none bridgeGauge .year2000) } ⟨45, 75, 76⟩).SpeaksOfCritical) := by
  decide +kernel

end Waterway
