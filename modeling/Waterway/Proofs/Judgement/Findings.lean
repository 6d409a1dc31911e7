import Mathlib.Tactic.SplitIfs
import Waterway.Alert.Judgement

/-!
# Points and words

What a feed brings to a judgement in points, and when it has nothing to say. The bands that bring points are not those
that bring words: a feed without a word may still bring some.

## Main definitions

- `Finding.Within` — no more than a number of points, and no more than another without a word
- `Evidence.Wordless` — every feed that has reported is in a band without words

## Main statements

- `Finding.within_ofBlockage`, `Finding.within_ofWaterLevel`, `Finding.within_ofWeather` — the points of each feed
- `Evidence.toNat_score` — the score is a sum that fits
- `Evidence.conditions_eq_nil_iff` — when nothing is said of the evidence
- `Evidence.score_le_of_wordless` — what the evidence can be worth without a word
-/

namespace Waterway

open Decimal

variable {α : Type} [Quantity α]

namespace Finding

/-- A finding brings `most` points at most, and `wordless` points at most if it comes without words. -/
structure Within (f : Finding) (most wordless : Nat) : Prop where
  points_le : f.points.toNat ≤ most
  wordless_le : f.conditions = [] → f.points.toNat ≤ wordless

theorem within_nothing (most wordless : Nat) : nothing.Within most wordless :=
  ⟨Nat.zero_le _, fun _ => Nat.zero_le _⟩

theorem within_ofBlockage (s : Blockage) : (ofBlockage s).Within 30 0 := by
  rw [ofBlockage]
  cases s.level <;> constructor <;> simp [nothing]

theorem ofBlockage_wordless_iff {s : Blockage} : (ofBlockage s).conditions = [] ↔ s.level = .clear := by
  rw [ofBlockage]
  cases s.level <;> simp [nothing]

theorem within_ofPercentage (p : α) : (ofPercentage p).Within 45 30 := by
  rw [ofPercentage]
  split_ifs <;> constructor <;> simp

/-- The three lowest bands have no words. A percentage that is no number is in none of them. -/
theorem ofPercentage_wordless_iff {p : α} :
    (ofPercentage p).conditions = [] ↔ p < (50.0 : α) ∨ p < (75.0 : α) ∨ p < (90.0 : α) := by
  rw [ofPercentage]
  split_ifs <;> simp [*]

theorem speedConditions_eq_nil_iff {rate : α} :
    speedConditions rate = [] ↔ ¬(2.0 : α) ≤ rate ∧ ¬(1.5 : α) ≤ rate := by
  rw [speedConditions]
  split_ifs <;> simp [*]

theorem toNat_points_ofWaterLevel (s : WaterLevel α) :
    (ofWaterLevel s).points.toNat =
      (ofPercentage s.criticalPercentage).points.toNat + if s.trend = .rising then 5 else 0 := by
  have hband := (within_ofPercentage s.criticalPercentage).points_le
  rw [ofWaterLevel, UInt8.toNat_add]
  split_ifs
  · rw [show (5 : UInt8).toNat = 5 from rfl]
    exact Nat.mod_eq_of_lt (by omega)
  · rw [show (0 : UInt8).toNat = 0 from rfl]
    exact Nat.mod_eq_of_lt (by omega)

theorem ofWaterLevel_wordless_iff {s : WaterLevel α} :
    (ofWaterLevel s).conditions = [] ↔
      (ofPercentage s.criticalPercentage).conditions = [] ∧ speedConditions s.changeRate = [] :=
  List.append_eq_nil_iff

theorem within_ofWaterLevel (s : WaterLevel α) : (ofWaterLevel s).Within 50 35 := by
  obtain ⟨hmost, hwordless⟩ := within_ofPercentage s.criticalPercentage
  have hrising : (if s.trend = .rising then 5 else 0) ≤ 5 := by split_ifs <;> omega
  constructor
  · rw [toNat_points_ofWaterLevel]
    omega
  · intro h
    have hband := hwordless (ofWaterLevel_wordless_iff.mp h).1
    rw [toNat_points_ofWaterLevel]
    omega

theorem within_ofWeather (s : Weather α) : (ofWeather s).Within 20 15 := by
  simp only [ofWeather]
  split_ifs <;> constructor <;> simp

/-- Two bands have no words, and one with words is between them. -/
theorem ofWeather_wordless_iff {s : Weather α} :
    (ofWeather s).conditions = [] ↔
      s.precipitation < (1.0 : α) ∨ (¬s.precipitation < (2.55 : α) ∧ s.precipitation < (7.5 : α)) := by
  simp only [ofWeather]
  split_ifs <;> simp [*]

end Finding

namespace Evidence

/-- Every feed that has reported is in a band without words. -/
structure Wordless (e : Evidence α) : Prop where
  blockage : ∀ s ∈ e.blockage, s.level = .clear
  waterLevel : ∀ s ∈ e.waterLevel, (s.criticalPercentage < (50.0 : α) ∨ s.criticalPercentage < (75.0 : α) ∨
    s.criticalPercentage < (90.0 : α)) ∧ ¬(2.0 : α) ≤ s.changeRate ∧ ¬(1.5 : α) ≤ s.changeRate
  weather : ∀ s ∈ e.weather, s.precipitation < (1.0 : α) ∨
    (¬s.precipitation < (2.55 : α) ∧ s.precipitation < (7.5 : α))

omit [Quantity α] in
theorem within_blockageFinding (e : Evidence α) : e.blockageFinding.Within 30 0 := by
  rw [blockageFinding]
  cases e.blockage with
  | none => exact Finding.within_nothing 30 0
  | some s => exact Finding.within_ofBlockage s

theorem within_waterLevelFinding (e : Evidence α) : e.waterLevelFinding.Within 50 35 := by
  rw [waterLevelFinding]
  cases e.waterLevel with
  | none => exact Finding.within_nothing 50 35
  | some s => exact Finding.within_ofWaterLevel s

theorem within_weatherFinding (e : Evidence α) : e.weatherFinding.Within 20 15 := by
  rw [weatherFinding]
  cases e.weather with
  | none => exact Finding.within_nothing 20 15
  | some s => exact Finding.within_ofWeather s

/-- The points of the three feeds fit into the word that their sum is kept in. -/
theorem toNat_score (e : Evidence α) :
    e.score.toNat =
      e.blockageFinding.points.toNat + e.waterLevelFinding.points.toNat + e.weatherFinding.points.toNat := by
  have hblockage := e.within_blockageFinding.points_le
  have hwaterLevel := e.within_waterLevelFinding.points_le
  have hweather := e.within_weatherFinding.points_le
  rw [score, UInt8.toNat_add, UInt8.toNat_add]
  omega

omit [Quantity α] in
theorem blockageFinding_wordless_iff {e : Evidence α} :
    e.blockageFinding.conditions = [] ↔ ∀ s ∈ e.blockage, s.level = .clear := by
  rw [blockageFinding]
  cases e.blockage with
  | none => simp [Finding.nothing]
  | some s => simp [Finding.ofBlockage_wordless_iff]

theorem waterLevelFinding_wordless_iff {e : Evidence α} :
    e.waterLevelFinding.conditions = [] ↔ ∀ s ∈ e.waterLevel,
      (s.criticalPercentage < (50.0 : α) ∨ s.criticalPercentage < (75.0 : α) ∨
        s.criticalPercentage < (90.0 : α)) ∧ ¬(2.0 : α) ≤ s.changeRate ∧ ¬(1.5 : α) ≤ s.changeRate := by
  rw [waterLevelFinding]
  cases e.waterLevel with
  | none => simp [Finding.nothing]
  | some s =>
    simp [Finding.ofWaterLevel_wordless_iff, Finding.ofPercentage_wordless_iff,
      Finding.speedConditions_eq_nil_iff]

theorem weatherFinding_wordless_iff {e : Evidence α} :
    e.weatherFinding.conditions = [] ↔ ∀ s ∈ e.weather, s.precipitation < (1.0 : α) ∨
      (¬s.precipitation < (2.55 : α) ∧ s.precipitation < (7.5 : α)) := by
  rw [weatherFinding]
  cases e.weather with
  | none => simp [Finding.nothing]
  | some s => simp [Finding.ofWeather_wordless_iff]

/-- The combination of all three is not there without a word of the blockage. -/
theorem isCriticalCombination_eq_false {e : Evidence α} (h : e.blockageFinding.conditions = []) :
    e.isCriticalCombination = false := by
  have hclear := blockageFinding_wordless_iff.mp h
  rw [isCriticalCombination]
  cases hblockage : e.blockage with
  | none => rfl
  | some s => simp [hclear s hblockage]

/-- Nothing is said of the evidence exactly if every feed is in a band without words. -/
theorem conditions_eq_nil_iff {e : Evidence α} : e.conditions = [] ↔ e.Wordless := by
  have hfeeds : e.conditions = [] ↔ e.blockageFinding.conditions = [] ∧ e.waterLevelFinding.conditions = [] ∧
      e.weatherFinding.conditions = [] := by
    rw [conditions, List.append_eq_nil_iff, List.append_eq_nil_iff, List.append_eq_nil_iff]
    constructor
    · rintro ⟨⟨⟨hblockage, hwaterLevel⟩, hweather⟩, -⟩
      exact ⟨hblockage, hwaterLevel, hweather⟩
    · rintro ⟨hblockage, hwaterLevel, hweather⟩
      exact ⟨⟨⟨hblockage, hwaterLevel⟩, hweather⟩, by simp [isCriticalCombination_eq_false hblockage]⟩
  rw [hfeeds, blockageFinding_wordless_iff, waterLevelFinding_wordless_iff, weatherFinding_wordless_iff]
  exact ⟨fun ⟨hblockage, hwaterLevel, hweather⟩ => ⟨hblockage, hwaterLevel, hweather⟩,
    fun ⟨hblockage, hwaterLevel, hweather⟩ => ⟨hblockage, hwaterLevel, hweather⟩⟩

/-- Without a word, high but not yet critical water that rises and middling rain are the worst. -/
theorem score_le_of_wordless {e : Evidence α} (h : e.Wordless) : e.score.toNat ≤ 50 := by
  have hblockage := e.within_blockageFinding.wordless_le (blockageFinding_wordless_iff.mpr h.blockage)
  have hwaterLevel := e.within_waterLevelFinding.wordless_le (waterLevelFinding_wordless_iff.mpr h.waterLevel)
  have hweather := e.within_weatherFinding.wordless_le (weatherFinding_wordless_iff.mpr h.weather)
  rw [toNat_score]
  omega

end Evidence

end Waterway
