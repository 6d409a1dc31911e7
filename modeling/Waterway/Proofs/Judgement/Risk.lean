import Waterway.Proofs.Decimal.Order
import Waterway.Proofs.Judgement.Findings

/-!
# The score of a site

Points are added up byte by byte. They never come to more than a hundred, so nothing is lost on the way, and what each
feed brings is what it brings alone. Only a part of what a feed reports counts, and where none of that gets better the
score does not fall.

## Main definitions

- `Evidence.addends` — the points, one after the other
- `Evidence.scored` — the part of the evidence that counts
- `Evidence.NoWorse` — evidence that is no worse than other evidence in any part

## Main statements

- `Evidence.toNat_foldl_take` — no addition overflows
- `Evidence.score_congr` — the rest of the evidence does not count
- `Evidence.NoWorse.score_le` — worse evidence has no lower score
- `score_adds_up` — what makes up the score of a site, and how it moves
-/

namespace Waterway

open Decimal

variable {α : Type} [Quantity α]

/-- The place of a level in the order from good to bad. -/
def BlockageLevel.rank : BlockageLevel → Nat
  | .clear => 0
  | .partly => 1
  | .blocked => 2

/-- Bytes are added up without loss as long as the sum is a byte. -/
theorem toNat_foldl_add {l : List UInt8} (h : (l.map UInt8.toNat).sum < 256) :
    (l.foldl (· + ·) 0).toNat = (l.map UInt8.toNat).sum := by
  induction l using List.reverseRecOn with
  | nil => rfl
  | append_singleton l n ih =>
    rw [List.map_append, List.sum_append, List.map_singleton, List.sum_singleton] at h ⊢
    rw [List.foldl_append, List.foldl_cons, List.foldl_nil, UInt8.toNat_add, ih (by omega)]
    exact Nat.mod_eq_of_lt h

namespace Finding

theorem points_ofBlockage_le {s s' : Blockage} (h : s.level.rank ≤ s'.level.rank) :
    (ofBlockage s).points.toNat ≤ (ofBlockage s').points.toNat := by
  have hpoints (s : Blockage) : (ofBlockage s).points.toNat = min 30 (20 * s.level.rank) := by
    rw [ofBlockage]
    cases s.level <;> rfl
  rw [hpoints, hpoints]
  omega

variable [LawfulQuantity α]

/-- Each band is left upwards only. -/
theorem points_ofPercentage_le {p p' : α} (h : Quantity.AtMost p p') :
    (ofPercentage p).points.toNat ≤ (ofPercentage p').points.toNat := by
  fun_cases ofPercentage p' with
  | case1 h50 =>
    rw [ofPercentage, if_pos (h.lt h50)]
  | case2 _ h75 =>
    rw [ofPercentage, if_pos (h.lt h75)]
    split_ifs <;> simp
  | case3 _ _ h90 =>
    rw [ofPercentage, if_pos (h.lt h90)]
    split_ifs <;> simp
  | case4 | case5 | case6 => exact (within_ofPercentage p).points_le

theorem points_ofWaterLevel_le {s s' : WaterLevel α}
    (h : Quantity.AtMost s.criticalPercentage s'.criticalPercentage)
    (hrising : s.trend = .rising → s'.trend = .rising) :
    (ofWaterLevel s).points.toNat ≤ (ofWaterLevel s').points.toNat := by
  rw [toNat_points_ofWaterLevel, toNat_points_ofWaterLevel]
  have hband := points_ofPercentage_le h
  have hrise : (if s.trend = .rising then 5 else 0) ≤ if s'.trend = .rising then 5 else 0 := by
    split_ifs with hs hs'
    · exact Nat.le_refl 5
    · exact absurd (hrising hs) hs'
    · exact Nat.zero_le 5
    · exact Nat.le_refl 0
  omega

theorem points_ofWeather_le {s s' : Weather α} (h : Quantity.AtMost s.precipitation s'.precipitation) :
    (ofWeather s).points.toNat ≤ (ofWeather s').points.toNat := by
  fun_cases ofWeather s' with
  | case1 _ h1 =>
    simp [ofWeather, h.lt h1]
  | case2 _ _ hlight =>
    simp only [ofWeather, if_pos (h.lt hlight)]
    split_ifs <;> simp
  | case3 _ _ _ hmiddling =>
    simp only [ofWeather, if_pos (h.lt hmiddling)]
    split_ifs <;> simp
  | case4 => exact (within_ofWeather s).points_le

end Finding

namespace Evidence

/-- The points for the height of the water. -/
def bandPoints (e : Evidence α) : UInt8 :=
  (e.waterLevel.map fun s => (Finding.ofPercentage s.criticalPercentage).points).getD 0

/-- The points for the rise of the water. -/
def risePoints (e : Evidence α) : UInt8 :=
  if e.waterLevel.any (·.trend = .rising) then 5 else 0

/-- The points that are added up, one after the other: for the blockage, for the height of the water and its rise, and
for the rain. -/
def addends (e : Evidence α) : List UInt8 :=
  [e.blockageFinding.points, e.bandPoints, e.risePoints, e.weatherFinding.points]

theorem points_waterLevelFinding (e : Evidence α) : e.waterLevelFinding.points = e.bandPoints + e.risePoints := by
  rw [waterLevelFinding, bandPoints, risePoints]
  cases e.waterLevel with
  | none => rfl
  | some s => simp [Finding.ofWaterLevel]

theorem score_eq_foldl (e : Evidence α) : e.score = e.addends.foldl (· + ·) 0 := by
  rw [score, points_waterLevelFinding, ← UInt8.add_assoc]
  simp [addends]

theorem sum_addends_le (e : Evidence α) : (e.addends.map UInt8.toNat).sum ≤ 100 := by
  have hblockage := e.within_blockageFinding.points_le
  have hband : e.bandPoints.toNat ≤ 45 := by
    rw [bandPoints]
    cases e.waterLevel with
    | none => exact Nat.zero_le 45
    | some s => exact (Finding.within_ofPercentage _).points_le
  have hrise : e.risePoints.toNat ≤ 5 := by
    rw [risePoints]
    split_ifs
    · exact Nat.le_refl 5
    · exact Nat.zero_le 5
  have hweather := e.within_weatherFinding.points_le
  simp only [addends, List.map_cons, List.map_nil, List.sum_cons, List.sum_nil]
  omega

/-- No addition overflows: the byte holds the sum of what has been added so far. -/
theorem toNat_foldl_take (e : Evidence α) (k : Nat) :
    ((e.addends.take k).foldl (· + ·) 0).toNat = ((e.addends.take k).map UInt8.toNat).sum := by
  have hsum : ((e.addends.take k).map UInt8.toNat).sum ≤ (e.addends.map UInt8.toNat).sum :=
    ((List.take_sublist k e.addends).map UInt8.toNat).sum_le_sum (fun _ _ => Nat.zero_le _)
  exact toNat_foldl_add (by have := e.sum_addends_le; omega)

theorem toNat_score_le (e : Evidence α) : e.score.toNat ≤ 100 := by
  have hlast := e.toNat_foldl_take 4
  have hall : e.addends.take 4 = e.addends := rfl
  rw [hall, ← score_eq_foldl] at hlast
  rw [hlast]
  exact e.sum_addends_le

/-- A feed brings what it brings alone. -/
theorem toNat_score_eq_alone (e : Evidence α) :
    e.score.toNat = ({ blockage := e.blockage } : Evidence α).score.toNat +
      ({ waterLevel := e.waterLevel } : Evidence α).score.toNat +
      ({ weather := e.weather } : Evidence α).score.toNat := by
  simp only [toNat_score]
  simp [blockageFinding, waterLevelFinding, weatherFinding, Finding.nothing]

/-- The part of the evidence that counts: how blocked the waterway is, how high the water is and whether it rises, and
how much it rains. -/
def scored (e : Evidence α) : Option BlockageLevel × Option (α × Trend) × Option α :=
  (e.blockage.map (·.level), e.waterLevel.map fun s => (s.criticalPercentage, s.trend),
    e.weather.map (·.precipitation))

/-- Evidence is no worse than other evidence: what a feed reports is no worse than what it reports there, and no feed
has fallen silent there. -/
structure NoWorse (e e' : Evidence α) : Prop where
  blockage : ∀ s ∈ e.blockage, ∃ s' ∈ e'.blockage, s.level.rank ≤ s'.level.rank
  waterLevel : ∀ s ∈ e.waterLevel, ∃ s' ∈ e'.waterLevel,
    Quantity.AtMost s.criticalPercentage s'.criticalPercentage ∧ (s.trend = .rising → s'.trend = .rising)
  weather : ∀ s ∈ e.weather, ∃ s' ∈ e'.weather, Quantity.AtMost s.precipitation s'.precipitation

theorem noWorse_of_scored_eq {e e' : Evidence α} (h : e.scored = e'.scored) : e.NoWorse e' := by
  simp only [scored, Prod.mk.injEq] at h
  obtain ⟨hblockage, hwaterLevel, hweather⟩ := h
  constructor
  · intro s hs
    rw [Option.mem_def.mp hs, Option.map_some, eq_comm, Option.map_eq_some_iff] at hblockage
    obtain ⟨s', hs', hlevel⟩ := hblockage
    exact ⟨s', hs', hlevel ▸ Nat.le_refl _⟩
  · intro s hs
    rw [Option.mem_def.mp hs, Option.map_some, eq_comm, Option.map_eq_some_iff] at hwaterLevel
    obtain ⟨s', hs', hsame⟩ := hwaterLevel
    obtain ⟨hpercentage, htrend⟩ := Prod.mk.inj hsame
    exact ⟨s', hs', .inl hpercentage.symm, htrend.trans⟩
  · intro s hs
    rw [Option.mem_def.mp hs, Option.map_some, eq_comm, Option.map_eq_some_iff] at hweather
    obtain ⟨s', hs', hprecipitation⟩ := hweather
    exact ⟨s', hs', .inl hprecipitation.symm⟩

variable [LawfulQuantity α]

/-- Worse evidence has no lower score. -/
theorem NoWorse.score_le {e e' : Evidence α} (h : e.NoWorse e') : e.score ≤ e'.score := by
  have hblockage : e.blockageFinding.points.toNat ≤ e'.blockageFinding.points.toNat := by
    cases hs : e.blockage with
    | none => simp [blockageFinding, hs, Finding.nothing]
    | some s =>
      obtain ⟨s', hs', hlevel⟩ := h.blockage s hs
      rw [blockageFinding, blockageFinding, hs, Option.mem_def.mp hs']
      exact Finding.points_ofBlockage_le hlevel
  have hwaterLevel : e.waterLevelFinding.points.toNat ≤ e'.waterLevelFinding.points.toNat := by
    cases hs : e.waterLevel with
    | none => simp [waterLevelFinding, hs, Finding.nothing]
    | some s =>
      obtain ⟨s', hs', hpercentage, hrising⟩ := h.waterLevel s hs
      rw [waterLevelFinding, waterLevelFinding, hs, Option.mem_def.mp hs']
      exact Finding.points_ofWaterLevel_le hpercentage hrising
  have hweather : e.weatherFinding.points.toNat ≤ e'.weatherFinding.points.toNat := by
    cases hs : e.weather with
    | none => simp [weatherFinding, hs, Finding.nothing]
    | some s =>
      obtain ⟨s', hs', hprecipitation⟩ := h.weather s hs
      rw [weatherFinding, weatherFinding, hs, Option.mem_def.mp hs']
      exact Finding.points_ofWeather_le hprecipitation
  rw [UInt8.le_iff_toNat_le, toNat_score, toNat_score]
  omega

/-- What does not count does not change the score. -/
theorem score_congr {e e' : Evidence α} (h : e.scored = e'.scored) : e.score = e'.score :=
  UInt8.le_antisymm (noWorse_of_scored_eq h).score_le (noWorse_of_scored_eq h.symm).score_le

end Evidence

/-- The score of a site is the sum of the points of its feeds, added up without overflow, and a hundred at most. A feed
brings what it brings alone, and nothing if it has not reported. The score depends on nothing but the part of the
evidence that counts, and does not fall where none of that gets better. -/
theorem score_adds_up (e : Evidence Float) (t : Thresholds) :
    (judge e t).score = e.addends.foldl (· + ·) 0 ∧
    (∀ k, ((e.addends.take k).foldl (· + ·) 0).toNat = ((e.addends.take k).map UInt8.toNat).sum) ∧
    (judge e t).score.toNat ≤ 100 ∧
    (∀ t₁ t₂ t₃, (judge e t).score.toNat =
      (judge ({ blockage := e.blockage } : Evidence Float) t₁).score.toNat +
      (judge ({ waterLevel := e.waterLevel } : Evidence Float) t₂).score.toNat +
      (judge ({ weather := e.weather } : Evidence Float) t₃).score.toNat) ∧
    (judge ({} : Evidence Float) t).score = 0 ∧
    (∀ e' t', e.scored = e'.scored → (judge e t).score = (judge e' t').score) ∧
    ∀ e' t', e.NoWorse e' → (judge e t).score ≤ (judge e' t').score := by
  refine ⟨e.score_eq_foldl, e.toNat_foldl_take, e.toNat_score_le, ?_, rfl, ?_, ?_⟩
  · intro t₁ t₂ t₃
    exact e.toNat_score_eq_alone
  · intro e' t' hscored
    exact Evidence.score_congr hscored
  · intro e' t' hworse
    exact hworse.score_le

/-- The water is high, and nothing else is known. -/
def highTide : Evidence Float where
  waterLevel := some ⟨179.8, 0.3, 89.9, .stable, .year2000⟩

/-- The water is a little higher and rises, the waterway is partly blocked, and the rain gauge reports no number. -/
def risingTide : Evidence Float where
  blockage := some ⟨.partly, .year2000⟩
  waterLevel := some ⟨180, -0.2, 90, .rising, .year2000⟩
  weather := some ⟨0 / 0, "Unknown", .year2000⟩

/-- All of this is worse or new, and the score is higher, whatever the thresholds. -/
theorem score_adds_up_risingTide :
    highTide.NoWorse risingTide ∧ (judge highTide ⟨45, 75, 76⟩).score ≤ (judge risingTide ⟨0, 0, 0⟩).score ∧
    (judge risingTide ⟨0, 0, 0⟩).score = 90 := by
  have hworse : highTide.NoWorse risingTide := by
    constructor
    · rintro s ⟨⟩
    · rintro s ⟨⟩
      exact ⟨_, rfl, .inr (by decide), fun h => nomatch h⟩
    · rintro s ⟨⟩
  obtain ⟨-, -, -, -, -, -, hscore⟩ := score_adds_up highTide ⟨45, 75, 76⟩
  exact ⟨hworse, hscore risingTide ⟨0, 0, 0⟩ hworse, by decide⟩

end Waterway
