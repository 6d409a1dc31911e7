import Waterway.Alert.Thresholds
import Waterway.Decimal.Quantity
import Waterway.Observation.Basic

/-!
# Judging a site

The score of a site is the sum of the points of its feeds; the thresholds give it a tier. The
conditions say in words what brought the points, in a fixed order.

## Main definitions

- `Condition` — what can be said about a site
- `Judgement` — tier, score and conditions
- `Evidence` — the latest status of each feed, as far as there is one
- `judge` — the judgement of the evidence

## Design notes

A missing feed brings no points and no conditions. The points of the three feeds add up to a hundred
at most: 30 for a blocked waterway, 45 and 5 for high and rising water, 20 for rain. The branches on
measured quantities are ordered so that a value that is no number takes the last one.
-/

namespace Waterway

open Decimal

/-- What can be said about a site. -/
inductive Condition where
  | blocked
  | partlyBlocked
  | nearingCritical
  | atCritical
  | aboveCritical
  | risingQuickly
  | rising
  | lightRain
  | heavyRain
  | multipleCritical
  | routineMonitoring
  | systemsNormal
  | drainageClear
  | levelsSafe
deriving Repr, DecidableEq

def Condition.message : Condition → String
  | .blocked => "Waterway is BLOCKED - Immediate action required."
  | .partlyBlocked => "Partial blockage detected in waterway."
  | .nearingCritical => "Water level nearing critical threshold."
  | .atCritical => "Water level at CRITICAL threshold!"
  | .aboveCritical => "Water level above CRITICAL threshold!"
  | .risingQuickly => "Water level rising quickly."
  | .rising => "Water level rising."
  | .lightRain => "Light to moderate rainfall detected."
  | .heavyRain => "Heavy rainfall detected."
  | .multipleCritical => "MULTIPLE CRITICAL FACTORS"
  | .routineMonitoring => "Conditions normal - Continue routine monitoring"
  | .systemsNormal => "All systems operating within normal parameters"
  | .drainageClear => "Drainage system clear and functioning"
  | .levelsSafe => "Water levels within safe range"

/-- What is said of a site in the normal tier with nothing to report. -/
def reassurance : List Condition :=
  [.systemsNormal, .drainageClear, .levelsSafe]

structure Judgement where
  tier : Tier
  /-- The score, from 0 to 100. -/
  score : UInt8
  conditions : List String
deriving Repr, DecidableEq

/-- A site that has not been judged. -/
def Judgement.unjudged : Judgement :=
  ⟨.normal, 0, []⟩

/-- The latest status of each feed, as far as there is one. -/
structure Evidence (α : Type) where
  blockage : Option Blockage := none
  waterLevel : Option (WaterLevel α) := none
  weather : Option (Weather α) := none
deriving Repr

/-- Points, and the conditions that go with them. -/
structure Finding where
  points : UInt8
  conditions : List Condition
deriving Repr, DecidableEq

namespace Finding

def nothing : Finding :=
  ⟨0, []⟩

def ofBlockage (s : Blockage) : Finding :=
  match s.level with
  | .blocked => ⟨30, [.blocked]⟩
  | .partly => ⟨20, [.partlyBlocked]⟩
  | .clear => nothing

variable {α : Type} [Quantity α]

/-- What a level brings, given as a percentage of the critical one. -/
def ofPercentage (p : α) : Finding :=
  if p < (50.0 : α) then ⟨10, []⟩
  else if p < (75.0 : α) then ⟨20, []⟩
  else if p < (90.0 : α) then ⟨30, []⟩
  else if p < (100.0 : α) then ⟨45, [.nearingCritical]⟩
  else if p == (100.0 : α) then ⟨45, [.atCritical]⟩
  else ⟨45, [.aboveCritical]⟩

/-- What is said of the speed at which the water rises; it brings no points. -/
def speedConditions (rate : α) : List Condition :=
  if (2.0 : α) ≤ rate then [.risingQuickly]
  else if (1.5 : α) ≤ rate then [.rising]
  else []

def ofWaterLevel (s : WaterLevel α) : Finding :=
  let band := ofPercentage s.criticalPercentage
  { points := band.points + (if s.trend = .rising then 5 else 0)
    conditions := band.conditions ++ speedConditions s.changeRate }

def ofWeather (s : Weather α) : Finding :=
  let mm := s.precipitation
  if mm < (1.0 : α) then ⟨0, []⟩
  else if mm < (2.55 : α) then ⟨8, [.lightRain]⟩
  else if mm < (7.5 : α) then ⟨15, []⟩
  else ⟨20, [.heavyRain]⟩

end Finding

namespace Evidence

variable {α : Type} [Quantity α]

/-- What the blockage feed brings, if it has reported. -/
def blockageFinding (e : Evidence α) : Finding :=
  (e.blockage.map .ofBlockage).getD .nothing

def waterLevelFinding (e : Evidence α) : Finding :=
  (e.waterLevel.map .ofWaterLevel).getD .nothing

def weatherFinding (e : Evidence α) : Finding :=
  (e.weather.map .ofWeather).getD .nothing

/-- Whether the waterway is blocked while the water is high and the rain heavy. -/
def isCriticalCombination (e : Evidence α) : Bool :=
  (e.blockage.any fun s => s.level == .blocked) &&
  (e.waterLevel.any fun s => decide ((90.0 : α) ≤ s.criticalPercentage)) &&
  (e.weather.any fun s => decide ((7.5 : α) ≤ s.precipitation))

def score (e : Evidence α) : UInt8 :=
  e.blockageFinding.points + e.waterLevelFinding.points + e.weatherFinding.points

/-- What the feeds give reason to say. -/
def conditions (e : Evidence α) : List Condition :=
  e.blockageFinding.conditions ++ e.waterLevelFinding.conditions ++ e.weatherFinding.conditions ++
    if e.isCriticalCombination then [.multipleCritical] else []

end Evidence

/-- What is said in a tier: the normal tier has a sentence of its own in front, or reassurance where
there is nothing to report. -/
def conditionsShown (tier : Tier) (found : List Condition) : List Condition :=
  match tier, found with
  | .normal, [] => reassurance
  | .normal, found => .routineMonitoring :: found
  | _, found => found

def judge {α : Type} [Quantity α] (e : Evidence α) (t : Thresholds) : Judgement :=
  let tier := t.classify e.score
  { tier
    score := e.score
    conditions := (conditionsShown tier e.conditions).map Condition.message }

end Waterway
