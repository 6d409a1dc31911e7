import Waterway.Alert.Judgement

/-!
# The state of a site

The latest status of each feed, the last judgement, and the last complete analysis.

## Main definitions

- `Analysis` — a judgement with the three statuses it was made from
- `Site` — the state
- `Site.apply`, `Site.recompute` — the two ways in which it changes

## Design notes

An observation replaces what its feed reported before, whatever its own time of observation. The
judgement changes by `recompute` alone; the analysis is replaced only when all three feeds have
reported, and never taken back.
-/

namespace Waterway

open Decimal

/-- A judgement with the three statuses it was made from. -/
structure Analysis (α : Type) where
  judgement : Judgement
  blockage : Blockage
  waterLevel : WaterLevel α
  weather : Weather α
deriving Repr

structure Site (α : Type) where
  evidence : Evidence α := {}
  judgement : Judgement := .unjudged
  analysis : Option (Analysis α) := none
deriving Repr

namespace Evidence

variable {α : Type}

/-- Whether all three feeds have reported. -/
def isComplete (e : Evidence α) : Bool :=
  e.blockage.isSome && e.waterLevel.isSome && e.weather.isSome

/-- Replaces what one feed reported. -/
def put (e : Evidence α) : Observation α → Evidence α
  | .blockage s => { e with blockage := some s }
  | .waterLevel s => { e with waterLevel := some s }
  | .weather s => { e with weather := some s }

/-- The latest observation of a feed. -/
def latest (e : Evidence α) : Source → Option (Observation α)
  | .blockage => e.blockage.map .blockage
  | .waterLevel => e.waterLevel.map .waterLevel
  | .weather => e.weather.map .weather

/-- The analysis of complete evidence with a judgement of it. -/
def analysis? (e : Evidence α) (judgement : Judgement) : Option (Analysis α) := do
  let blockage ← e.blockage
  let waterLevel ← e.waterLevel
  let weather ← e.weather
  some { judgement, blockage, waterLevel, weather }

end Evidence

namespace Site

variable {α : Type}

def empty : Site α :=
  {}

def apply (s : Site α) (o : Observation α) : Site α :=
  { s with evidence := s.evidence.put o }

/-- Judges the evidence. The analysis is renewed if the evidence is complete. -/
def recompute [Quantity α] (s : Site α) (t : Thresholds) : Site α :=
  let judgement := judge s.evidence t
  { s with
    judgement
    analysis := (s.evidence.analysis? judgement).or s.analysis }

end Site

end Waterway
