import Waterway.Error
import Waterway.Instant.Basic

/-!
# Observations

What the three feeds of a site report: the verdict of the blockage classifier, the water level, and
the weather.

## Main definitions

- `Blockage`, `WaterLevel`, `Weather` — one status of each feed
- `Source` — the three feeds
- `Observation` — a status of any feed

## Design notes

Statuses with measured quantities are written for any type of number `α`; the program takes `Float`.
-/

namespace Waterway

/-- The verdict of the blockage classifier. -/
inductive BlockageLevel where
  | clear
  | partly
  | blocked
deriving Repr, DecidableEq, Inhabited

/-- The movement of the water between two readings. -/
inductive Trend where
  | rising
  | falling
  | stable
deriving Repr, DecidableEq, Inhabited

/-- The three feeds. -/
inductive Source where
  | waterLevel
  | blockage
  | weather
deriving Repr, DecidableEq, Inhabited

namespace BlockageLevel

def name : BlockageLevel → String
  | .clear => "clear"
  | .partly => "partial"
  | .blocked => "blocked"

/-- All levels, from good to bad. -/
def all : List BlockageLevel :=
  [.clear, .partly, .blocked]

def ofName (s : String) : Except DomainError BlockageLevel :=
  match all.find? (·.name == s) with
  | some level => .ok level
  | none => .error (.validation
      ("unknown blockage status '" ++ s ++ "', expected clear, partial or blocked"))

end BlockageLevel

namespace Trend

def name : Trend → String
  | .rising => "rising"
  | .falling => "falling"
  | .stable => "stable"

def all : List Trend :=
  [.rising, .falling, .stable]

def ofName (s : String) : Except DomainError Trend :=
  match all.find? (·.name == s) with
  | some trend => .ok trend
  | none => .error (.validation ("unknown trend '" ++ s ++ "'"))

end Trend

namespace Source

def name : Source → String
  | .waterLevel => "water_level"
  | .blockage => "blockage"
  | .weather => "weather"

/-- All feeds, in the order in which they are asked. -/
def all : List Source :=
  [.waterLevel, .blockage, .weather]

end Source

/-- A status of the blockage feed. -/
structure Blockage where
  level : BlockageLevel
  observedAt : Instant
deriving DecidableEq, Repr

/-- A status of the water-level feed. -/
structure WaterLevel (α : Type) where
  /-- The level in centimetres above the bed. -/
  level : α
  /-- Centimetres gained since the previous reading. -/
  changeRate : α
  /-- The level as a percentage of the critical one. -/
  criticalPercentage : α
  trend : Trend
  observedAt : Instant
deriving Repr

/-- A status of the weather feed. -/
structure Weather (α : Type) where
  /-- Precipitation in millimetres. -/
  precipitation : α
  /-- A label such as `Rain`. -/
  condition : String
  observedAt : Instant
deriving Repr

/-- A status of any feed. -/
inductive Observation (α : Type) where
  | blockage (status : Blockage)
  | waterLevel (status : WaterLevel α)
  | weather (status : Weather α)
deriving Repr

namespace Observation

variable {α : Type}

def source : Observation α → Source
  | .blockage _ => .blockage
  | .waterLevel _ => .waterLevel
  | .weather _ => .weather

def observedAt : Observation α → Instant
  | .blockage s => s.observedAt
  | .waterLevel s => s.observedAt
  | .weather s => s.observedAt

end Observation

end Waterway
