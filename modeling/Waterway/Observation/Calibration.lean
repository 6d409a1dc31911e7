import Waterway.Decimal.Quantity
import Waterway.Error
import Waterway.Json.Reader
import Waterway.Observation.Basic

/-!
# Water levels from distances

A sensor hangs above the water and measures the distance down to it. Its calibration turns a distance
into a level, the level into a percentage of the critical one, and two levels into a trend.

## Main definitions

- `Calibration` — the height of a sensor and its two levels of alarm
- `rateOfChange`, `trendOf` — the movement between two levels
- `WaterLevel.derive` — the status for a level and the one before it
- `Calibration.ofSetting` — the calibration out of the JSON value stored with a device
-/

namespace Waterway

open Decimal

/-- The calibration of a sensor, in centimetres. -/
structure Calibration (α : Type) where
  /-- The distance from the sensor to the bed. -/
  height : α
  warningLevel : α
  criticalLevel : α
deriving Repr

/-- How high the water stands by a sensor's own two levels. -/
inductive LevelAlert where
  | normal
  | warning
  | critical
deriving Repr, DecidableEq

def LevelAlert.name : LevelAlert → String
  | .normal => "normal"
  | .warning => "warning"
  | .critical => "critical"

/-- The place of a level alert in the order from good to bad. -/
def LevelAlert.rank : LevelAlert → Nat
  | .normal => 0
  | .warning => 1
  | .critical => 2

variable {α : Type} [Quantity α]

namespace Calibration

/-- The water level for a distance from the sensor to the surface. -/
def levelAt (c : Calibration α) (distance : α) : α :=
  c.height - distance

def alert (c : Calibration α) (level : α) : LevelAlert :=
  if c.criticalLevel ≤ level then .critical
  else if c.warningLevel ≤ level then .warning
  else .normal

/-- A water level as a percentage of the critical one, to one decimal place. -/
def criticalPercentage (c : Calibration α) (level : α) : α :=
  Quantity.roundTo (level / c.criticalLevel * 100.0) 1

end Calibration

/-- Centimetres gained since the previous level, to two decimal places; zero without one. -/
def rateOfChange (current : α) (previous : Option α) : α :=
  match previous with
  | some p => Quantity.roundTo (current - p) 2
  | none => 0.0

/-- A change of more than one centimetre either way is a movement. -/
def trendOf (rate : α) : Trend :=
  if (1.0 : α) < rate then .rising
  else if rate < -(1.0 : α) then .falling
  else .stable

/-- The status for a water level and the one before it. -/
def WaterLevel.derive (level : α) (previous : Option α) (c : Calibration α) (observedAt : Instant) :
    WaterLevel α :=
  let rate := rateOfChange level previous
  { level
    changeRate := rate
    criticalPercentage := c.criticalPercentage level
    trend := trendOf rate
    observedAt }

namespace Calibration

def toJson (c : Calibration Float) : Json :=
  .record [("critical_threshold", .ofFloat c.criticalLevel), ("installation_height", .ofFloat c.height),
    ("warning_threshold", .ofFloat c.warningLevel)]

open Json in
def read {δ : Type} [Document δ] (d : δ) : Except ReadError (Calibration Float) := do
  let fields ← readRecord "SensorConfig"
    [.of "installation_height" readDouble, .of "warning_threshold" readDouble,
     .of "critical_threshold" readDouble] d
  let height ← required fields "installation_height" readDouble
  let warningLevel ← required fields "warning_threshold" readDouble
  let criticalLevel ← required fields "critical_threshold" readDouble
  .ok { height, warningLevel, criticalLevel }

/-- Whether levels can be expressed as percentages of the critical one. -/
def Usable (c : Calibration α) : Prop :=
  ¬ c.criticalLevel ≤ (0.0 : α)

instance (c : Calibration α) : Decidable c.Usable :=
  inferInstanceAs (Decidable (¬ _))

/-- The calibration that the JSON value stored with a device holds. -/
def ofSetting (value : Json) : Except DomainError (Calibration Float) :=
  match read value with
  | .error e => .error (.configuration ("malformed sensor_config: " ++ e.message))
  | .ok c =>
    if c.Usable then .ok c
    else .error (.configuration "sensor_config.critical_threshold must be positive")

end Calibration

end Waterway
