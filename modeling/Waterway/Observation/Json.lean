import Waterway.Instant.Text
import Waterway.Json.Reader
import Waterway.Observation.Basic

/-!
# The JSON form of observations

## Main definitions

- `Blockage.toJson`, `WaterLevel.toJson`, `Weather.toJson`, `Observation.toJson` — the written form
- `Blockage.read`, `WaterLevel.read`, `Weather.read` — the readers
-/

namespace Waterway

open Json

variable {δ : Type} [Document δ]

def Instant.toJson (t : Instant) : Json :=
  .text t.text

def readInstant (d : δ) : Except ReadError Instant :=
  match Document.layer d with
  | .text s =>
    match Instant.parse? s with
    | some t => .ok t
    | none => .error .notAnInstant
  | l => .error (l.mismatch "an RFC 3339 formatted date and time string")

namespace BlockageLevel

def toJson (l : BlockageLevel) : Json :=
  .text l.name

def read (d : δ) : Except ReadError BlockageLevel :=
  readVariant (all.map fun l => (l.name, l)) d

end BlockageLevel

namespace Trend

def toJson (t : Trend) : Json :=
  .text t.name

def read (d : δ) : Except ReadError Trend :=
  readVariant (all.map fun t => (t.name, t)) d

end Trend

namespace Blockage

def toJson (s : Blockage) : Json :=
  .record [("observed_at", s.observedAt.toJson), ("status", s.level.toJson)]

def read (d : δ) : Except ReadError Blockage := do
  let fields ← readRecord "BlockageStatus"
    [.of "status" BlockageLevel.read, .of "observed_at" readInstant] d
  let level ← required fields "status" BlockageLevel.read
  let observedAt ← required fields "observed_at" readInstant
  .ok { level, observedAt }

end Blockage

namespace WaterLevel

def toJson (s : WaterLevel Float) : Json :=
  .record [("change_rate", .ofFloat s.changeRate),
    ("critical_percentage", .ofFloat s.criticalPercentage), ("observed_at", s.observedAt.toJson),
    ("trend", s.trend.toJson), ("water_level_cm", .ofFloat s.level)]

def read (d : δ) : Except ReadError (WaterLevel Float) := do
  let fields ← readRecord "WaterLevelStatus"
    [.of "water_level_cm" readDouble, .of "change_rate" readDouble,
     .of "critical_percentage" readDouble, .of "trend" Trend.read, .of "observed_at" readInstant] d
  let level ← required fields "water_level_cm" readDouble
  let changeRate ← required fields "change_rate" readDouble
  let criticalPercentage ← required fields "critical_percentage" readDouble
  let trend ← required fields "trend" Trend.read
  let observedAt ← required fields "observed_at" readInstant
  .ok { level, changeRate, criticalPercentage, trend, observedAt }

end WaterLevel

namespace Weather

def toJson (s : Weather Float) : Json :=
  .record [("condition", .text s.condition), ("observed_at", s.observedAt.toJson),
    ("precipitation_mm", .ofFloat s.precipitation)]

def read (d : δ) : Except ReadError (Weather Float) := do
  let fields ← readRecord "WeatherStatus"
    [.of "precipitation_mm" readDouble, .of "condition" readText, .of "observed_at" readInstant] d
  let precipitation ← required fields "precipitation_mm" readDouble
  let condition ← required fields "condition" readText
  let observedAt ← required fields "observed_at" readInstant
  .ok { precipitation, condition, observedAt }

end Weather

/-- The JSON form of the status that an observation carries. -/
def Observation.toJson : Observation Float → Json
  | .blockage s => s.toJson
  | .waterLevel s => s.toJson
  | .weather s => s.toJson

end Waterway
