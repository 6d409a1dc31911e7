import Waterway.Observation.Calibration
import Waterway.Observation.Json
import Waterway.Observation.WeatherCode

/-!
# Rows

The rows of the tables, their JSON form, and the statuses that stored readings amount to.

## Main definitions

- `LocationRow`, `SensorDevice`, `CameraDevice`, `SettingRow` — what is set up in advance
- `SensorReading`, `BlockageReading`, `WeatherReading` — what the feeds deliver
- `NewSensorReading`, `NewBlockageReading`, `NewWeatherReading` — readings before they are stored
- `SensorReading.status`, `BlockageReading.status`, `WeatherReading.status` — the statuses
-/

namespace Waterway

open Json

/-- A monitored site. -/
structure LocationRow where
  id : RowId
  name : String
  latitude : Option Float
  longitude : Option Float
  createdAt : Instant

def LocationRow.toJson (r : LocationRow) : Json :=
  .record [("created_at", r.createdAt.toJson), ("id", .integer r.id),
    ("latitude", .ofOption .ofFloat r.latitude), ("longitude", .ofOption .ofFloat r.longitude),
    ("name", .text r.name)]

/-- A site joined with its devices. -/
structure LocationDevicesRow where
  id : RowId
  name : String
  sensor : Option RowId
  camera : Option RowId

def LocationDevicesRow.toJson (r : LocationDevicesRow) : Json :=
  .record [("camera_device_id", .ofOption .integer r.camera), ("id", .integer r.id),
    ("name", .text r.name), ("sensor_device_id", .ofOption .integer r.sensor)]

/-- A sensor and its calibration as it is stored. -/
structure SensorDevice where
  id : RowId
  location : LocationId
  name : String
  calibration : Json
  lastSeen : Option Instant
  createdAt : Instant

namespace SensorDevice

def toJson (r : SensorDevice) : Json :=
  .record [("created_at", r.createdAt.toJson), ("device_name", .text r.name), ("id", .integer r.id),
    ("last_seen", .ofOption Instant.toJson r.lastSeen), ("location_id", .integer r.location),
    ("sensor_config", r.calibration)]

def config (r : SensorDevice) : Except DomainError (Calibration Float) :=
  Calibration.ofSetting r.calibration

end SensorDevice

structure CameraDevice where
  id : RowId
  location : LocationId
  name : String
  createdAt : Instant

def CameraDevice.toJson (r : CameraDevice) : Json :=
  .record [("created_at", r.createdAt.toJson), ("device_name", .text r.name), ("id", .integer r.id),
    ("location_id", .integer r.location)]

structure SettingRow where
  key : String
  value : Json

def SettingRow.toJson (r : SettingRow) : Json :=
  .record [("json_value", r.value), ("key", .text r.key)]

structure SensorReading where
  id : RowId
  device : RowId
  level : Float
  distance : Float
  timestamp : Instant
  createdAt : Instant

namespace SensorReading

def toJson (r : SensorReading) : Json :=
  .record [("created_at", r.createdAt.toJson), ("id", .integer r.id),
    ("raw_distance_cm", .ofFloat r.distance), ("sensor_device_id", .integer r.device),
    ("timestamp", r.timestamp.toJson), ("water_level_cm", .ofFloat r.level)]

/-- The status that a reading amounts to, given the one before it. -/
def status (r : SensorReading) (previous : Option SensorReading) (c : Calibration Float) :
    WaterLevel Float :=
  WaterLevel.derive r.level (previous.map (·.level)) c r.timestamp

end SensorReading

/-- A verdict of the blockage classifier as it is stored. -/
structure BlockageReading where
  id : RowId
  device : RowId
  imagePath : String
  level : String
  confidence : Float
  timestamp : Instant
  createdAt : Instant

namespace BlockageReading

def toJson (r : BlockageReading) : Json :=
  .record [("blockage_status", .text r.level), ("camera_device_id", .integer r.device),
    ("confidence", .ofFloat r.confidence), ("created_at", r.createdAt.toJson), ("id", .integer r.id),
    ("image_path", .text r.imagePath), ("timestamp", r.timestamp.toJson)]

/-- The status that a verdict amounts to. -/
def status (r : BlockageReading) : Except DomainError Blockage := do
  let level ← BlockageLevel.ofName r.level
  return { level, observedAt := r.timestamp }

end BlockageReading

/-- An observation of the weather as it is stored. -/
structure WeatherReading where
  id : RowId
  location : LocationId
  precipitation : Float
  code : Int
  createdAt : Instant

namespace WeatherReading

def toJson (r : WeatherReading) : Json :=
  .record [("created_at", r.createdAt.toJson), ("id", .integer r.id), ("location_id", .integer r.location),
    ("precipitation_mm", .ofFloat r.precipitation), ("weather_code", .integer r.code)]

/-- The status that an observation amounts to; it counts from the time of its storage. -/
def status (r : WeatherReading) : Weather Float :=
  Weather.ofObservation r.precipitation r.code r.createdAt

end WeatherReading

/-- A sensor reading before it is stored. -/
structure NewSensorReading where
  device : RowId
  level : Float
  distance : Float
  timestamp : Instant

/-- A verdict before it is stored. -/
structure NewBlockageReading where
  device : RowId
  imagePath : String
  level : BlockageLevel
  confidence : Float
  timestamp : Instant

/-- An observation of the weather before it is stored. -/
structure NewWeatherReading where
  location : LocationId
  precipitation : Float
  code : Int

variable {δ : Type} [Document δ]

def NewSensorReading.read (d : δ) : Except ReadError NewSensorReading := do
  let fields ← readRecord "CreateSensorReading"
    [.of "sensor_device_id" readInt64, .of "water_level_cm" readDouble,
     .of "raw_distance_cm" readDouble, .of "timestamp" readInstant] d
  let device ← required fields "sensor_device_id" readInt64
  let level ← required fields "water_level_cm" readDouble
  let distance ← required fields "raw_distance_cm" readDouble
  let timestamp ← required fields "timestamp" readInstant
  .ok { device, level, distance, timestamp }

def NewBlockageReading.read (d : δ) : Except ReadError NewBlockageReading := do
  let fields ← readRecord "CreateModelReading"
    [.of "camera_device_id" readInt64, .of "image_path" readText,
     .of "blockage_status" BlockageLevel.read, .of "confidence" readDouble,
     .of "timestamp" readInstant] d
  let device ← required fields "camera_device_id" readInt64
  let imagePath ← required fields "image_path" readText
  let level ← required fields "blockage_status" BlockageLevel.read
  let confidence ← required fields "confidence" readDouble
  let timestamp ← required fields "timestamp" readInstant
  .ok { device, imagePath, level, confidence, timestamp }

def NewWeatherReading.read (d : δ) : Except ReadError NewWeatherReading := do
  let fields ← readRecord "CreateWeatherReading"
    [.of "location_id" readInt64, .of "precipitation_mm" readDouble, .of "weather_code" readInt32] d
  let location ← required fields "location_id" readInt64
  let precipitation ← required fields "precipitation_mm" readDouble
  let code ← required fields "weather_code" readInt32
  .ok { location, precipitation, code }

end Waterway
