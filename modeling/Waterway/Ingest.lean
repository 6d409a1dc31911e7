import Waterway.Database.Sources

/-!
# Taking readings in

What happens to a reading that a device reports: it is checked, stored, turned into a status, announced
to the subscribers of its location, and handed to the location's worker.

## Main definitions

- `SensorReport`, `BlockageReport`, `WeatherReport` — what devices report, with their checks
- `ServiceError` — why a request is not fulfilled
- `Backend` — the world around the engine, with its database
- `Surroundings.withoutDatabase` — the world when there is no database
- `ingestSensor`, `ingestBlockage`, `ingestWeather` — taking a report in
- `dispatch` — the two steps after storage

## Design notes

A reading is announced before it is handed to the worker, so that subscribers see it before any
judgement that rests on it. By then it is stored, so a refusal of the registry is no failure of the
request.
-/

namespace Waterway

/-- What a sensor reports. -/
structure SensorReport where
  distance : Float
  /-- When it was measured; on receipt, if absent. -/
  timestamp : Option Instant

/-- What the blockage classifier reports. -/
structure BlockageReport where
  level : BlockageLevel
  confidence : Float
  imagePath : String
  timestamp : Option Instant

/-- What the weather feed reports. -/
structure WeatherReport where
  precipitation : Float
  code : Int

/-- Whether a quantity is a number and not negative. -/
def isAmount (x : Float) : Bool :=
  x.isFinite && !(x < 0.0)

def SensorReport.validate (r : SensorReport) : Except DomainError Unit :=
  if isAmount r.distance then .ok ()
  else .error (.validation "raw_distance_cm must be a non-negative number")

def BlockageReport.validate (r : BlockageReport) : Except DomainError Unit :=
  if !(0.0 ≤ r.confidence && r.confidence ≤ 1.0) then
    .error (.validation "confidence must be between 0 and 1")
  else if (Text.trimBlank r.imagePath).isEmpty then .error (.validation "image_path is required")
  else .ok ()

def WeatherReport.validate (r : WeatherReport) : Except DomainError Unit :=
  if isAmount r.precipitation then .ok ()
  else .error (.validation "precipitation_mm must be a non-negative number")

/-- Why a request is not fulfilled. -/
inductive ServiceError where
  | domain (error : DomainError)
  | engine (error : EngineError)
  | database (error : DatabaseError)
  | badRequest (reason : String)
  | internal (reason : String)
deriving Repr, DecidableEq

/-- The world around the engine, with its database. -/
structure Backend (σ : Type) extends Surroundings σ where
  /-- Runs statements. -/
  query : {α : Type} → Query α → StateM σ (Except DatabaseError α)

/-- The world whose state is the database alone. -/
def DatabaseSource.backend : Backend Database where
  toSurroundings := surroundings
  query q := q.run

/-- A world without a database: every statement fails in the same way. -/
def Surroundings.withoutDatabase {σ : Type} (world : Surroundings σ) (outage : DatabaseError) :
    Backend σ where
  toSurroundings := world
  query q := pure (q.run { now := .year2000, outage := some outage }).1

/-- A request at work: it changes the engine and ends with a result or an error. -/
abbrev Intake (σ α : Type) := ExceptT ServiceError (StateM (Engine σ)) α

namespace Intake

variable {σ α : Type}

def ofDomain (result : Except DomainError α) : Intake σ α :=
  ExceptT.mk (pure (result.mapError .domain))

def query (b : Backend σ) (q : Query α) : Intake σ α :=
  ExceptT.mk do return (← Engine.consult (b.query q)).mapError .database

/-- What statements have found; it is an error if they have found nothing. -/
def found (entity : String) (location : LocationId) : Option α → Intake σ α
  | some a => pure a
  | none => throw (.domain (.notFound entity location))

end Intake

variable {σ : Type}

/-- How long a broadcast waits for a subscriber. -/
def Engine.sendTimeout (e : Engine σ) : Nat :=
  e.publishTimeout.getD 2000

/-- Announces an observation to the subscribers of its location, then hands it to the worker. -/
def dispatch (b : Backend σ) (location : LocationId) (o : Observation Float) :
    StateM (Engine σ) Unit := do
  let _ ← Engine.announce b.toSurroundings location (Envelope.ofObservation o).text (← get).sendTimeout
  let _ ← Engine.update b.toSurroundings location o

/-- What a sensor is answered. -/
structure SensorReceipt where
  reading : SensorReading
  status : WaterLevel Float
  alert : LevelAlert

/-- What the classifier is answered. -/
structure BlockageReceipt where
  reading : BlockageReading
  status : Blockage

/-- What the weather feed is answered. -/
structure WeatherReceipt where
  reading : WeatherReading
  status : Weather Float
  description : String

/-- Takes in what a sensor reports at the instant `now`. -/
def ingestSensor (b : Backend σ) (now : Instant) (location : LocationId) (r : SensorReport) :
    Intake σ SensorReceipt := do
  Intake.ofDomain r.validate
  let device ← Intake.found "SensorDevice for location" location
    (← Intake.query b (Query.locationSensor location))
  let config ← Intake.ofDomain device.config
  let reading ← Intake.query b <| Query.insertSensorReading
    { device := device.id, level := config.levelAt r.distance, distance := r.distance
      timestamp := r.timestamp.getD now }
  Intake.query b (Query.touch device.id)
  let previous ← Intake.query b (Query.previousSensorReading device.id reading.timestamp)
  let status := reading.status previous config
  dispatch b location (.waterLevel status)
  return { reading, status, alert := config.alert reading.level }

def ingestBlockage (b : Backend σ) (now : Instant) (location : LocationId) (r : BlockageReport) :
    Intake σ BlockageReceipt := do
  Intake.ofDomain r.validate
  let camera ← Intake.found "CameraDevice for location" location
    (← Intake.query b (Query.locationCamera location))
  let reading ← Intake.query b <| Query.insertBlockageReading
    { device := camera.id, imagePath := r.imagePath, level := r.level, confidence := r.confidence
      timestamp := r.timestamp.getD now }
  let status ← Intake.ofDomain reading.status
  dispatch b location (.blockage status)
  return { reading, status }

def ingestWeather (b : Backend σ) (location : LocationId) (r : WeatherReport) :
    Intake σ WeatherReceipt := do
  Intake.ofDomain r.validate
  let _ ← Intake.found "Location" location (← Intake.query b (Query.location location))
  let reading ← Intake.query b <| Query.insertWeather
    { location, precipitation := r.precipitation, code := r.code }
  let status := reading.status
  dispatch b location (.weather status)
  return { reading, status, description := describePrecipitation reading.precipitation }

end Waterway
