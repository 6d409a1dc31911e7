import Waterway.Database.Basic
import Waterway.Registry.Engine

/-!
# The database as the engine's source

Thresholds, latest readings and known locations out of the tables.

## Main definitions

- `DatabaseError.message` — the wording of a failure
- `DatabaseSource.thresholds`, `DatabaseSource.store`, `DatabaseSource.directory` — what the engine asks
- `DatabaseSource.surroundings` — the three together
-/

namespace Waterway

/-- A computation on the database whose failures are those of the engine. -/
abbrev Sourced (α : Type) := ExceptT EngineError (StateM Database) α

def DatabaseError.message : DatabaseError → String
  | .rowNotFound => "no rows returned by a query that expected to return at least one row"
  | .poolTimedOut => "pool timed out while waiting for an open connection"
  | .poolClosed => "attempted to acquire a connection on a closed pool"
  | .io => "error communicating with database"
  | .protocol => "encountered unexpected or invalid data"
  | .columnNotFound => "no column found for name"
  | .workerCrashed => "attempted to communicate with a crashed background worker"
  | .reported _ _ => "error returned from database"

namespace DatabaseSource

/-- Runs statements; a failure counts as one of a collaborator. -/
def query {α : Type} (q : Query α) : Sourced α :=
  ExceptT.mk do
    match ← q.run with
    | .ok a => return .ok a
    | .error e => return .error (.collaborator ("database error: " ++ e.message))

/-- A result of the domain. -/
def ofDomain {α : Type} (result : Except DomainError α) : Sourced α :=
  ExceptT.mk (pure (result.mapError .ofDomain))

/-- The thresholds that the setting holds. -/
def thresholds : Sourced Thresholds := do
  match ← query (Query.setting Thresholds.settingKey) with
  | none => throw (.configuration (Thresholds.settingKey ++ " setting not found"))
  | some value => ofDomain (Thresholds.ofSetting value)

def latestBlockage (device : RowId) : Sourced (Option Blockage) := do
  match ← query (Query.latestBlockageReading device) with
  | none => return none
  | some reading => some <$> ofDomain reading.status

/-- The latest status of a sensor, derived by its calibration from its two latest readings. -/
def latestWaterLevel (device : RowId) : Sourced (Option (WaterLevel Float)) := do
  match ← query (Query.latestSensorReading device) with
  | none => return none
  | some reading =>
    match ← query (Query.sensor device) with
    | none => throw (.collaborator ("sensor device " ++ toString device ++ " not found"))
    | some sensor =>
      let config ← ofDomain sensor.config
      let previous ← query (Query.previousSensorReading device reading.timestamp)
      return some (reading.status previous config)

def latestWeather (location : LocationId) : Sourced (Option (Weather Float)) := do
  return (← query (Query.latestWeather location)).map WeatherReading.status

def store : ReadingStore (StateM Database) where
  waterLevel device := (latestWaterLevel device).run
  blockage device := (latestBlockage device).run
  weather location := (latestWeather location).run

def directory : Sourced (List Devices) := do
  return (← query Query.listLocations).map fun row =>
    { location := row.id, name := row.name, sensor := row.sensor, camera := row.camera }

/-- What the engine asks, answered by the tables. -/
def surroundings : Surroundings Database where
  thresholds _ := thresholds.run
  store := store
  directory := directory.run

end DatabaseSource

end Waterway
