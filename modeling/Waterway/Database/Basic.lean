import Waterway.Database.Row

/-!
# The database

Tables as lists of rows, the statements that the program runs on them, and the ways in which a
statement fails.

## Main definitions

- `Statement` — the statements of the program
- `DatabaseError` — how a statement fails
- `Database` — the tables, the clock of the database, and the failures laid down for statements
- `Query` — a computation that runs statements
- `Query.insertSensorReading`, `Query.latestSensorReading`, … — the statements

## Design notes

There are no transactions: what a statement has changed stays, whatever fails after it. The latest row
is the one greatest by time and then by key. Instants are kept to the microsecond. Every change is
noted in the order in which it is made.
-/

namespace Waterway

inductive Statement where
  | health
  | location
  | listLocations
  | sensor
  | locationSensor
  | touch
  | locationCamera
  | insertSensorReading
  | latestSensorReading
  | previousSensorReading
  | insertBlockageReading
  | latestBlockageReading
  | insertWeather
  | latestWeather
  | setting
deriving Repr, DecidableEq

inductive DatabaseError where
  | rowNotFound
  | poolTimedOut
  | poolClosed
  | io
  | protocol
  | columnNotFound
  | workerCrashed
  /-- An error that the database reports, with its code and the constraint that was violated. -/
  | reported (code constraint : Option String)
deriving Repr, DecidableEq

/-- A change of a table. -/
inductive Change where
  | sensorReading (row : SensorReading)
  | blockageReading (row : BlockageReading)
  | weatherReading (row : WeatherReading)
  | touched (sensor : RowId)

/-- The tables and their surroundings. -/
structure Database where
  locations : List LocationRow := []
  sensors : List SensorDevice := []
  cameras : List CameraDevice := []
  sensorReadings : List SensorReading := []
  blockageReadings : List BlockageReading := []
  weatherReadings : List WeatherReading := []
  settings : List SettingRow := []
  /-- What the database takes for the present. -/
  now : Instant
  /-- Statements that fail. -/
  failures : List (Statement × DatabaseError) := []
  /-- The failure of all statements, when there is no database. -/
  outage : Option DatabaseError := none
  /-- The changes made so far. -/
  changes : List Change := []

/-- A computation that runs statements; a failure leaves standing what was done before it. -/
abbrev Query (α : Type) := ExceptT DatabaseError (StateM Database) α

/-- Of two rows, the one greater by time and then by key. -/
def laterOf {α : Type} (time : α → Instant) (key : α → RowId) (a b : α) : α :=
  match (time a).compare (time b) with
  | .lt => b
  | .gt => a
  | .eq => if key a < key b then b else a

/-- The row greatest by time and then by key. -/
def latestOf {α : Type} (time : α → Instant) (key : α → RowId) : List α → Option α
  | [] => none
  | r :: rest => some (rest.foldl (laterOf time key) r)

/-- The key of a row that is added to others. -/
def nextKey (keys : List RowId) : RowId :=
  match keys.max? with
  | some k => k + 1
  | none => 1

namespace Query

/-- Runs a statement, unless it is to fail. -/
def statement {α : Type} (s : Statement) (run : Database → α × Database) : Query α := do
  let db ← getThe Database
  match db.outage.or (db.failures.lookup s) with
  | some error => throw error
  | none =>
    let (a, db) := run db
    set db
    return a

/-- Runs a statement that changes nothing. -/
def select {α : Type} (s : Statement) (read : Database → α) : Query α :=
  statement s fun db => (read db, db)

def health : Query Unit :=
  select .health fun _ => ()

def location (id : LocationId) : Query (Option LocationRow) :=
  select .location fun db => db.locations.find? (·.id == id)

def sensor (id : RowId) : Query (Option SensorDevice) :=
  select .sensor fun db => db.sensors.find? (·.id == id)

def locationSensor (location : LocationId) : Query (Option SensorDevice) :=
  select .locationSensor fun db => db.sensors.find? (·.location == location)

def locationCamera (location : LocationId) : Query (Option CameraDevice) :=
  select .locationCamera fun db => db.cameras.find? (·.location == location)

/-- The keys of the rows that belong to a site, or none if there are no such rows. -/
def joined {α : Type} (location : LocationId) (owner : α → LocationId) (key : α → RowId)
    (rows : List α) : List (Option RowId) :=
  match rows.filter (owner · == location) with
  | [] => [none]
  | rows => rows.map fun r => some (key r)

/-- All sites with their devices, in the order of their keys. -/
def listLocations : Query (List LocationDevicesRow) :=
  select .listLocations fun db =>
    (db.locations.mergeSort fun a b => decide (a.id ≤ b.id)).flatMap fun l =>
      (joined l.id (·.location) (·.id) db.sensors).flatMap fun sensor =>
        (joined l.id (·.location) (·.id) db.cameras).map fun camera =>
          { id := l.id, name := l.name, sensor, camera }

def insertSensorReading (r : NewSensorReading) : Query SensorReading :=
  statement .insertSensorReading fun db =>
    let row : SensorReading :=
      { id := nextKey (db.sensorReadings.map (·.id)), device := r.device, level := r.level
        distance := r.distance, timestamp := r.timestamp.toMicroseconds
        createdAt := db.now.toMicroseconds }
    (row, { db with
      sensorReadings := db.sensorReadings ++ [row], changes := db.changes ++ [.sensorReading row] })

/-- Notes that a sensor has been heard of. -/
def touch (id : RowId) : Query Unit :=
  statement .touch fun db =>
    ((), { db with
      sensors := db.sensors.map fun s =>
        if s.id = id then { s with lastSeen := some db.now.toMicroseconds } else s
      changes := db.changes ++ [.touched id] })

def latestSensorReading (device : RowId) : Query (Option SensorReading) :=
  select .latestSensorReading fun db =>
    latestOf (·.timestamp) (·.id) (db.sensorReadings.filter (·.device == device))

/-- The latest reading of a sensor before an instant. -/
def previousSensorReading (device : RowId) (before : Instant) : Query (Option SensorReading) :=
  select .previousSensorReading fun db =>
    latestOf (·.timestamp) (·.id)
      (db.sensorReadings.filter fun r => r.device == device && r.timestamp.before before.toMicroseconds)

def insertBlockageReading (r : NewBlockageReading) : Query BlockageReading :=
  statement .insertBlockageReading fun db =>
    let row : BlockageReading :=
      { id := nextKey (db.blockageReadings.map (·.id)), device := r.device, imagePath := r.imagePath
        level := r.level.name, confidence := r.confidence, timestamp := r.timestamp.toMicroseconds
        createdAt := db.now.toMicroseconds }
    (row, { db with
      blockageReadings := db.blockageReadings ++ [row]
      changes := db.changes ++ [.blockageReading row] })

def latestBlockageReading (device : RowId) : Query (Option BlockageReading) :=
  select .latestBlockageReading fun db =>
    latestOf (·.timestamp) (·.id) (db.blockageReadings.filter (·.device == device))

def insertWeather (r : NewWeatherReading) : Query WeatherReading :=
  statement .insertWeather fun db =>
    let row : WeatherReading :=
      { id := nextKey (db.weatherReadings.map (·.id)), location := r.location
        precipitation := r.precipitation, code := r.code, createdAt := db.now.toMicroseconds }
    (row, { db with
      weatherReadings := db.weatherReadings ++ [row], changes := db.changes ++ [.weatherReading row] })

def latestWeather (location : LocationId) : Query (Option WeatherReading) :=
  select .latestWeather fun db =>
    latestOf (·.createdAt) (·.id) (db.weatherReadings.filter (·.location == location))

def setting (key : String) : Query (Option Json) :=
  select .setting fun db => (db.settings.find? (·.key == key)).map (·.value)

end Query

end Waterway
