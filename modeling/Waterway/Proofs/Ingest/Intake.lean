import Waterway.Ingest
import Waterway.Proofs.Database.Statements

/-!
# How requests go

The ways in which taking a report in can go. A request is refused before anything is stored, or its reading is
stored and dispatched. A sensor's request can also fail in between.

## Main definitions

- `Report`, `ingest` — what any of the three feeds reports, and taking it in
- `attempt` — a request that does so in the world of the database
- `SensorReport.Storable`, `BlockageReport.Storable`, `WeatherReport.Storable` — a request gets as far as
  storing its reading
- `SensorIntake`, `BlockageIntake`, `WeatherIntake` — the ways in which requests go

## Main statements

- `sensorIntake_ingestSensor`, `blockageIntake_ingestBlockage`, `weatherIntake_ingestWeather` — there are no
  other ways
-/

namespace Waterway

/-- What any of the three feeds reports. -/
inductive Report where
  | sensor (r : SensorReport)
  | blockage (r : BlockageReport)
  | weather (r : WeatherReport)

/-- Takes a report in at the instant `now`. -/
def ingest {σ : Type} (b : Backend σ) (now : Instant) (location : LocationId) : Report → Intake σ Unit
  | .sensor r => do
    let _ ← ingestSensor b now location r
  | .blockage r => do
    let _ ← ingestBlockage b now location r
  | .weather r => do
    let _ ← ingestWeather b location r

/-- A request that takes a report in, and what becomes of the engine. -/
def attempt (now : Instant) (location : LocationId) (report : Report) (e : Engine Database) :
    Except ServiceError Unit × Engine Database :=
  (ingest DatabaseSource.backend now location report).run.run e

section

variable (now : Instant) (location : LocationId) (e : Engine Database)

theorem snd_run_bind_unit {ε σ α : Type} (action : ExceptT ε (StateM σ) α) (s : σ) :
    ((action >>= fun _ => pure ()).run.run s).2 = (action.run.run s).2 := by
  rcases hrun : action.run.run s with ⟨error | a, after⟩
  · exact congrArg Prod.snd (run_bind_error hrun)
  · exact congrArg Prod.snd (run_bind_ok hrun)

theorem snd_attempt_sensor (r : SensorReport) : (attempt now location (.sensor r) e).2 =
    ((ingestSensor DatabaseSource.backend now location r).run.run e).2 :=
  snd_run_bind_unit _ e

theorem snd_attempt_blockage (r : BlockageReport) : (attempt now location (.blockage r) e).2 =
    ((ingestBlockage DatabaseSource.backend now location r).run.run e).2 :=
  snd_run_bind_unit _ e

theorem snd_attempt_weather (r : WeatherReport) : (attempt now location (.weather r) e).2 =
    ((ingestWeather DatabaseSource.backend location r).run.run e).2 :=
  snd_run_bind_unit _ e

end

namespace Intake

variable {σ α β : Type} {e after : Engine σ}

theorem run_ofDomain_ok {result : Except DomainError α} {a : α} (h : result = .ok a) (e : Engine σ) :
    (ofDomain result : Intake σ α).run.run e = (.ok a, e) := by
  rw [h]
  rfl

theorem run_ofDomain_error {result : Except DomainError α} {error : DomainError}
    (h : result = .error error) (e : Engine σ) :
    (ofDomain result : Intake σ α).run.run e = (.error (.domain error), e) := by
  rw [h]
  rfl

theorem run_found (entity : String) (location : LocationId) {o : Option α} {a : α} (h : o = some a)
    (e : Engine σ) : (found entity location o : Intake σ α).run.run e = (.ok a, e) := by
  rw [h]
  rfl

theorem run_found_none (entity : String) (location : LocationId) {o : Option α} (h : o = none)
    (e : Engine σ) :
    (found entity location o : Intake σ α).run.run e = (.error (.domain (.notFound entity location)), e) := by
  rw [h]
  rfl

variable {q : Query α} {e : Engine Database} {db : Database}

theorem run_query_ok {a : α} (h : q.run.run e.outside = (.ok a, db)) :
    (query DatabaseSource.backend q).run.run e = (.ok a, { e with outside := db }) := by
  have hrun : (query DatabaseSource.backend q).run.run e =
      ((q.run.run e.outside).1.mapError .database, { e with outside := (q.run.run e.outside).2 }) := rfl
  rw [hrun, h]
  rfl

theorem run_query_error {error : DatabaseError} (h : q.run.run e.outside = (.error error, db)) :
    (query DatabaseSource.backend q).run.run e =
      (.error (.database error), { e with outside := db }) := by
  have hrun : (query DatabaseSource.backend q).run.run e =
      ((q.run.run e.outside).1.mapError .database, { e with outside := (q.run.run e.outside).2 }) := rfl
  rw [hrun, h]
  rfl

/-- A request starts with a check of its report and a look for what it is about. It ends with an error there,
or goes on with the engine as it was. -/
theorem run_lookup {check : Except DomainError Unit} {s : Statement} {find : Database → Option α}
    {entity : String} {location : LocationId} {next : α → Intake Database β} (e : Engine Database) :
    let request : Intake Database β := do
      ofDomain check
      let a ← found entity location (← query DatabaseSource.backend (Query.select s find))
      next a
    (∃ error, request.run.run e = (.error error, e) ∧
      ∀ a, ¬(check = .ok () ∧ e.outside.fault s = none ∧ find e.outside = some a)) ∨
    ∃ a, request.run.run e = (next a).run.run e ∧
      check = .ok () ∧ e.outside.fault s = none ∧ find e.outside = some a := by
  intro request
  cases hcheck : check with
  | error error =>
    left
    exact ⟨_, run_bind_error (run_ofDomain_error hcheck e), fun a h => nomatch h.1⟩
  | ok _ =>
    have hchecked := run_ofDomain_ok hcheck e
    cases hfault : e.outside.fault s with
    | some error =>
      left
      have hquery := Query.run_select_of_some hfault find
      exact ⟨_, (run_bind_ok hchecked).trans (run_bind_error (run_query_error hquery)),
        fun a h => nomatch h.2.1⟩
    | none =>
      have hquery := Query.run_select_of_none hfault find
      cases hfind : find e.outside with
      | none =>
        left
        exact ⟨_, (run_bind_ok hchecked).trans <| (run_bind_ok (run_query_ok hquery)).trans <|
          run_bind_error (run_found_none entity location hfind e), fun a h => nomatch h.2.2⟩
      | some a =>
        right
        exact ⟨a, (run_bind_ok hchecked).trans <| (run_bind_ok (run_query_ok hquery)).trans <|
          run_bind_ok (run_found entity location hfind e), rfl, rfl, rfl⟩

end Intake

/-- The row that a new reading becomes. -/
def NewSensorReading.row (r : NewSensorReading) (db : Database) : SensorReading :=
  { id := nextKey (db.sensorReadings.map (·.id)), device := r.device, level := r.level
    distance := r.distance, timestamp := r.timestamp.toMicroseconds, createdAt := db.now.toMicroseconds }

def NewBlockageReading.row (r : NewBlockageReading) (db : Database) : BlockageReading :=
  { id := nextKey (db.blockageReadings.map (·.id)), device := r.device, imagePath := r.imagePath
    level := r.level.name, confidence := r.confidence, timestamp := r.timestamp.toMicroseconds
    createdAt := db.now.toMicroseconds }

def NewWeatherReading.row (r : NewWeatherReading) (db : Database) : WeatherReading :=
  { id := nextKey (db.weatherReadings.map (·.id)), location := r.location
    precipitation := r.precipitation, code := r.code, createdAt := db.now.toMicroseconds }

namespace Database

def withSensorReading (db : Database) (row : SensorReading) : Database :=
  { db with sensorReadings := db.sensorReadings ++ [row], changes := db.changes ++ [.sensorReading row] }

def withBlockageReading (db : Database) (row : BlockageReading) : Database :=
  { db with
    blockageReadings := db.blockageReadings ++ [row], changes := db.changes ++ [.blockageReading row] }

def withWeatherReading (db : Database) (row : WeatherReading) : Database :=
  { db with
    weatherReadings := db.weatherReadings ++ [row], changes := db.changes ++ [.weatherReading row] }

def withTouch (db : Database) (sensor : RowId) : Database :=
  { db with
    sensors := db.sensors.map fun s =>
      if s.id = sensor then { s with lastSeen := some db.now.toMicroseconds } else s
    changes := db.changes ++ [.touched sensor] }

end Database

/-- The reading that a sensor's report amounts to by its calibration. -/
def SensorReport.reading (r : SensorReport) (now : Instant) (device : SensorDevice)
    (config : Calibration Float) : NewSensorReading :=
  { device := device.id, level := config.levelAt r.distance, distance := r.distance
    timestamp := r.timestamp.getD now }

def BlockageReport.reading (r : BlockageReport) (now : Instant) (camera : CameraDevice) :
    NewBlockageReading :=
  { device := camera.id, imagePath := r.imagePath, level := r.level, confidence := r.confidence
    timestamp := r.timestamp.getD now }

def WeatherReport.reading (r : WeatherReport) (location : LocationId) : NewWeatherReading :=
  { location, precipitation := r.precipitation, code := r.code }

/-- A sensor's request gets as far as storing its reading. -/
structure SensorReport.Storable (r : SensorReport) (location : LocationId) (db : Database)
    (device : SensorDevice) (config : Calibration Float) : Prop where
  valid : r.validate = .ok ()
  lookup : db.fault .locationSensor = none
  found : db.sensors.find? (·.location == location) = some device
  config : device.config = .ok config
  insert : db.fault .insertSensorReading = none

/-- The ways in which a sensor's request can go. -/
inductive SensorIntake (now : Instant) (location : LocationId) (r : SensorReport) (e : Engine Database) :
    Except ServiceError SensorReceipt → Engine Database → Prop where
  /-- Nothing is stored. -/
  | refused {error : ServiceError} (hnot : ∀ device config, ¬r.Storable location e.outside device config) :
      SensorIntake now location r e (.error error) e
  /-- The reading is stored, but the sensor cannot be touched. -/
  | untouched {device : SensorDevice} {config : Calibration Float} {error : DatabaseError}
      (hstorable : r.Storable location e.outside device config)
      (htouch : e.outside.fault .touch = some error) :
      SensorIntake now location r e (.error (.database error)) { e with
        outside := e.outside.withSensorReading ((r.reading now device config).row e.outside) }
  /-- The reading is stored, but the one before it cannot be had. -/
  | unrated {device : SensorDevice} {config : Calibration Float} {error : DatabaseError}
      (hstorable : r.Storable location e.outside device config) (htouch : e.outside.fault .touch = none)
      (hprevious : e.outside.fault .previousSensorReading = some error) :
      SensorIntake now location r e (.error (.database error)) { e with
        outside := (e.outside.withSensorReading ((r.reading now device config).row e.outside)).withTouch
          device.id }
  | taken {device : SensorDevice} {config : Calibration Float} {row : SensorReading} {db : Database}
      {previous : Option SensorReading} {after : Engine Database}
      (hstorable : r.Storable location e.outside device config)
      (htouch : e.outside.fault .touch = none) (hprevious : e.outside.fault .previousSensorReading = none)
      (hrow : row = (r.reading now device config).row e.outside)
      (hdb : db = (e.outside.withSensorReading row).withTouch device.id)
      (hlatest : (Query.previousSensorReading device.id row.timestamp).run.run db = (.ok previous, db))
      (hafter : after =
        ((dispatch DatabaseSource.backend location (.waterLevel (row.status previous config))).run
          { e with outside := db }).2) :
      SensorIntake now location r e (.ok ⟨row, row.status previous config, config.alert row.level⟩) after

/-- There are no other ways in which a sensor's request goes. -/
theorem sensorIntake_ingestSensor (now : Instant) (location : LocationId) (r : SensorReport)
    (e : Engine Database) :
    SensorIntake now location r e
      ((ingestSensor DatabaseSource.backend now location r).run.run e).1
      ((ingestSensor DatabaseSource.backend now location r).run.run e).2 := by
  have hrefused {error : ServiceError} (hnot : ∀ device config, ¬r.Storable location e.outside device config)
      (hrun : (ingestSensor DatabaseSource.backend now location r).run.run e = (.error error, e)) :
      SensorIntake now location r e
        ((ingestSensor DatabaseSource.backend now location r).run.run e).1
        ((ingestSensor DatabaseSource.backend now location r).run.run e).2 := by
    rw [hrun]
    exact .refused hnot
  rcases Intake.run_lookup e with ⟨error, hrun, hnot⟩ | ⟨device, hdevice, hvalid, hlookup, hfound⟩
  · exact hrefused (fun device _ h => hnot device ⟨h.valid, h.lookup, h.found⟩) hrun
  cases hconfig : device.config with
  | error error =>
    refine hrefused (fun _ _ h => ?_)
      (hdevice.trans (run_bind_error (Intake.run_ofDomain_error hconfig e)))
    cases hfound.symm.trans h.found
    exact nomatch hconfig.symm.trans h.config
  | ok config =>
  have hcalibrated : (ingestSensor DatabaseSource.backend now location r).run.run e = _ :=
    hdevice.trans (run_bind_ok (Intake.run_ofDomain_ok hconfig e))
  cases hinsert : e.outside.fault .insertSensorReading with
  | some error =>
    have hquery : (Query.insertSensorReading (r.reading now device config)).run.run e.outside = _ :=
      Query.run_statement_of_some hinsert _
    exact hrefused (fun _ _ h => nomatch hinsert.symm.trans h.insert)
      (hcalibrated.trans (run_bind_error (Intake.run_query_error hquery)))
  | none =>
  have hstorable : r.Storable location e.outside device config :=
    ⟨hvalid, hlookup, hfound, hconfig, hinsert⟩
  let row := (r.reading now device config).row e.outside
  have hstored : (Query.insertSensorReading (r.reading now device config)).run.run e.outside =
      (.ok row, e.outside.withSensorReading row) := Query.run_statement_of_none hinsert _
  -- from here on the reading is stored, and stays whatever fails
  let stored := e.outside.withSensorReading row
  cases htouch : stored.fault .touch with
  | some error =>
    have hquery : (Query.touch device.id).run.run stored = _ := Query.run_statement_of_some htouch _
    rw [hcalibrated.trans <| (run_bind_ok (Intake.run_query_ok hstored)).trans <|
      run_bind_error (Intake.run_query_error hquery)]
    exact .untouched hstorable htouch
  | none =>
  let db := stored.withTouch device.id
  have htouched : (Query.touch device.id).run.run stored = (.ok (), db) :=
    Query.run_statement_of_none htouch _
  have hrest : (ingestSensor DatabaseSource.backend now location r).run.run e = _ :=
    hcalibrated.trans <| (run_bind_ok (Intake.run_query_ok hstored)).trans <|
      run_bind_ok (Intake.run_query_ok htouched)
  cases hprevious : db.fault .previousSensorReading with
  | some error =>
    have hquery : (Query.previousSensorReading device.id row.timestamp).run.run db = _ :=
      Query.run_select_of_some hprevious _
    rw [hrest.trans (run_bind_error (Intake.run_query_error hquery))]
    exact .unrated hstorable htouch hprevious
  | none =>
    have hquery : (Query.previousSensorReading device.id row.timestamp).run.run db = _ :=
      Query.run_select_of_none hprevious _
    rw [hrest.trans (run_bind_ok (Intake.run_query_ok hquery))]
    exact .taken hstorable htouch hprevious rfl rfl hquery rfl

/-- The classifier's request gets as far as storing its verdict. -/
structure BlockageReport.Storable (r : BlockageReport) (location : LocationId) (db : Database)
    (camera : CameraDevice) : Prop where
  valid : r.validate = .ok ()
  lookup : db.fault .locationCamera = none
  found : db.cameras.find? (·.location == location) = some camera
  insert : db.fault .insertBlockageReading = none

/-- The ways in which the classifier's request can go. -/
inductive BlockageIntake (now : Instant) (location : LocationId) (r : BlockageReport) (e : Engine Database) :
    Except ServiceError BlockageReceipt → Engine Database → Prop where
  /-- Nothing is stored. -/
  | refused {error : ServiceError} (hnot : ∀ camera, ¬r.Storable location e.outside camera) :
      BlockageIntake now location r e (.error error) e
  | taken {camera : CameraDevice} {row : BlockageReading} {status : Blockage} {after : Engine Database}
      (hstorable : r.Storable location e.outside camera)
      (hrow : row = (r.reading now camera).row e.outside) (hstatus : row.status = .ok status)
      (hafter : after = ((dispatch DatabaseSource.backend location (.blockage status)).run
        { e with outside := e.outside.withBlockageReading row }).2) :
      BlockageIntake now location r e (.ok ⟨row, status⟩) after

theorem BlockageLevel.ofName_name (level : BlockageLevel) : ofName level.name = .ok level := by
  cases level <;> decide

/-- A verdict is read as it was stored. -/
theorem NewBlockageReading.status_row (r : NewBlockageReading) (db : Database) :
    (r.row db).status = .ok { level := r.level, observedAt := r.timestamp.toMicroseconds } := by
  rw [BlockageReading.status, row, BlockageLevel.ofName_name]
  rfl

theorem blockageIntake_ingestBlockage (now : Instant) (location : LocationId) (r : BlockageReport)
    (e : Engine Database) :
    BlockageIntake now location r e
      ((ingestBlockage DatabaseSource.backend now location r).run.run e).1
      ((ingestBlockage DatabaseSource.backend now location r).run.run e).2 := by
  have hrefused {error : ServiceError} (hnot : ∀ camera, ¬r.Storable location e.outside camera)
      (hrun : (ingestBlockage DatabaseSource.backend now location r).run.run e = (.error error, e)) :
      BlockageIntake now location r e
        ((ingestBlockage DatabaseSource.backend now location r).run.run e).1
        ((ingestBlockage DatabaseSource.backend now location r).run.run e).2 := by
    rw [hrun]
    exact .refused hnot
  rcases Intake.run_lookup e with ⟨error, hrun, hnot⟩ | ⟨camera, hcamera, hvalid, hlookup, hfound⟩
  · exact hrefused (fun camera h => hnot camera ⟨h.valid, h.lookup, h.found⟩) hrun
  cases hinsert : e.outside.fault .insertBlockageReading with
  | some error =>
    have hquery : (Query.insertBlockageReading (r.reading now camera)).run.run e.outside = _ :=
      Query.run_statement_of_some hinsert _
    exact hrefused (fun _ h => nomatch hinsert.symm.trans h.insert)
      (hcamera.trans (run_bind_error (Intake.run_query_error hquery)))
  | none =>
    let row := (r.reading now camera).row e.outside
    have hstored : (Query.insertBlockageReading (r.reading now camera)).run.run e.outside =
        (.ok row, e.outside.withBlockageReading row) := Query.run_statement_of_none hinsert _
    have hstatus := (r.reading now camera).status_row e.outside
    have hrun : (ingestBlockage DatabaseSource.backend now location r).run.run e = _ :=
      hcamera.trans <| (run_bind_ok (Intake.run_query_ok hstored)).trans <|
        run_bind_ok (Intake.run_ofDomain_ok hstatus _)
    rw [hrun]
    exact .taken ⟨hvalid, hlookup, hfound, hinsert⟩ rfl hstatus rfl

/-- The weather feed's request gets as far as storing its observation. -/
structure WeatherReport.Storable (r : WeatherReport) (location : LocationId) (db : Database)
    (site : LocationRow) : Prop where
  valid : r.validate = .ok ()
  lookup : db.fault .location = none
  found : db.locations.find? (·.id == location) = some site
  insert : db.fault .insertWeather = none

/-- The ways in which the weather feed's request can go. -/
inductive WeatherIntake (location : LocationId) (r : WeatherReport) (e : Engine Database) :
    Except ServiceError WeatherReceipt → Engine Database → Prop where
  /-- Nothing is stored. -/
  | refused {error : ServiceError} (hnot : ∀ site, ¬r.Storable location e.outside site) :
      WeatherIntake location r e (.error error) e
  | taken {site : LocationRow} {row : WeatherReading} {after : Engine Database}
      (hstorable : r.Storable location e.outside site) (hrow : row = (r.reading location).row e.outside)
      (hafter : after = ((dispatch DatabaseSource.backend location (.weather row.status)).run
        { e with outside := e.outside.withWeatherReading row }).2) :
      WeatherIntake location r e (.ok ⟨row, row.status, describePrecipitation row.precipitation⟩) after

theorem weatherIntake_ingestWeather (location : LocationId) (r : WeatherReport) (e : Engine Database) :
    WeatherIntake location r e
      ((ingestWeather DatabaseSource.backend location r).run.run e).1
      ((ingestWeather DatabaseSource.backend location r).run.run e).2 := by
  have hrefused {error : ServiceError} (hnot : ∀ site, ¬r.Storable location e.outside site)
      (hrun : (ingestWeather DatabaseSource.backend location r).run.run e = (.error error, e)) :
      WeatherIntake location r e
        ((ingestWeather DatabaseSource.backend location r).run.run e).1
        ((ingestWeather DatabaseSource.backend location r).run.run e).2 := by
    rw [hrun]
    exact .refused hnot
  rcases Intake.run_lookup e with ⟨error, hrun, hnot⟩ | ⟨site, hsite, hvalid, hlookup, hfound⟩
  · exact hrefused (fun site h => hnot site ⟨h.valid, h.lookup, h.found⟩) hrun
  cases hinsert : e.outside.fault .insertWeather with
  | some error =>
    have hquery : (Query.insertWeather (r.reading location)).run.run e.outside = _ :=
      Query.run_statement_of_some hinsert _
    exact hrefused (fun _ h => nomatch hinsert.symm.trans h.insert)
      (hsite.trans (run_bind_error (Intake.run_query_error hquery)))
  | none =>
    let row := (r.reading location).row e.outside
    have hstored : (Query.insertWeather (r.reading location)).run.run e.outside =
        (.ok row, e.outside.withWeatherReading row) := Query.run_statement_of_none hinsert _
    have hrun : (ingestWeather DatabaseSource.backend location r).run.run e = _ :=
      hsite.trans (run_bind_ok (Intake.run_query_ok hstored))
    rw [hrun]
    exact .taken ⟨hvalid, hlookup, hfound, hinsert⟩ rfl rfl

/-! ## A site to try requests on -/

/-- A sensor three metres above the bed. -/
def gauge : SensorDevice :=
  ⟨1, 7, "Gauge", .list [.integer 300, .integer 200, .integer 250], none, .year2000⟩

/-- A site with a sensor and a camera, in a database in which some statements fail. -/
def weir (failures : List (Statement × DatabaseError)) : Database :=
  { locations := [⟨7, "Weir", none, none, .year2000⟩]
    sensors := [gauge]
    cameras := [⟨2, 7, "Eye", .year2000⟩]
    settings := [⟨Thresholds.settingKey, .list [.integer 45, .integer 75, .integer 76]⟩]
    now := .year2000
    failures }

/-- The water stands 1.7 metres high. -/
def distanceReport : Report :=
  .sensor ⟨130.0, none⟩

end Waterway
