import Waterway.Proofs.Ingest.Intake
import Waterway.Proofs.Registry.Startup

/-!
# What the tables say of a site

The readings of one site in the tables of a database in which no statement fails, and what a worker that
starts from them has. If the times of the readings do not go back and the last ones are fresh, these are what
it starts from.

## Main definitions

- `Station` — a site with its devices, its calibration and the thresholds
- `Database.Hosts` — the tables hold a site, and readings of this site alone
- `Database.evidence` — what the last readings amount to
- `Database.TimesAscend`, `Database.Fresh` — the times do not go back; the last readings are fresh

## Main statements

- `Database.evidence_withSensorReading`, `Database.evidence_withBlockageReading`,
  `Database.evidence_withWeatherReading` — a reading that is added takes the place of the last one
- `Database.Hosts.run_loadEvidence` — what a worker starts from
-/

namespace Waterway

/-- A site with its devices, its calibration and the thresholds. -/
structure Station where
  location : LocationId
  name : String
  sensor : RowId
  camera : RowId
  calibration : Calibration Float
  thresholds : Thresholds

def Station.devices (st : Station) : Devices :=
  { location := st.location, name := st.name, sensor := some st.sensor, camera := some st.camera }

namespace Database

/-- The latest reading of a sensor before an instant. -/
def readingBefore (db : Database) (sensor : RowId) (instant : Instant) : Option SensorReading :=
  latestOf (·.timestamp) (·.id)
    (db.sensorReadings.filter fun r => r.device == sensor && r.timestamp.before instant.toMicroseconds)

/-- What the last readings amount to. -/
def evidence (db : Database) (st : Station) : Evidence Float where
  waterLevel := db.sensorReadings.getLast?.map fun r =>
    r.status (db.readingBefore st.sensor r.timestamp) st.calibration
  blockage := db.blockageReadings.getLast?.bind fun r => r.status.toOption
  weather := db.weatherReadings.getLast?.map WeatherReading.status

/-- The tables hold a site, and readings of this site alone, in the order of their keys. No statement fails. -/
structure Hosts (db : Database) (st : Station) : Prop where
  fault : ∀ s, db.fault s = none
  thresholds : (DatabaseSource.thresholds.run.run db).1 = .ok st.thresholds
  sensor : (db.sensors.find? (·.location == st.location)).map (fun s => (s.id, s.config)) =
    some (st.sensor, .ok st.calibration)
  calibrated : (db.sensors.find? (·.id == st.sensor)).map (·.config) = some (.ok st.calibration)
  camera : (db.cameras.find? (·.location == st.location)).map (·.id) = some st.camera
  sensorRows : ∀ r ∈ db.sensorReadings, r.device = st.sensor
  blockageRows : ∀ r ∈ db.blockageReadings, r.device = st.camera
  weatherRows : ∀ r ∈ db.weatherReadings, r.location = st.location
  verdicts : ∀ r ∈ db.blockageReadings, ∃ status, r.status = .ok status
  sensorKeys : db.sensorReadings.Pairwise (·.id < ·.id)
  blockageKeys : db.blockageReadings.Pairwise (·.id < ·.id)
  weatherKeys : db.weatherReadings.Pairwise (·.id < ·.id)

/-- The stored times of the readings of a feed never go back. -/
structure TimesAscend (db : Database) : Prop where
  sensor : db.sensorReadings.Pairwise fun a b => a.timestamp.compare b.timestamp ≠ .gt
  blockage : db.blockageReadings.Pairwise fun a b => a.timestamp.compare b.timestamp ≠ .gt
  weather : db.weatherReadings.Pairwise fun a b => a.createdAt.compare b.createdAt ≠ .gt

/-- The last reading of every feed that has one is fresh. -/
structure Fresh (db : Database) (windows : Windows) (now : Instant) : Prop where
  sensor : ∀ r ∈ db.sensorReadings.getLast?, windows.waterLevel.admits r.timestamp now
  blockage : ∀ r ∈ db.blockageReadings.getLast?, windows.blockage.admits r.timestamp now
  weather : ∀ r ∈ db.weatherReadings.getLast?, windows.weather.admits r.createdAt now

variable {db : Database} {st : Station}

/-- A reading of the sensor that is added takes the place of the last one. -/
theorem evidence_withSensorReading (row : SensorReading) :
    (db.withSensorReading row).evidence st = (db.evidence st).put (.waterLevel (row.status
      ((db.withSensorReading row).readingBefore st.sensor row.timestamp) st.calibration)) := by
  rw [evidence, withSensorReading, List.getLast?_concat]
  rfl

theorem evidence_withBlockageReading {row : BlockageReading} {status : Blockage}
    (hstatus : row.status = .ok status) :
    (db.withBlockageReading row).evidence st = (db.evidence st).put (.blockage status) := by
  rw [evidence, withBlockageReading, List.getLast?_concat, Option.bind_some, hstatus]
  rfl

theorem evidence_withWeatherReading (row : WeatherReading) :
    (db.withWeatherReading row).evidence st = (db.evidence st).put (.weather row.status) := by
  rw [evidence, withWeatherReading, List.getLast?_concat]
  rfl

/-- A touch changes neither the key of a sensor nor its site nor its calibration. -/
theorem map_find?_withTouch {α : Type} {f : SensorDevice → α} {p : SensorDevice → Bool}
    (hf : ∀ (s : SensorDevice) lastSeen, f { s with lastSeen } = f s)
    (hp : ∀ (s : SensorDevice) lastSeen, p { s with lastSeen } = p s) (sensor : RowId) :
    ((db.withTouch sensor).sensors.find? p).map f = (db.sensors.find? p).map f := by
  let touched (s : SensorDevice) : SensorDevice :=
    if s.id = sensor then { s with lastSeen := some db.now.toMicroseconds } else s
  have hsame {β : Type} {g : SensorDevice → β} (hg : ∀ (s : SensorDevice) lastSeen, g { s with lastSeen } = g s) :
      g ∘ touched = g := by
    funext s
    by_cases hs : s.id = sensor
    · exact (congrArg g (if_pos hs)).trans (hg s _)
    · exact congrArg g (if_neg hs)
  rw [withTouch, List.find?_map, Option.map_map, hsame hp, hsame hf]

namespace Hosts

theorem pairwise_concat {α : Type} {key : α → RowId} {rows : List α} (h : rows.Pairwise (key · < key ·))
    {row : α} (hrow : key row = nextKey (rows.map key)) : (rows ++ [row]).Pairwise (key · < key ·) := by
  refine List.pairwise_append.mpr ⟨h, List.pairwise_singleton _ _, fun r hr last hlast => ?_⟩
  rw [List.mem_singleton.mp hlast, hrow]
  exact lt_nextKey (List.mem_map_of_mem hr)

theorem forall_mem_concat {α : Type} {p : α → Prop} {rows : List α} {row : α} (h : ∀ r ∈ rows, p r)
    (hrow : p row) :
    ∀ r ∈ rows ++ [row], p r := by
  intro r hr
  rcases List.mem_append.mp hr with hmem | hmem
  · exact h r hmem
  · rwa [List.mem_singleton.mp hmem]

theorem run_thresholds (h : db.Hosts st) :
    DatabaseSource.thresholds.run.run db = (.ok st.thresholds, db) :=
  Prod.ext h.thresholds (DatabaseSource.readsOnly_thresholds db)

theorem fst_thresholds {after : Database} (h : db.Hosts st) (hfault : after.fault .setting = db.fault .setting)
    (hsettings : after.settings = db.settings) :
    (DatabaseSource.thresholds.run.run after).1 = .ok st.thresholds := by
  rw [DatabaseSource.fst_thresholds, hfault, hsettings, ← DatabaseSource.fst_thresholds]
  exact h.thresholds

theorem withSensorReading (h : db.Hosts st) {row : SensorReading} (hdevice : row.device = st.sensor)
    (hkey : row.id = nextKey (db.sensorReadings.map (·.id))) : (db.withSensorReading row).Hosts st :=
  { h with
    thresholds := h.fst_thresholds rfl rfl
    sensorRows := forall_mem_concat h.sensorRows hdevice
    sensorKeys := pairwise_concat h.sensorKeys hkey }

theorem withBlockageReading (h : db.Hosts st) {row : BlockageReading} {status : Blockage}
    (hdevice : row.device = st.camera) (hstatus : row.status = .ok status)
    (hkey : row.id = nextKey (db.blockageReadings.map (·.id))) : (db.withBlockageReading row).Hosts st :=
  { h with
    thresholds := h.fst_thresholds rfl rfl
    blockageRows := forall_mem_concat h.blockageRows hdevice
    verdicts := forall_mem_concat h.verdicts ⟨status, hstatus⟩
    blockageKeys := pairwise_concat h.blockageKeys hkey }

theorem withWeatherReading (h : db.Hosts st) {row : WeatherReading} (hlocation : row.location = st.location)
    (hkey : row.id = nextKey (db.weatherReadings.map (·.id))) : (db.withWeatherReading row).Hosts st :=
  { h with
    thresholds := h.fst_thresholds rfl rfl
    weatherRows := forall_mem_concat h.weatherRows hlocation
    weatherKeys := pairwise_concat h.weatherKeys hkey }

theorem withTouch (h : db.Hosts st) (sensor : RowId) : (db.withTouch sensor).Hosts st :=
  { h with
    thresholds := h.fst_thresholds rfl rfl
    sensor := (map_find?_withTouch (fun _ _ => rfl) (fun _ _ => rfl) sensor).trans h.sensor
    calibrated := (map_find?_withTouch (fun _ _ => rfl) (fun _ _ => rfl) sensor).trans h.calibrated }

theorem withNow (h : db.Hosts st) (now : Instant) : { db with now }.Hosts st :=
  { h with thresholds := h.fst_thresholds rfl rfl }

/-- The latest rows of the site are the last rows of all. -/
theorem latestOf_filter {α : Type} {time : α → Instant} {key : α → RowId} {rows : List α} {p : α → Bool}
    (hall : ∀ r ∈ rows, p r) (hkeys : rows.Pairwise (key · < key ·))
    (htimes : rows.Pairwise fun a b => (time a).compare (time b) ≠ .gt) :
    latestOf time key (rows.filter p) = rows.getLast? := by
  rw [List.filter_eq_self.mpr hall]
  exact latestOf_eq_getLast? (hkeys.and htimes)

theorem run_latestWaterLevel (h : db.Hosts st) (htimes : db.TimesAscend) :
    (DatabaseSource.latestWaterLevel st.sensor).run.run db = (.ok (db.evidence st).waterLevel, db) := by
  have hlatest : (Query.latestSensorReading st.sensor).run.run db =
      (.ok db.sensorReadings.getLast?, db) := by
    have hquery : (Query.latestSensorReading st.sensor).run.run db = _ :=
      Query.run_select_of_none (h.fault _) _
    rw [hquery, latestOf_filter _ h.sensorKeys htimes.sensor]
    intro r hr
    exact beq_of_eq (h.sensorRows r hr)
  have hrun : (DatabaseSource.latestWaterLevel st.sensor).run.run db = _ :=
    run_bind_ok (DatabaseSource.run_query_ok hlatest)
  rw [hrun, evidence]
  cases db.sensorReadings.getLast? with
  | none => rfl
  | some reading =>
    obtain ⟨sensor, hfind, hconfig⟩ := Option.map_eq_some_iff.mp h.calibrated
    have hsensor : (Query.sensor st.sensor).run.run db = _ := Query.run_select_of_none (h.fault _) _
    have hprevious : (Query.previousSensorReading st.sensor reading.timestamp).run.run db = _ :=
      Query.run_select_of_none (h.fault _) _
    rw [hfind] at hsensor
    have hcalibration : (DatabaseSource.ofDomain sensor.config).run.run db = (.ok st.calibration, db) := by
      rw [hconfig]
      rfl
    exact (run_bind_ok (DatabaseSource.run_query_ok hsensor)).trans <|
      (run_bind_ok hcalibration).trans (run_bind_ok (DatabaseSource.run_query_ok hprevious))

theorem run_latestBlockage (h : db.Hosts st) (htimes : db.TimesAscend) :
    (DatabaseSource.latestBlockage st.camera).run.run db = (.ok (db.evidence st).blockage, db) := by
  have hlatest : (Query.latestBlockageReading st.camera).run.run db =
      (.ok db.blockageReadings.getLast?, db) := by
    have hquery : (Query.latestBlockageReading st.camera).run.run db = _ :=
      Query.run_select_of_none (h.fault _) _
    rw [hquery, latestOf_filter _ h.blockageKeys htimes.blockage]
    intro r hr
    exact beq_of_eq (h.blockageRows r hr)
  have hrun : (DatabaseSource.latestBlockage st.camera).run.run db = _ :=
    run_bind_ok (DatabaseSource.run_query_ok hlatest)
  rw [hrun, evidence]
  cases hlast : db.blockageReadings.getLast? with
  | none => rfl
  | some reading =>
    obtain ⟨status, hstatus⟩ := h.verdicts reading (List.mem_of_getLast? hlast)
    change (some <$> DatabaseSource.ofDomain reading.status).run.run db = _
    rw [Option.bind_some, hstatus]
    rfl

theorem run_latestWeather (h : db.Hosts st) (htimes : db.TimesAscend) :
    (DatabaseSource.latestWeather st.location).run.run db = (.ok (db.evidence st).weather, db) := by
  have hlatest : (Query.latestWeather st.location).run.run db = (.ok db.weatherReadings.getLast?, db) := by
    have hquery : (Query.latestWeather st.location).run.run db = _ :=
      Query.run_select_of_none (h.fault _) _
    rw [hquery, latestOf_filter _ h.weatherKeys htimes.weather]
    intro r hr
    exact beq_of_eq (h.weatherRows r hr)
  exact run_bind_ok (DatabaseSource.run_query_ok hlatest)

/-- The store answers what the last readings amount to. -/
theorem run_latest (h : db.Hosts st) (htimes : db.TimesAscend) (source : Source) :
    (DatabaseSource.store.latest st.devices source).run db = (.ok ((db.evidence st).latest source), db) := by
  cases source with
  | waterLevel =>
    change ((DatabaseSource.latestWaterLevel st.sensor).run >>= _).run db = _
    rw [StateT.run_bind, h.run_latestWaterLevel htimes]
    rfl
  | blockage =>
    change ((DatabaseSource.latestBlockage st.camera).run >>= _).run db = _
    rw [StateT.run_bind, h.run_latestBlockage htimes]
    rfl
  | weather =>
    change ((DatabaseSource.latestWeather st.location).run >>= _).run db = _
    rw [StateT.run_bind, h.run_latestWeather htimes]
    rfl

/-- If the last readings are fresh, a worker starts from all of them. -/
theorem run_loadEvidence (h : db.Hosts st) (htimes : db.TimesAscend) {windows : Windows} {now : Instant}
    (hfresh : db.Fresh windows now) :
    (loadEvidence DatabaseSource.store st.devices windows now Source.all {}).run db =
      (db.evidence st, db) := by
  refine DatabaseSource.run_loadEvidence fun source => ?_
  rw [h.run_latest htimes]
  cases source with
  | waterLevel =>
    cases hlast : db.sensorReadings.getLast? with
    | none => simp [Windows.admitted, Evidence.latest, evidence, hlast]
    | some r =>
      have hadmits := hfresh.sensor r hlast
      simp only [Windows.admitted, Evidence.latest, evidence, hlast, Option.map_some]
      exact if_pos hadmits
  | blockage =>
    cases hlast : db.blockageReadings.getLast? with
    | none => simp [Windows.admitted, Evidence.latest, evidence, hlast]
    | some r =>
      obtain ⟨status, hstatus⟩ := h.verdicts r (List.mem_of_getLast? hlast)
      have hadmits := hfresh.blockage r hlast
      rw [← BlockageReading.observedAt_eq hstatus] at hadmits
      simp only [Windows.admitted, Evidence.latest, evidence, hlast, Option.bind_some, hstatus]
      exact if_pos hadmits
  | weather =>
    cases hlast : db.weatherReadings.getLast? with
    | none => simp [Windows.admitted, Evidence.latest, evidence, hlast]
    | some r =>
      have hadmits := hfresh.weather r hlast
      simp only [Windows.admitted, Evidence.latest, evidence, hlast, Option.map_some]
      exact if_pos hadmits

end Hosts

end Database

end Waterway
