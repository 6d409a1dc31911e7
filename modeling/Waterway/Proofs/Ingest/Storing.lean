import Waterway.Proofs.Database.Times
import Waterway.Proofs.Ingest.Views

/-!
# Storing and announcing

A report is taken in by two steps: it is stored and turned into a status, and then it is announced. Between them
anything may happen to the subscribers.

## Main definitions

- `Report.store` — the first step
- `Receipt.IsIn` — the reading of a receipt is among those that are stored
- `StoredBy` — what the first step does to the tables

## Main statements

- `receive_eq` — there is nothing but these two steps
- `storedBy_store` — a reading is added to those of its device, and nothing else but the tables changes
-/

namespace Waterway

open Engine

variable {σ : Type}

namespace SensorReport

/-- Stores what a sensor reports at the instant `now`. -/
def store (b : Backend σ) (now : Instant) (location : LocationId) (r : SensorReport) :
    Intake σ SensorReceipt := do
  Intake.ofDomain r.validate
  let device ← Intake.found "SensorDevice for location" location
    (← Intake.query b (Query.locationSensor location))
  let config ← Intake.ofDomain device.config
  let reading ← Intake.query b <| Query.insertSensorReading
    { device := device.id, level := config.levelAt r.distance, distance := r.distance
      timestamp := r.timestamp.getD now }
  Intake.query b (Query.touch device.id)
  let previous ← Intake.query b (Query.previousSensorReading device.id reading.timestamp)
  return { reading, status := reading.status previous config, alert := config.alert reading.level }

theorem ingest_eq (b : Backend σ) (now : Instant) (location : LocationId) (r : SensorReport) :
    ingestSensor b now location r = do
      let receipt ← r.store b now location
      dispatch b location (.waterLevel receipt.status)
      return receipt := by
  simp only [ingestSensor, store, bind_assoc, pure_bind]

end SensorReport

namespace BlockageReport

def store (b : Backend σ) (now : Instant) (location : LocationId) (r : BlockageReport) :
    Intake σ BlockageReceipt := do
  Intake.ofDomain r.validate
  let camera ← Intake.found "CameraDevice for location" location
    (← Intake.query b (Query.locationCamera location))
  let reading ← Intake.query b <| Query.insertBlockageReading
    { device := camera.id, imagePath := r.imagePath, level := r.level, confidence := r.confidence
      timestamp := r.timestamp.getD now }
  let status ← Intake.ofDomain reading.status
  return { reading, status }

theorem ingest_eq (b : Backend σ) (now : Instant) (location : LocationId) (r : BlockageReport) :
    ingestBlockage b now location r = do
      let receipt ← r.store b now location
      dispatch b location (.blockage receipt.status)
      return receipt := by
  simp only [ingestBlockage, store, bind_assoc, pure_bind]

end BlockageReport

namespace WeatherReport

def store (b : Backend σ) (location : LocationId) (r : WeatherReport) : Intake σ WeatherReceipt := do
  Intake.ofDomain r.validate
  let _ ← Intake.found "Location" location (← Intake.query b (Query.location location))
  let reading ← Intake.query b <| Query.insertWeather
    { location, precipitation := r.precipitation, code := r.code }
  return { reading, status := reading.status, description := describePrecipitation reading.precipitation }

theorem ingest_eq (b : Backend σ) (location : LocationId) (r : WeatherReport) :
    ingestWeather b location r = do
      let receipt ← r.store b location
      dispatch b location (.weather receipt.status)
      return receipt := by
  simp only [ingestWeather, store, bind_assoc, pure_bind]

end WeatherReport

/-- Stores a report at the instant `now`. -/
def Report.store (b : Backend σ) (now : Instant) (location : LocationId) : Report → Intake σ Receipt
  | .sensor r => .sensor <$> r.store b now location
  | .blockage r => .blockage <$> r.store b now location
  | .weather r => .weather <$> r.store b location

/-- A report is taken in by storing and dispatching it. -/
theorem receive_eq (b : Backend σ) (now : Instant) (location : LocationId) (report : Report) :
    receive b now location report = do
      let receipt ← report.store b now location
      dispatch b location receipt.observation
      return receipt := by
  cases report with
  | sensor r => simp only [receive, Report.store, r.ingest_eq, map_bind, bind_map_left, map_pure]; rfl
  | blockage r => simp only [receive, Report.store, r.ingest_eq, map_bind, bind_map_left, map_pure]; rfl
  | weather r => simp only [receive, Report.store, r.ingest_eq, map_bind, bind_map_left, map_pure]; rfl

namespace Intake

variable {α β : Type}

/-- An action that asks the world around the engine, and does nothing else to the engine. -/
def AsksOnly (action : Intake σ α) : Prop :=
  ∀ e, ∃ outside, (action.run.run e).2 = { e with outside }

namespace AsksOnly

theorem pure (a : α) : AsksOnly (Pure.pure a : Intake σ α) :=
  fun e => ⟨e.outside, rfl⟩

theorem ofDomain (result : Except DomainError α) : AsksOnly (ofDomain result : Intake σ α) :=
  fun e => ⟨e.outside, rfl⟩

theorem found (entity : String) (location : LocationId) (o : Option α) :
    AsksOnly (found entity location o : Intake σ α) := by
  cases o <;> exact fun e => ⟨e.outside, rfl⟩

theorem query (b : Backend σ) (q : Query α) : AsksOnly (query b q) :=
  fun e => ⟨((b.query q).run e.outside).2, rfl⟩

theorem bind {action : Intake σ α} {next : α → Intake σ β} (haction : AsksOnly action)
    (hnext : ∀ a, AsksOnly (next a)) : AsksOnly (action >>= next) := by
  intro e
  obtain ⟨outside, hmid⟩ := haction e
  rcases hrun : action.run.run e with ⟨error | a, mid⟩
  · rw [run_bind_error hrun]
    exact ⟨outside, by rw [← hmid, hrun]⟩
  · rw [run_bind_ok hrun]
    obtain ⟨outside', hafter⟩ := hnext a mid
    rw [hrun] at hmid
    exact ⟨outside', by rw [hafter, show mid = _ from hmid]⟩

theorem map {action : Intake σ α} (haction : AsksOnly action) (f : α → β) : AsksOnly (f <$> action) := by
  rw [map_eq_pure_bind]
  exact haction.bind fun a => pure (f a)

end AsksOnly

end Intake

theorem asksOnly_store (b : Backend σ) (now : Instant) (location : LocationId) (report : Report) :
    Intake.AsksOnly (report.store b now location) := by
  cases report with
  | sensor r =>
    refine .map ?_ _
    rw [SensorReport.store]
    refine .bind (.ofDomain _) fun _ => .bind (.query b _) fun _ => .bind (.found _ _ _) fun device => ?_
    refine .bind (.ofDomain _) fun config => .bind (.query b _) fun reading => .bind (.query b _) fun _ => ?_
    exact .bind (.query b _) fun previous => .pure _
  | blockage r =>
    refine .map ?_ _
    rw [BlockageReport.store]
    refine .bind (.ofDomain _) fun _ => .bind (.query b _) fun _ => .bind (.found _ _ _) fun camera => ?_
    exact .bind (.query b _) fun reading => .bind (.ofDomain _) fun _ => .pure _
  | weather r =>
    refine .map ?_ _
    rw [WeatherReport.store]
    refine .bind (.ofDomain _) fun _ => .bind (.query b _) fun _ => .bind (.found _ _ _) fun site => ?_
    exact .bind (.query b _) fun reading => .pure _

namespace Receipt

def source (receipt : Receipt) : Source :=
  receipt.observation.source

/-- The time under which the reading is stored. -/
def time : Receipt → Instant
  | .sensor r => r.reading.timestamp
  | .blockage r => r.reading.timestamp
  | .weather r => r.reading.createdAt

/-- The reading is among those that are stored. -/
def IsIn (db : Database) : Receipt → Prop
  | .sensor r => r.reading ∈ db.sensorReadings
  | .blockage r => r.reading ∈ db.blockageReadings
  | .weather r => r.reading ∈ db.weatherReadings

variable {receipt : Receipt} {location : LocationId} {before after : Database}

theorem IsIn.grows (h : receipt.IsIn before) (hgrows : before.Grows after) : receipt.IsIn after := by
  cases receipt with
  | sensor r => exact hgrows.sensor.subset h
  | blockage r => exact hgrows.blockage.subset h
  | weather r => exact hgrows.weather.subset h

theorem IsIn.time_mem (h : receipt.IsIn after) : receipt.time ∈ after.times receipt.source receipt.key := by
  cases receipt with
  | sensor r => exact List.mem_map_of_mem (List.mem_filter.mpr ⟨h, beq_self_eq_true _⟩)
  | blockage r => exact List.mem_map_of_mem (List.mem_filter.mpr ⟨h, beq_self_eq_true _⟩)
  | weather r => exact List.mem_map_of_mem (List.mem_filter.mpr ⟨h, beq_self_eq_true _⟩)

theorem Stored.isIn (h : receipt.Stored location before after) : receipt.IsIn after := by
  cases receipt with
  | sensor r =>
    rw [IsIn, h.2]
    exact List.mem_concat_self
  | blockage r =>
    rw [IsIn, h.2]
    exact List.mem_concat_self
  | weather r =>
    rw [IsIn, h.2]
    exact List.mem_concat_self

theorem map_filter_concat {α : Type} (owner : α → RowId) (time : α → Instant) (rows : List α) (row : α) :
    ((rows ++ [row]).filter (owner · == owner row)).map time =
      (rows.filter (owner · == owner row)).map time ++ [time row] := by
  have hlast : [row].filter (owner · == owner row) = [row] := List.filter_cons_of_pos (beq_self_eq_true _)
  rw [List.filter_append, hlast, List.map_append, List.map_singleton]

/-- It is the last of its device, or of its location. -/
theorem Stored.times (h : receipt.Stored location before after) :
    after.times receipt.source receipt.key = before.times receipt.source receipt.key ++ [receipt.time] := by
  cases receipt with
  | sensor r =>
    show (after.sensorReadings.filter _).map _ = _
    rw [h.2]
    exact map_filter_concat (·.device) _ _ r.reading
  | blockage r =>
    show (after.blockageReadings.filter _).map _ = _
    rw [h.2]
    exact map_filter_concat (·.device) _ _ r.reading
  | weather r =>
    show (after.weatherReadings.filter _).map _ = _
    rw [h.2]
    exact map_filter_concat (·.location) _ _ r.reading

end Receipt

section

variable {now : Instant} {location : LocationId} {e after : Engine Database}

theorem SensorIntake.grows {r : SensorReport} {result : Except ServiceError SensorReceipt}
    (h : SensorIntake now location r e result after) : e.outside.Grows after.outside := by
  cases h with
  | refused => exact .refl _
  | untouched | unrated => exact ⟨List.prefix_append _ _, List.prefix_rfl, List.prefix_rfl⟩
  | taken _ _ _ _ hdb _ hafter =>
    rw [hafter, outside_dispatch, hdb]
    exact ⟨List.prefix_append _ _, List.prefix_rfl, List.prefix_rfl⟩

theorem BlockageIntake.grows {r : BlockageReport} {result : Except ServiceError BlockageReceipt}
    (h : BlockageIntake now location r e result after) : e.outside.Grows after.outside := by
  cases h with
  | refused => exact .refl _
  | taken _ _ _ hafter =>
    rw [hafter, outside_dispatch]
    exact ⟨List.prefix_rfl, List.prefix_append _ _, List.prefix_rfl⟩

theorem WeatherIntake.grows {r : WeatherReport} {result : Except ServiceError WeatherReceipt}
    (h : WeatherIntake location r e result after) : e.outside.Grows after.outside := by
  cases h with
  | refused => exact .refl _
  | taken _ _ hafter =>
    rw [hafter, outside_dispatch]
    exact ⟨List.prefix_rfl, List.prefix_rfl, List.prefix_append _ _⟩

/-- Whatever becomes of a report, no reading is lost. -/
theorem grows_receive (now : Instant) (location : LocationId) (report : Report) (e : Engine Database) : e.outside.Grows
    ((receive DatabaseSource.backend now location report).run.run e).2.outside := by
  cases report with
  | sensor r =>
    rw [receive, Intake.run_map]
    exact (sensorIntake_ingestSensor now location r e).grows
  | blockage r =>
    rw [receive, Intake.run_map]
    exact (blockageIntake_ingestBlockage now location r e).grows
  | weather r =>
    rw [receive, Intake.run_map]
    exact (weatherIntake_ingestWeather location r e).grows

/-- A status counts from the time under which its reading is stored. -/
theorem observedAt_receive {report : Report} {receipt : Receipt}
    (h : (receive DatabaseSource.backend now location report).run.run e = (.ok receipt, after)) :
    receipt.observation.observedAt = receipt.time := by
  cases report with
  | sensor r =>
    obtain ⟨receipt, hrun, rfl⟩ := Intake.exists_of_run_map h
    have hintake := sensorIntake_ingestSensor now location r e
    rw [hrun] at hintake
    cases hintake
    rfl
  | blockage r =>
    obtain ⟨receipt, hrun, rfl⟩ := Intake.exists_of_run_map h
    have hintake := blockageIntake_ingestBlockage now location r e
    rw [hrun] at hintake
    cases hintake with
    | taken _ _ hstatus => exact BlockageReading.observedAt_eq hstatus
  | weather r =>
    obtain ⟨receipt, hrun, rfl⟩ := Intake.exists_of_run_map h
    have hintake := weatherIntake_ingestWeather location r e
    rw [hrun] at hintake
    cases hintake
    rfl

end

/-- What storing a report does: no reading is lost, and if there is a receipt, its reading has become a row. -/
structure StoredBy (location : LocationId) (e : Engine Database) (result : Except ServiceError Receipt)
    (after : Engine Database) : Prop where
  tables : ∃ outside, after = { e with outside }
  grows : e.outside.Grows after.outside
  stored : ∀ receipt, result = .ok receipt → receipt.Stored location e.outside after.outside
  observedAt : ∀ receipt, result = .ok receipt → receipt.observation.observedAt = receipt.time

theorem storedBy_store (now : Instant) (location : LocationId) (report : Report) (e : Engine Database) :
    StoredBy location e ((report.store DatabaseSource.backend now location).run.run e).1
      ((report.store DatabaseSource.backend now location).run.run e).2 := by
  obtain ⟨outside, htables⟩ := asksOnly_store DatabaseSource.backend now location report e
  -- whatever the first step does to the tables is there after the second, which leaves them alone
  have hgrows := grows_receive now location report e
  rcases hrun : (report.store DatabaseSource.backend now location).run.run e with ⟨error | receipt, mid⟩
  · rw [receive_eq, run_bind_error hrun] at hgrows
    exact ⟨⟨outside, hrun ▸ htables⟩, hgrows, by rintro _ ⟨⟩, by rintro _ ⟨⟩⟩
  · have hreceive : (receive DatabaseSource.backend now location report).run.run e =
        (.ok receipt, ((dispatch DatabaseSource.backend location receipt.observation).run mid).2) := by
      rw [receive_eq, run_bind_ok hrun]
      rfl
    rw [hreceive] at hgrows
    obtain ⟨db, hkept⟩ := kept_receive hreceive
    have hdb : mid.outside = db := by
      have hafter := congrArg Engine.outside hkept.dispatched
      rwa [outside_dispatch, outside_dispatch] at hafter
    refine ⟨⟨outside, hrun ▸ htables⟩, outside_dispatch location receipt.observation mid ▸ hgrows, ?_, ?_⟩
    · rintro _ ⟨⟩
      exact hdb ▸ hkept.stored
    · rintro _ ⟨⟩
      exact observedAt_receive hreceive

end Waterway
