import Waterway.Proofs.Database.Latest
import Waterway.Proofs.Ingest.Failure
import Waterway.Proofs.Ingest.Receipts
import Waterway.Proofs.Ingest.Station
import Waterway.Reading.Snapshot

/-!
# Live and stored views

What a device is answered, what subscribers are sent, what the worker is handed and what the store has afterwards are
derived at different places. For a reading that is the newest of its device they are the same.

## Main definitions

- `Receipt.Stored` — the reading has become a row
- `Receipt.Newest` — it is the greatest by time and then by key among those of its device
- `Receipt.Kept` — what becomes of such a reading

## Main statements

- `kept_receive` — what becomes of a report that is taken in
- `run_snapshot` — the snapshot is put together from what the store has
- `views_agree` — all views of the newest reading are the same
-/

namespace Waterway

namespace Receipt

/-- The reading has become a row of the device at a location, or of the location. -/
def Stored (location : LocationId) (before after : Database) : Receipt → Prop
  | .sensor r => (before.sensors.find? (·.location == location)).map (·.id) = some r.reading.device ∧
      after.sensorReadings = before.sensorReadings ++ [r.reading]
  | .blockage r => (before.cameras.find? (·.location == location)).map (·.id) = some r.reading.device ∧
      after.blockageReadings = before.blockageReadings ++ [r.reading]
  | .weather r => r.reading.location = location ∧ after.weatherReadings = before.weatherReadings ++ [r.reading]

/-- The reading is greater by time and then by key than all others of its device, or of its location. -/
def Newest (before : Database) : Receipt → Prop
  | .sensor r => ∀ other ∈ before.sensorReadings, other.device = r.reading.device →
      Precedes (·.timestamp) (·.id) other r.reading
  | .blockage r => ∀ other ∈ before.blockageReadings, other.device = r.reading.device →
      Precedes (·.timestamp) (·.id) other r.reading
  | .weather r => ∀ other ∈ before.weatherReadings, other.location = r.reading.location →
      Precedes (·.createdAt) (·.id) other r.reading

end Receipt

theorem Envelope.kind_forReading (kind : EventKind) (reading : Option (Freshness × Json)) :
    (forReading kind reading).kind = kind := by
  rcases reading with _ | ⟨freshness, payload⟩
  · rfl
  · cases freshness <;> rfl

/-- Actions that change nothing are carried out in one and the same state. -/
theorem run_mapM_of_readsOnly {σ α β : Type} {action : α → StateM σ β} (h : ∀ a, ReadsOnly (action a)) (as : List α)
    (s : σ) : (as.mapM action).run s = (as.map fun a => ((action a).run s).1, s) := by
  induction as with
  | nil => rfl
  | cons a as ih =>
    have hfirst : (action a).run s = (((action a).run s).1, s) := Prod.ext rfl (h a s)
    rw [List.mapM_cons, StateT.run_bind, hfirst]
    show (as.mapM action >>= fun bs => pure (((action a).run s).1 :: bs)).run s = _
    rw [StateT.run_bind, ih]
    rfl

namespace DatabaseSource

variable {db : Database}

/-- The snapshot is put together from what the store has. -/
theorem run_snapshot (devices : Devices) (windows : Windows) (now : Instant) (db : Database) :
    (snapshot store devices windows now).run db =
      (Source.all.map fun source => snapshotEnvelope windows source now ((store.latest devices source).run db).1,
        db) := by
  refine run_mapM_of_readsOnly (fun source => ?_) Source.all db
  exact (readsOnly_latest devices source).bind fun _ => .pure _

/-- What is sent to a new subscriber about a feed whose latest reading is fresh. -/
theorem snapshot_of_fresh {devices : Devices} {windows : Windows} {now : Instant} {o : Observation Float}
    (hlatest : (store.latest devices o.source).run db = (.ok (some o), db))
    (hfresh : now.since o.observedAt ≤ (windows.of o.source).grace) :
    ∃ envelopes, (snapshot store devices windows now).run db = (envelopes, db) ∧
      envelopes.filter (·.kind = .ofSource o.source) = [Envelope.ofObservation o] := by
  let envelope (source : Source) : Envelope :=
    snapshotEnvelope windows source now ((store.latest devices source).run db).1
  have hkind (source : Source) : (envelope source).kind = .ofSource source := Envelope.kind_forReading _ _
  have hown : envelope o.source = Envelope.ofObservation o := by
    have hgrade : (windows.of o.source).classify o.observedAt now = .fresh := if_pos hfresh
    show snapshotEnvelope windows o.source now ((store.latest devices o.source).run db).1 = _
    rw [hlatest, snapshotEnvelope, Windows.reading, hgrade]
    rfl
  have hsingle (x : Source) : Source.all.filter (fun source => EventKind.ofSource source = .ofSource x) = [x] := by
    cases x <;> rfl
  refine ⟨_, run_snapshot devices windows now db, ?_⟩
  show (Source.all.map envelope).filter _ = _
  rw [List.filter_map, Function.comp_def]
  simp only [hkind]
  rw [hsingle, List.map_singleton, hown]

end DatabaseSource

/-- The reading of a receipt has been stored and dispatched, and the store then has it if it is the newest. -/
structure Receipt.Kept (receipt : Receipt) (location : LocationId) (e : Engine Database) (db : Database)
    (after : Engine Database) : Prop where
  stored : receipt.Stored location e.outside db
  dispatched :
    after = ((dispatch DatabaseSource.backend location receipt.observation).run { e with outside := db }).2
  latest : (∀ s, e.outside.fault s = none) → (e.outside.sensors.map (·.id)).Nodup → receipt.Newest e.outside →
    (DatabaseSource.store.ask receipt.observation.source receipt.key).run db = (.ok (some receipt.observation), db)

section

variable {now : Instant} {location : LocationId} {e after : Engine Database}

theorem SensorIntake.kept {r : SensorReport} {receipt : SensorReceipt}
    (h : SensorIntake now location r e (.ok receipt) after) :
    ∃ db, (Receipt.sensor receipt).Kept location e db after := by
  cases h with
  | @taken device config row db previous _ hstorable htouch hprevious hrow hdb hlatest hafter =>
    have hdevice : row.device = device.id := by rw [hrow]; rfl
    refine ⟨db, ⟨?_, by rw [hdb]; rfl⟩, hafter, fun hfault hkeys hnewest => ?_⟩
    · rw [hstorable.found]
      exact congrArg some hdevice.symm
    · have hnew : latestOf (·.timestamp) (·.id) (db.sensorReadings.filter (·.device == row.device)) = some row := by
        rw [hdb]
        exact latestOf_owned_concat hnewest
      -- touching the sensor has not changed its calibration
      have hsensor : (db.sensors.find? (·.id == row.device)).map (·.config) = some (.ok config) := by
        have hmem := List.mem_of_find?_eq_some hstorable.found
        rw [hdb, Database.map_find?_withTouch (fun _ _ => rfl) (fun _ _ => rfl), hdevice]
        show (e.outside.sensors.find? (·.id == device.id)).map (·.config) = _
        rw [find?_of_mem hkeys hmem, Option.map_some, hstorable.config]
      obtain ⟨sensor, hfound, hconfig⟩ := Option.map_eq_some_iff.mp hsensor
      have hfault : ∀ s, db.fault s = none := by rw [hdb]; exact hfault
      rw [← hdevice] at hlatest
      have hstore := DatabaseSource.run_latestWaterLevel hfault hnew hfound hconfig hlatest
      show ((DatabaseSource.latestWaterLevel row.device).run >>= _).run db = _
      rw [StateT.run_bind, hstore]
      rfl

theorem BlockageIntake.kept {r : BlockageReport} {receipt : BlockageReceipt}
    (h : BlockageIntake now location r e (.ok receipt) after) :
    ∃ db, (Receipt.blockage receipt).Kept location e db after := by
  cases h with
  | @taken camera row status _ hstorable hrow hstatus hafter =>
    refine ⟨e.outside.withBlockageReading row, ⟨?_, rfl⟩, hafter, fun hfault _ hnewest => ?_⟩
    · rw [hstorable.found, hrow]
      rfl
    · have hnew : latestOf (·.timestamp) (·.id)
          ((e.outside.withBlockageReading row).blockageReadings.filter (·.device == row.device)) = some row :=
        latestOf_owned_concat hnewest
      have hfault : ∀ s, (e.outside.withBlockageReading row).fault s = none := hfault
      have hstore := DatabaseSource.run_latestBlockage hfault hnew hstatus
      show ((DatabaseSource.latestBlockage row.device).run >>= _).run _ = _
      rw [StateT.run_bind, hstore]
      rfl

theorem WeatherIntake.kept {r : WeatherReport} {receipt : WeatherReceipt}
    (h : WeatherIntake location r e (.ok receipt) after) :
    ∃ db, (Receipt.weather receipt).Kept location e db after := by
  cases h with
  | @taken site row _ hstorable hrow hafter =>
    have hlocation : row.location = location := by rw [hrow]; rfl
    refine ⟨e.outside.withWeatherReading row, ⟨hlocation, rfl⟩, hafter, fun hfault _ hnewest => ?_⟩
    have hnew : latestOf (·.createdAt) (·.id)
        ((e.outside.withWeatherReading row).weatherReadings.filter (·.location == row.location)) = some row :=
      latestOf_owned_concat hnewest
    have hfault : ∀ s, (e.outside.withWeatherReading row).fault s = none := hfault
    have hstore := DatabaseSource.run_latestWeather hfault hnew
    show ((DatabaseSource.latestWeather row.location).run >>= _).run _ = _
    rw [StateT.run_bind, hstore]
    rfl

/-- What becomes of a report that is taken in. -/
theorem kept_receive {report : Report} {receipt : Receipt}
    (h : (receive DatabaseSource.backend now location report).run.run e = (.ok receipt, after)) :
    ∃ db, receipt.Kept location e db after := by
  cases report with
  | sensor r =>
    obtain ⟨receipt, hrun, rfl⟩ := Intake.exists_of_run_map h
    exact SensorIntake.kept (hrun ▸ sensorIntake_ingestSensor now location r e)
  | blockage r =>
    obtain ⟨receipt, hrun, rfl⟩ := Intake.exists_of_run_map h
    exact BlockageIntake.kept (hrun ▸ blockageIntake_ingestBlockage now location r e)
  | weather r =>
    obtain ⟨receipt, hrun, rfl⟩ := Intake.exists_of_run_map h
    exact WeatherIntake.kept (hrun ▸ weatherIntake_ingestWeather location r e)

end

/-- The status that a request for something new is answered with is the one that the envelope for the subscribers of
its location carries, and the one that the worker is handed. If the new reading is the newest of its device, or of its
location, the store has this status as the latest from then on; and a client to whom the same device is mapped finds in
its snapshot, as long as the reading is fresh, the text that the subscribers were sent. -/
theorem views_agree (origins : Http.OriginPolicy) (now : Instant) (request : Http.Request) {e after : Engine Database}
    {reply : Http.Reply} (hfault : ∀ s, e.outside.fault s = none) (hkeys : (e.outside.sensors.map (·.id)).Nodup)
    (hrun : ((⟨DatabaseSource.backend, origins⟩ : Http.Service Database).handle now request).run e = (reply, after))
    (hcreated : reply.response.status = 201) :
    ∃ location receipt db,
      let o : Observation Float := Receipt.observation receipt
      let stored : Engine Database := { e with outside := db }
      request.location? = some location ∧ receipt.Stored location e.outside db ∧
      reply.response.content = .json (.record [("data", receipt.toJson)]) ∧
      receipt.toJson.field? "status" = some o.toJson ∧ (Envelope.ofObservation o).payload = some o.toJson ∧
      after = ((Engine.update DatabaseSource.surroundings location o).run
        ((Engine.announce DatabaseSource.surroundings location (Envelope.ofObservation o).text
          stored.sendTimeout).run stored).2).2 ∧
      (receipt.Newest e.outside →
        (DatabaseSource.store.ask o.source receipt.key).run after.outside = (.ok (some o), after.outside) ∧
        ∀ (devices : Devices) (windows : Windows) (later : Instant), devices.key o.source = some receipt.key →
          later.since o.observedAt ≤ (windows.of o.source).grace →
          ∃ envelopes, (snapshot DatabaseSource.store devices windows later).run after.outside =
              (envelopes, after.outside) ∧
            (envelopes.filter (·.kind = .ofSource o.source)).map Envelope.text =
              [(Envelope.ofObservation o).text]) := by
  have hstatus : (((⟨DatabaseSource.backend, origins⟩ : Http.Service Database).handle now request).run
      e).1.response.status = 201 := by
    rw [hrun]
    exact hcreated
  obtain ⟨location, report, receipt, done, hlocation, htaken, hcontent, hdone⟩ := Http.Service.created_handle hstatus
  rw [hrun] at hcontent hdone
  obtain ⟨db, hkept⟩ := kept_receive htaken
  have hafter : after = ((dispatch DatabaseSource.backend location receipt.observation).run
      { e with outside := db }).2 := Eq.trans hdone hkept.dispatched
  have hdb : after.outside = db := by rw [hafter, outside_dispatch]
  have hanswered := receipt.field?_status
  refine ⟨location, receipt, db, hlocation, hkept.stored, hcontent, hanswered, rfl, hafter, fun hnewest => ?_⟩
  have hasked := hkept.latest hfault hkeys hnewest
  rw [hdb]
  refine ⟨hasked, fun devices windows later hkey hfresh => ?_⟩
  have hlatest : (DatabaseSource.store.latest devices receipt.observation.source).run db =
      (.ok (some receipt.observation), db) := by
    rw [ReadingStore.latest, hkey]
    exact hasked
  obtain ⟨envelopes, hsnapshot, hsingle⟩ := DatabaseSource.snapshot_of_fresh hlatest hfresh
  exact ⟨envelopes, hsnapshot, by rw [hsingle, List.map_singleton]⟩

/-- Rain is reported over the web. -/
def rainReport : Http.Request where
  method := "POST"
  target := "/api/v1/locations/7/weather"
  headers := [("content-type", "application/json")]
  body := "\x7b\"precipitation_mm\":2.5,\"weather_code\":61\x7d"

/-- What comes of it. -/
def rainReported : Http.Reply × Engine Database :=
  ((⟨DatabaseSource.backend, ⟨[]⟩⟩ : Http.Service Database).handle .year2000 rainReport).run
    { registry := {}, outside := weir [] }

/-- The status in the response is the latest that the store has, and a client that comes at the time of the observation
gets the text that has been sent about it. -/
theorem views_agree_rain : ∃ receipt : WeatherReceipt,
    rainReported.1.response.content = .json (.record [("data", receipt.toJson)]) ∧
      (DatabaseSource.store.ask .weather 7).run rainReported.2.outside =
        (.ok (some (.weather receipt.status)), rainReported.2.outside) ∧
      ∃ envelopes, (snapshot DatabaseSource.store ⟨7, "Weir", some 1, some 2⟩ {} receipt.status.observedAt).run
          rainReported.2.outside = (envelopes, rainReported.2.outside) ∧
        (envelopes.filter (·.kind = .weatherUpdate)).map Envelope.text =
          [(Envelope.ofObservation (.weather receipt.status)).text] := by
  have hrun : ((⟨DatabaseSource.backend, ⟨[]⟩⟩ : Http.Service Database).handle .year2000 rainReport).run
      { registry := {}, outside := weir [] } = (rainReported.1, rainReported.2) := rfl
  obtain ⟨location, receipt, db, hlocation, hstored, hcontent, -, -, -, hviews⟩ :=
    views_agree ⟨[]⟩ .year2000 rainReport (fun _ => rfl) (by decide) hrun (by decide +kernel)
  obtain rfl : location = 7 := by
    have hpath : rainReport.location? = some 7 := by decide +kernel
    exact Option.some_inj.mp (hlocation.symm.trans hpath)
  -- only the weather feed is answered with a description
  have hdescribed : (match rainReported.1.response.content with
      | .json v => (v.field? "data").bind (·.field? "description")
      | _ => none).isSome := by decide +kernel
  rw [hcontent] at hdescribed
  cases receipt with
  | sensor r => cases hdescribed
  | blockage r => cases hdescribed
  | weather r =>
    obtain ⟨hstore, hsnapshot⟩ := hviews fun _ h => absurd h List.not_mem_nil
    have hkey : r.reading.location = 7 := hstored.1
    have hnow : r.status.observedAt.since r.status.observedAt = 0 := by simp [Instant.since, Instant.leapAdjustment]
    refine ⟨r, hcontent, hkey ▸ hstore, ?_⟩
    refine hsnapshot ⟨7, "Weir", some 1, some 2⟩ {} r.status.observedAt (congrArg some hkey.symm) ?_
    show r.status.observedAt.since r.status.observedAt ≤ 65 * minute
    rw [hnow]
    decide

end Waterway
