import Waterway.Proofs.Ingest.Intake
import Waterway.Proofs.Registry.Scheduling

/-!
# Requests that fail

A request that is answered with an error has changed nothing, with one exception: a sensor's reading that has
been stored stays when the sensor cannot be touched, or the reading before it cannot be had. In that case, too,
no subscriber and no worker has heard of it.

## Main definitions

- `Report.Storable` — a request gets as far as storing its reading
- `Report.Stranded` — the exception
- `Database.readingCount` — how many readings are stored

## Main statements

- `ingest_cases` — a request is refused, is stranded, or is taken and stores one reading
- `ingest_failed` — what a failed request leaves behind, and what comes of another try
- `ingest_stores_twice` — a stranded reading is stored again when the sensor tries again
-/

namespace Waterway

open Engine

/-- How many readings are stored. -/
def Database.readingCount (db : Database) : Nat :=
  db.sensorReadings.length + db.blockageReadings.length + db.weatherReadings.length

section

variable (db : Database)

theorem readingCount_withSensorReading (row : SensorReading) :
    (db.withSensorReading row).readingCount = db.readingCount + 1 := by
  simp only [Database.readingCount, Database.withSensorReading, List.length_append, List.length_singleton]
  omega

theorem readingCount_withBlockageReading (row : BlockageReading) :
    (db.withBlockageReading row).readingCount = db.readingCount + 1 := by
  simp only [Database.readingCount, Database.withBlockageReading, List.length_append, List.length_singleton]
  omega

theorem readingCount_withWeatherReading (row : WeatherReading) :
    (db.withWeatherReading row).readingCount = db.readingCount + 1 := by
  simp only [Database.readingCount, Database.withWeatherReading, List.length_append, List.length_singleton]
  omega

end

/-- A request gets as far as storing its reading. -/
def Report.Storable (location : LocationId) (db : Database) : Report → Prop
  | .sensor r => ∃ device config, r.Storable location db device config
  | .blockage r => ∃ camera, r.Storable location db camera
  | .weather r => ∃ site, r.Storable location db site

/-- A sensor's reading is stored, but a statement that comes after that fails. -/
def Report.Stranded (location : LocationId) (db : Database) : Report → Prop
  | .sensor r => Report.Storable location db (.sensor r) ∧
      ∃ error, db.fault .touch = some error ∨ db.fault .previousSensorReading = some error
  | .blockage _ => False
  | .weather _ => False

/-- Nothing that the engine does of its own accord changes the tables. -/
theorem DatabaseSource.steady_outside (db : Database) :
    Steady surroundings fun e => e.outside = db where
  work w e he := by
    have hworked := worked_work surroundings w false e
    exact (hworked.outside_eq fun _ => readsOnly_thresholds e.outside).trans he
  elsewhere _ _ _ he := he

theorem outside_dispatch (location : LocationId) (o : Observation Float) (e : Engine Database) :
    ((dispatch DatabaseSource.backend location o).run e).2.outside = e.outside := by
  have hsteady := DatabaseSource.steady_outside e.outside
  have hkeeps : Keeps (fun e' : Engine Database => e'.outside = e.outside)
      (dispatch DatabaseSource.backend location o) :=
    .get_bind fun e' => .bind (hsteady.announce _ _ _) fun _ =>
      .bind (hsteady.update (fun _ _ _ he => he) _ _) fun _ => .pure _
  exact hkeeps e rfl

theorem Report.Stranded.storable {location : LocationId} {db : Database} {report : Report}
    (h : report.Stranded location db) : report.Storable location db := by
  cases report with
  | sensor r => exact h.1
  | blockage r => exact h.elim
  | weather r => exact h.elim

/-- A request is refused and changes nothing, is stranded, or is taken and stores one reading. -/
theorem ingest_cases (now : Instant) (location : LocationId) (report : Report) (e : Engine Database) :
    (¬report.Storable location e.outside ∧ ∃ error, attempt now location report e = (.error error, e)) ∨
    (report.Stranded location e.outside ∧ ∃ error row db,
      attempt now location report e = (.error (.database error), { e with outside := db }) ∧
      db.sensorReadings = e.outside.sensorReadings ++ [row] ∧
      db.blockageReadings = e.outside.blockageReadings ∧ db.weatherReadings = e.outside.weatherReadings) ∨
    (report.Storable location e.outside ∧ ¬report.Stranded location e.outside ∧ ∃ after,
      attempt now location report e = (.ok (), after) ∧
      after.outside.readingCount = e.outside.readingCount + 1) := by
  cases report with
  | sensor r =>
    -- the only feed for which statements come after the one that stores the reading
    rcases hrun : (ingestSensor DatabaseSource.backend now location r).run.run e with ⟨result, after⟩
    have hintake : SensorIntake now location r e result after := by
      simpa only [hrun] using sensorIntake_ingestSensor now location r e
    cases hintake with
    | @refused error hnot =>
      exact .inl ⟨fun ⟨device, config, h⟩ => hnot device config h, error, run_bind_error hrun⟩
    | @untouched device config error hstorable htouch =>
      exact .inr (.inl ⟨⟨⟨device, config, hstorable⟩, error, .inl htouch⟩, error, _, _,
        run_bind_error hrun, rfl, rfl, rfl⟩)
    | @unrated device config error hstorable htouch hprevious =>
      exact .inr (.inl ⟨⟨⟨device, config, hstorable⟩, error, .inr hprevious⟩, error, _, _,
        run_bind_error hrun, rfl, rfl, rfl⟩)
    | @taken device config row db previous _ hstorable htouch hprevious hrow hdb hlatest hafter =>
      refine .inr (.inr ⟨⟨device, config, hstorable⟩, ?_, after, run_bind_ok hrun, ?_⟩)
      · rintro ⟨-, error, hfault | hfault⟩
        · exact nomatch htouch.symm.trans hfault
        · exact nomatch hprevious.symm.trans hfault
      · rw [hafter, outside_dispatch, hdb]
        exact readingCount_withSensorReading _ row
  | blockage r =>
    rcases hrun : (ingestBlockage DatabaseSource.backend now location r).run.run e with ⟨result, after⟩
    have hintake : BlockageIntake now location r e result after := by
      simpa only [hrun] using blockageIntake_ingestBlockage now location r e
    cases hintake with
    | @refused error hnot =>
      exact .inl ⟨fun ⟨camera, h⟩ => hnot camera h, error, run_bind_error hrun⟩
    | @taken camera row status _ hstorable hrow hstatus hafter =>
      refine .inr (.inr ⟨⟨camera, hstorable⟩, id, after, run_bind_ok hrun, ?_⟩)
      rw [hafter, outside_dispatch]
      exact readingCount_withBlockageReading _ row
  | weather r =>
    rcases hrun : (ingestWeather DatabaseSource.backend location r).run.run e with ⟨result, after⟩
    have hintake : WeatherIntake location r e result after := by
      simpa only [hrun] using weatherIntake_ingestWeather location r e
    cases hintake with
    | @refused error hnot =>
      exact .inl ⟨fun ⟨site, h⟩ => hnot site h, error, run_bind_error hrun⟩
    | @taken site row _ hstorable hrow hafter =>
      refine .inr (.inr ⟨⟨site, hstorable⟩, id, after, run_bind_ok hrun, ?_⟩)
      rw [hafter, outside_dispatch]
      exact readingCount_withWeatherReading _ row

/-- Unless a reading is stranded, a request that fails has changed nothing, and another try that succeeds
stores its reading once. A stranded reading is stored, but neither a subscriber nor a worker hears of it. -/
theorem ingest_failed (now : Instant) (location : LocationId) (report : Report) (e : Engine Database) :
    (¬report.Stranded location e.outside → ∀ error after,
      attempt now location report e = (.error error, after) →
        after = e ∧ ∀ (later : Engine Database) (then' : Instant) (done : Engine Database),
          later.outside.readingCount = after.outside.readingCount →
          attempt then' location report later = (.ok (), done) →
          done.outside.readingCount = e.outside.readingCount + 1) ∧
    (report.Stranded location e.outside → ∃ error row db,
      attempt now location report e = (.error (.database error), { e with outside := db }) ∧
      db.sensorReadings = e.outside.sensorReadings ++ [row] ∧
      db.blockageReadings = e.outside.blockageReadings ∧
      db.weatherReadings = e.outside.weatherReadings) := by
  constructor
  · intro hnot error after hrun
    have hsame : after = e := by
      rcases ingest_cases now location report e with ⟨-, refusal, hrefused⟩ | ⟨hstranded, -⟩ |
        ⟨-, -, taken, htaken, -⟩
      · exact (congrArg Prod.snd (hrun.symm.trans hrefused))
      · exact absurd hstranded hnot
      · exact nomatch congrArg Prod.fst (hrun.symm.trans htaken)
    refine ⟨hsame, fun later then' done hcount hdone => ?_⟩
    rcases ingest_cases then' location report later with ⟨-, refusal, hrefused⟩ |
      ⟨-, failure, row, db, hfailed, -⟩ | ⟨-, -, taken, htaken, hstored⟩
    · exact nomatch congrArg Prod.fst (hdone.symm.trans hrefused)
    · exact nomatch congrArg Prod.fst (hdone.symm.trans hfailed)
    · have hdone : done = taken := congrArg Prod.snd (hdone.symm.trans htaken)
      rw [hdone, hstored, hcount, hsame]
  · intro hstranded
    rcases ingest_cases now location report e with ⟨hnot, -⟩ | ⟨-, hfailed⟩ | ⟨-, hnot, -⟩
    · exact absurd hstranded.storable hnot
    · exact hfailed
    · exact absurd hstranded hnot

/-- A sensor whose place in the database cannot be looked up gets an error, and its reading is stored once when
it tries again. If it cannot be touched, its reading is stored already. -/
theorem ingest_failed_weir :
    (∃ error after, attempt .year2000 7 distanceReport
        { registry := {}, outside := weir [(.locationSensor, .io)] } = (.error error, after) ∧
      ∀ later then' done, later.outside.readingCount = after.outside.readingCount →
        attempt then' 7 distanceReport later = (.ok (), done) → done.outside.readingCount = 1) ∧
    ∃ error row db, attempt .year2000 7 distanceReport
        { registry := {}, outside := weir [(.touch, .io)] } =
          (.error (.database error), { registry := {}, outside := db }) ∧ db.sensorReadings = [row] := by
  have hnot : ¬distanceReport.Stranded 7 (weir [(.locationSensor, .io)]) := by
    rintro ⟨⟨device, config, h⟩, -⟩
    exact nomatch h.lookup
  have hstranded : distanceReport.Stranded 7 (weir [(.touch, .io)]) :=
    ⟨⟨gauge, ⟨300, 200, 250⟩, rfl, rfl, rfl, rfl, rfl⟩, .io, .inl rfl⟩
  constructor
  · let e : Engine Database := { registry := {}, outside := weir [(.locationSensor, .io)] }
    have hrun : attempt .year2000 7 distanceReport e = (.error (.database .io), e) := rfl
    obtain ⟨-, hagain⟩ := (ingest_failed .year2000 7 distanceReport e).1 hnot _ _ hrun
    exact ⟨_, e, hrun, hagain⟩
  · obtain ⟨error, row, db, hrun, hrows, -⟩ := (ingest_failed .year2000 7 distanceReport
      { registry := {}, outside := weir [(.touch, .io)] }).2 hstranded
    exact ⟨error, row, db, hrun, hrows⟩

/-- A sensor that cannot be touched gets an error, but its reading has been stored. When it tries again, the
reading is stored once more. -/
theorem ingest_stores_twice :
    ∃ error after done, attempt .year2000 7 distanceReport
        { registry := {}, outside := weir [(.touch, .io)] } = (.error error, after) ∧
      after.outside.readingCount = 1 ∧
      attempt .year2000 7 distanceReport { after with outside := { after.outside with failures := [] } } =
        (.ok (), done) ∧
      done.outside.readingCount = 2 := by
  let stored := (weir [(.touch, .io)]).withSensorReading ⟨1, 1, 170, 130, .year2000, .year2000⟩
  let after : Engine Database := { registry := {}, outside := stored }
  have hfirst : attempt .year2000 7 distanceReport { registry := {}, outside := weir [(.touch, .io)] } =
      (.error (.database .io), after) := rfl
  let cured : Engine Database := { after with outside := { stored with failures := [] } }
  have hstorable : distanceReport.Storable 7 cured.outside :=
    ⟨gauge, ⟨300, 200, 250⟩, rfl, rfl, rfl, rfl, rfl⟩
  rcases ingest_cases .year2000 7 distanceReport cured with ⟨hnot, -⟩ | ⟨⟨-, error, hfault⟩, -⟩ |
    ⟨-, -, done, hdone, hcount⟩
  · exact absurd hstorable hnot
  · exact hfault.elim (fun h => nomatch h) (fun h => nomatch h)
  · exact ⟨_, after, done, hfirst, rfl, hdone, hcount⟩

end Waterway
