import Waterway.Proofs.Ingest.Station
import Waterway.Proofs.Registry.Scheduling
import Waterway.Proofs.Registry.Serialisation

/-!
# Starting again

A site that has been set up takes requests in, one after the other, while its worker goes about its work.
Whatever happens in between, a worker that starts again from the tables has the state that the present one
has when its queue is empty.

## Main definitions

- `Database.SetUp` — a site with its devices and no readings yet
- `Event`, `Engine.occur` — what can happen at a site
- `Tended` — a site is served, and the thresholds can always be had
- `Abreast` — what got into the queue of a site amounts to what is stored

## Main statements

- `Abreast.occur` — whatever happens, the queue stays abreast of the tables
- `recovered` — a worker that starts again has the state of the present one

## Design notes

Requests that are refused may be among the others; they store nothing and hand nothing in.
-/

namespace Waterway

open Engine

/-- A site with its devices, before any reading is stored. Thresholds are set, and no statement fails. -/
structure Database.SetUp (db : Database) (st : Station) : Prop where
  constrained : db.Constrained
  fault : ∀ s, db.fault s = none
  thresholds : (DatabaseSource.thresholds.run.run db).1 = .ok st.thresholds
  site : ∃ site ∈ db.locations, site.id = st.location ∧ site.name = st.name
  sensor : ∃ sensor ∈ db.sensors,
    sensor.location = st.location ∧ sensor.id = st.sensor ∧ sensor.config = .ok st.calibration
  camera : ∃ camera ∈ db.cameras, camera.location = st.location ∧ camera.id = st.camera
  sensorReadings : db.sensorReadings = []
  blockageReadings : db.blockageReadings = []
  weatherReadings : db.weatherReadings = []

namespace Database.SetUp

variable {db : Database} {st : Station}

theorem hosts (h : db.SetUp st) : db.Hosts st := by
  obtain ⟨sensor, hsensor, hsite, hsensorId, hconfig⟩ := h.sensor
  obtain ⟨camera, hcamera, hcameraSite, hcameraId⟩ := h.camera
  refine ⟨h.fault, h.thresholds, ?_, ?_, ?_, ?_, ?_, ?_, ?_, ?_, ?_, ?_⟩
  · rw [← hsite, find?_of_mem h.constrained.sensorSites hsensor, Option.map_some, hsensorId, hconfig]
  · rw [← hsensorId, find?_of_mem h.constrained.sensors hsensor, Option.map_some, hconfig]
  · rw [← hcameraSite, find?_of_mem h.constrained.cameraSites hcamera, Option.map_some, hcameraId]
  · simp [h.sensorReadings]
  · simp [h.blockageReadings]
  · simp [h.weatherReadings]
  · simp [h.blockageReadings]
  · simp [h.sensorReadings]
  · simp [h.blockageReadings]
  · simp [h.weatherReadings]

theorem evidence_eq (h : db.SetUp st) : db.evidence st = {} := by
  simp [Database.evidence, h.sensorReadings, h.blockageReadings, h.weatherReadings]

theorem timesAscend (h : db.SetUp st) : db.TimesAscend := by
  refine ⟨?_, ?_, ?_⟩
  · simp [h.sensorReadings]
  · simp [h.blockageReadings]
  · simp [h.weatherReadings]

theorem fresh (h : db.SetUp st) (windows : Windows) (now : Instant) : db.Fresh windows now := by
  refine ⟨?_, ?_, ?_⟩
  · simp [h.sensorReadings]
  · simp [h.blockageReadings]
  · simp [h.weatherReadings]

theorem exists_listed (h : db.SetUp st) : ∃ site ∈ db.locations, db.listed site = st.devices := by
  obtain ⟨site, hmem, hid, hname⟩ := h.site
  have hsensor : (db.sensors.find? (·.location == st.location)).map (·.id) = some st.sensor := by
    have hboth := congrArg (Option.map Prod.fst) h.hosts.sensor
    rwa [Option.map_map] at hboth
  refine ⟨site, hmem, ?_⟩
  rw [Database.listed, hid, hname, hsensor, h.hosts.camera]
  rfl

end Database.SetUp

/-- What can happen at a site that is served. -/
inductive Event where
  /-- A device or a feed reports at the instant `now`. -/
  | request (now : Instant) (report : Report)
  /-- A worker, of this or of another site, does the next thing that it has to do. If it has been told to stop it may
  linger before it does. -/
  | work (w : WorkerId) (lingers : Bool := false)
  /-- Something happens to the subscribers, or time passes. -/
  | elsewhere (timeline : Timeline) (woken : List WorkerId) (now : Instant)

/-- What becomes of the engine when something happens at a site. -/
def Engine.occur (location : LocationId) (e : Engine Database) : Event → Engine Database
  | .request now report => (attempt now location report e).2
  | .work w lingers => ((work DatabaseSource.surroundings w lingers).run e).2
  | .elsewhere timeline woken now => { e with timeline, woken, outside := { e.outside with now } }

/-- A site is served by its present worker while the tables are those of `db`, and the thresholds could be had for every
command. -/
structure Tended (st : Station) (w : WorkerId) (site : Site Float) (earlier : List (Analysis Float))
    (accepted : List Command) (db : Database) (e : Engine Database) : Prop where
  outside : e.outside = db
  location : w.location = st.location
  employs : e.registry.employs w
  serving : ∃ handled lane, lane.isCancelled = false ∧ Serving w (.start site) earlier accepted handled [] lane e ∧
    ∀ h ∈ handled, h.thresholds = .ok st.thresholds

namespace Tended

variable {st : Station} {w : WorkerId} {site : Site Float} {earlier : List (Analysis Float)} {accepted : List Command}
  {db : Database} {e : Engine Database}

theorem of_untouched (h : Tended st w site earlier accepted db e) {after : Engine Database} {db' : Database}
    (hregistry : after.registry = e.registry) (hsame : Untouched w e after) (hdb : after.outside = db') :
    Tended st w site earlier accepted db' after := by
  obtain ⟨handled, lane, hkept, hserving, hthresholds⟩ := h.serving
  exact ⟨hdb, h.location, hregistry ▸ h.employs, handled, lane, hkept, hserving.of_untouched hsame, hthresholds⟩

theorem work (h : Tended st w site earlier accepted db e) (hhosts : db.Hosts st) (v : WorkerId) (lingers : Bool) :
    Tended st w site earlier accepted db ((Engine.work DatabaseSource.surroundings v lingers).run e).2 := by
  have hworked := worked_work DatabaseSource.surroundings v lingers e
  have houtside := (hworked.outside_eq fun _ => DatabaseSource.readsOnly_thresholds e.outside).trans h.outside
  obtain ⟨handled, lane, hkept, hserving, hthresholds⟩ := h.serving
  obtain ⟨refused, lane', -, hcancelled, hserving⟩ := (hworked.carries w).serving hserving
  rw [hkept] at hcancelled
  obtain rfl := hserving.refused_eq_nil hcancelled
  rw [List.append_nil] at hserving
  refine ⟨houtside, h.location, (hworked.agrees.employs_iff rfl).mpr h.employs, _, lane', hcancelled, hserving,
    fun k hk => ?_⟩
  rcases List.mem_append.mp hk with hearlier | hnew
  · exact hthresholds k hearlier
  · have hsome : k ∈ if v = w then e.handling DatabaseSource.surroundings w lingers else none := by simpa using hnew
    split at hsome
    · obtain ⟨_, -, -, -, hk⟩ := exists_of_handling hsome
      rw [hk, h.outside]
      exact hhosts.thresholds
    · cases hsome

/-- Nothing that the engine does of its own accord leaves a site untended. -/
theorem steady (hhosts : db.Hosts st) :
    Steady DatabaseSource.surroundings (Tended st w site earlier accepted db) where
  work v _ h := h.work hhosts v false
  elsewhere _ _ _ h := h.of_untouched rfl ⟨rfl, rfl, List.prefix_rfl⟩ h.outside

/-- An observation that is handed in comes last in the queue. -/
theorem update (h : Tended st w site earlier accepted db e) (hhosts : db.Hosts st) (o : Observation Float) :
    Tended st w site earlier (accepted ++ [⟨o, none⟩]) db
      ((Engine.update DatabaseSource.surroundings st.location o).run e).2 := by
  obtain ⟨hcontains, hlatest⟩ := Registry.employs_iff.mp h.employs
  have hresolve := run_resolve_of_contains hcontains
  rw [← hlatest, h.location] at hresolve
  -- while the caller waits for room, workers go about their work
  let waited := ((awaitRoom DatabaseSource.surroundings w).run e).2
  have hwaited : Tended st w site earlier accepted db waited := (steady hhosts).awaitRoom w e h
  have hrun : ((Engine.update DatabaseSource.surroundings st.location o).run e).2 =
      ((enqueue w ⟨o, none⟩).run waited).2 := by
    rw [Engine.update, StateT.run_bind, hresolve]
    rfl
  obtain ⟨handled, lane, hkept, hserving, hthresholds⟩ := hwaited.serving
  rcases run_enqueue w ⟨o, none⟩ waited with ⟨_, woken, hlane, haccepting, henqueue⟩ | ⟨hnone, -⟩
  · rw [hrun, henqueue]
    have hentered := @Entered.entered _ w ⟨o, none⟩ waited _ woken hlane haccepting
    obtain ⟨lane', -, hcancelled, hserving⟩ := hserving.entered hentered
    rw [Progress.entry_ofEntry, Option.toList_some] at hserving
    exact ⟨hwaited.outside, h.location, (hentered.agrees.employs_iff rfl).mpr hwaited.employs, handled, lane',
      hcancelled.trans hkept, hserving, hthresholds⟩
  · exact absurd (hserving.isAccepting hkept) (hnone lane hserving.found)

/-- To dispatch an observation is to announce it and to hand it in. -/
theorem dispatch (h : Tended st w site earlier accepted db e) (hhosts : db.Hosts st) (o : Observation Float) :
    Tended st w site earlier (accepted ++ [⟨o, none⟩]) db
      ((Waterway.dispatch DatabaseSource.backend st.location o).run e).2 := by
  let announced := ((announce DatabaseSource.surroundings st.location (Envelope.ofObservation o).text
    e.sendTimeout).run e).2
  have hannounced : Tended st w site earlier accepted db announced :=
    (steady hhosts).announce _ _ _ e h
  exact hannounced.update hhosts o

end Tended

/-- What got into the queue of a site amounts to what the tables say of it. -/
structure Abreast (st : Station) (w : WorkerId) (site : Site Float) (earlier : List (Analysis Float))
    (e : Engine Database) : Prop where
  hosts : e.outside.Hosts st
  queued : ∃ accepted, Tended st w site earlier accepted e.outside e ∧
    (accepted.map Command.observation).foldl Evidence.put site.evidence = e.outside.evidence st

namespace Abreast

variable {st : Station} {w : WorkerId} {site : Site Float} {earlier : List (Analysis Float)} {e : Engine Database}

/-- A reading is stored, and what it amounts to is dispatched. -/
theorem dispatch (h : Abreast st w site earlier e) {db : Database} (hhosts : db.Hosts st)
    {o : Observation Float} (hevidence : db.evidence st = (e.outside.evidence st).put o) :
    Abreast st w site earlier
      ((Waterway.dispatch DatabaseSource.backend st.location o).run { e with outside := db }).2 := by
  obtain ⟨accepted, htended, hqueued⟩ := h.queued
  have hstored : Tended st w site earlier accepted db { e with outside := db } :=
    htended.of_untouched rfl ⟨rfl, rfl, List.prefix_rfl⟩ rfl
  have hdispatched := hstored.dispatch hhosts o
  constructor
  · rw [hdispatched.outside]
    exact hhosts
  · rw [hdispatched.outside]
    refine ⟨_, hdispatched, ?_⟩
    rw [List.map_append, List.foldl_append, hqueued, hevidence]
    rfl

theorem sensorRequest (h : Abreast st w site earlier e) (now : Instant) (r : SensorReport) :
    Abreast st w site earlier ((ingestSensor DatabaseSource.backend now st.location r).run.run e).2 := by
  have hintake := sensorIntake_ingestSensor now st.location r e
  generalize ((ingestSensor DatabaseSource.backend now st.location r).run.run e).1 = result at hintake
  generalize ((ingestSensor DatabaseSource.backend now st.location r).run.run e).2 = after at hintake ⊢
  cases hintake with
  | refused => exact h
  | untouched _ htouch => exact nomatch (h.hosts.fault .touch).symm.trans htouch
  | unrated _ _ hprevious => exact nomatch (h.hosts.fault .previousSensorReading).symm.trans hprevious
  | @taken device config row db previous _ hstorable _ _ hrow hdb hlatest hafter =>
    have hdevice := h.hosts.sensor
    rw [hstorable.found, Option.map_some, hstorable.config] at hdevice
    obtain ⟨hid, hconfig⟩ : device.id = st.sensor ∧ config = st.calibration := by
      simpa using hdevice
    have hhosts : db.Hosts st := by
      rw [hdb]
      refine (h.hosts.withSensorReading ?_ ?_).withTouch device.id
      · rw [hrow]
        exact hid
      · rw [hrow]
        rfl
    -- the reading before it is looked for among the same readings at a later start
    have hprevious : previous = db.readingBefore st.sensor row.timestamp := by
      have hquery : (Query.previousSensorReading device.id row.timestamp).run.run db = _ :=
        Query.run_select_of_none (hhosts.fault _) _
      rw [hlatest, hid] at hquery
      exact Except.ok.inj (congrArg Prod.fst hquery)
    rw [hafter]
    refine h.dispatch hhosts ?_
    have hevidence : db.evidence st = (e.outside.withSensorReading row).evidence st := by
      rw [hdb]
      rfl
    rw [hevidence, Database.evidence_withSensorReading, hprevious, hconfig, hdb]
    rfl

theorem blockageRequest (h : Abreast st w site earlier e) (now : Instant) (r : BlockageReport) :
    Abreast st w site earlier ((ingestBlockage DatabaseSource.backend now st.location r).run.run e).2 := by
  have hintake := blockageIntake_ingestBlockage now st.location r e
  generalize ((ingestBlockage DatabaseSource.backend now st.location r).run.run e).1 = result at hintake
  generalize ((ingestBlockage DatabaseSource.backend now st.location r).run.run e).2 = after at hintake ⊢
  cases hintake with
  | refused => exact h
  | @taken camera row status _ hstorable hrow hstatus hafter =>
    have hcamera := h.hosts.camera
    rw [hstorable.found, Option.map_some, Option.some.injEq] at hcamera
    rw [hafter]
    refine h.dispatch (h.hosts.withBlockageReading ?_ hstatus ?_) ?_
    · rw [hrow]
      exact hcamera
    · rw [hrow]
      rfl
    · exact Database.evidence_withBlockageReading hstatus

theorem weatherRequest (h : Abreast st w site earlier e) (r : WeatherReport) :
    Abreast st w site earlier ((ingestWeather DatabaseSource.backend st.location r).run.run e).2 := by
  have hintake := weatherIntake_ingestWeather st.location r e
  generalize ((ingestWeather DatabaseSource.backend st.location r).run.run e).1 = result at hintake
  generalize ((ingestWeather DatabaseSource.backend st.location r).run.run e).2 = after at hintake ⊢
  cases hintake with
  | refused => exact h
  | @taken _ row _ _ hrow hafter =>
    rw [hafter]
    refine h.dispatch (h.hosts.withWeatherReading ?_ ?_) ?_
    · rw [hrow]
      rfl
    · rw [hrow]
      rfl
    · exact Database.evidence_withWeatherReading row

/-- Whatever happens at a site, its queue stays abreast of the tables. -/
theorem occur (h : Abreast st w site earlier e) (event : Event) :
    Abreast st w site earlier (e.occur st.location event) := by
  obtain ⟨accepted, htended, hqueued⟩ := h.queued
  cases event with
  | request now report =>
    cases report with
    | sensor r =>
      rw [Engine.occur, snd_attempt_sensor]
      exact h.sensorRequest now r
    | blockage r =>
      rw [Engine.occur, snd_attempt_blockage]
      exact h.blockageRequest now r
    | weather r =>
      rw [Engine.occur, snd_attempt_weather]
      exact h.weatherRequest r
  | work v lingers =>
    have hworked := htended.work h.hosts v lingers
    constructor
    · rw [Engine.occur, hworked.outside]
      exact h.hosts
    · rw [Engine.occur, hworked.outside]
      exact ⟨accepted, hworked, hqueued⟩
  | elsewhere timeline woken now =>
    exact ⟨h.hosts.withNow now, accepted,
      htended.of_untouched rfl ⟨rfl, rfl, List.prefix_rfl⟩ rfl, hqueued⟩

theorem run (h : Abreast st w site earlier e) (events : List Event) :
    Abreast st w site earlier (events.foldl (Engine.occur st.location) e) := by
  induction events generalizing e with
  | nil => exact h
  | cons event events ih => exact ih (h.occur event)

end Abreast

/-- A worker that starts again from the tables has the state that the present one has once it has handled all
that got into its queue, if the times of the readings do not go back and the last ones are fresh. -/
theorem recovered {st : Station} {e : Engine Database} (hsetup : e.outside.SetUp st)
    (hopen : e.registry.isShutDown = false) (start : Instant) (events : List Event) :
    ∃ started begun, (startAll DatabaseSource.surroundings start).run e = (.ok started, begun) ∧
      let after := events.foldl (Engine.occur st.location) begun
      ∃ lane, after.registry.lane? st.location = some lane ∧
        (lane.queue = [] → after.outside.TimesAscend →
          ∀ windows now, after.outside.Fresh windows now →
            (loadSite DatabaseSource.store DatabaseSource.thresholds.run st.devices windows now).run
                after.outside = (.ok lane.worker.site, after.outside) ∧
              after.registry.shown st.location = .ok lane.worker.site) := by
  have hhosts := hsetup.hosts
  obtain ⟨started, begun, hstart, houtside, hlanes⟩ :=
    DatabaseSource.run_startAll hsetup.constrained (hsetup.fault _) hhosts.run_thresholds hopen start
  refine ⟨started, begun, hstart, ?_⟩
  -- the worker starts with nothing known, judged once
  let site : Site Float := Site.empty.recompute st.thresholds
  have hsite : site.Reachable := .recompute _ .empty
  have hlane : begun.registry.lane? st.location = some
      { devices := st.devices, worker := .start site } := by
    obtain ⟨row, hrow, hlisted⟩ := hsetup.exists_listed
    have hmapped : (e.outside.listed row).isMapped := by
      rw [hlisted]
      rfl
    have hloaded := hlanes row hrow hmapped
    rw [hlisted, DatabaseSource.loaded, hhosts.run_loadEvidence hsetup.timesAscend (hsetup.fresh _ _),
      hsetup.evidence_eq] at hloaded
    have hlocation : row.id = st.location := congrArg Devices.location hlisted
    rw [← hlocation]
    exact hloaded
  let w := begun.registry.latest st.location
  have habreast : Abreast st w site (begun.publishedBy w) begun := by
    have hserving := Serving.start (Registry.laneOf?_latest hlane) nofun
    refine ⟨houtside ▸ hhosts, [], ⟨rfl, rfl, Registry.employs_latest (Registry.contains_of_lane? hlane), [], _, rfl,
      hserving, ?_⟩, ?_⟩
    · exact fun _ h => absurd h List.not_mem_nil
    · rw [houtside, hsetup.evidence_eq]
      rfl
  have hafter := habreast.run events
  obtain ⟨accepted, htended, hqueued⟩ := hafter.queued
  obtain ⟨handled, lane, -, hserving, hall⟩ := htended.serving
  have hfound := (Registry.laneOf?_of_employs htended.employs).symm.trans hserving.found
  rw [htended.location] at hfound
  refine ⟨lane, hfound, fun hempty htimes windows now hfresh => ?_⟩
  let account := Account.replay site handled
  have hjudged : account.site =
      ({ evidence := account.site.evidence } : Site Float).recompute st.thresholds ∧
      account.shown = account.site := Account.judged_replay hsite rfl hall
  have hevidence : account.site.evidence =
      (events.foldl (Engine.occur st.location) begun).outside.evidence st := by
    have hqueue := hserving.queue
    rw [hempty, List.append_nil, List.append_nil] at hqueue
    rw [Account.evidence_replay, ← hqueued, ← hqueue, List.map_map]
    rfl
  have hworker : lane.worker = account.worker := hserving.worker.trans (Account.worker_replay site handled).symm
  have hpresent : lane.worker.site = account.site := congrArg Worker.site hworker
  have hseen : lane.worker.shown = account.shown := congrArg Worker.shown hworker
  constructor
  · rw [DatabaseSource.run_loadSite hafter.hosts.run_thresholds, DatabaseSource.loaded,
      hafter.hosts.run_loadEvidence htimes hfresh, ← hevidence, ← hjudged.1, hpresent]
  · rw [Registry.shown, hfound]
    exact congrArg Except.ok (hseen.trans (hjudged.2.trans hpresent.symm))

/-- The weir as it is set up. -/
def weirStation : Station :=
  { location := 7
    name := "Weir"
    sensor := 1
    camera := 2
    calibration := ⟨300, 200, 250⟩
    thresholds := ⟨45, 75, 76⟩ }

theorem setUp_weir : (weir []).SetUp weirStation := by
  refine ⟨?_, fun _ => rfl, rfl, ?_, ?_, ?_, rfl, rfl, rfl⟩
  · constructor <;> simp [weir]
  · exact ⟨_, List.mem_singleton_self _, rfl, rfl⟩
  · exact ⟨gauge, List.mem_singleton_self _, rfl, rfl, rfl⟩
  · exact ⟨_, List.mem_singleton_self _, rfl, rfl⟩

theorem directory_weir :
    DatabaseSource.directory.run.run (weir []) = (.ok [weirStation.devices], weir []) := by
  rw [DatabaseSource.run_directory setUp_weir.constrained rfl]
  have hsites : (weir []).locations.mergeSort (fun a b => decide (a.id ≤ b.id)) = (weir []).locations :=
    List.mergeSort_singleton _
  rw [hsites]
  rfl

/-- All three feeds report, the sensor twice, while the worker takes its turns. -/
def weirDay : List Event :=
  [.request .year2000 distanceReport, .request .year2000 (.blockage ⟨.clear, 0.5, "weir.jpg", none⟩),
    .work ⟨7, 1⟩, .request .year2000 (.weather ⟨1.0, 3⟩), .request .year2000 distanceReport, .work ⟨7, 1⟩,
    .work ⟨7, 1⟩, .work ⟨7, 1⟩]

/-- The engine before that day. -/
def weirMorning : Engine Database :=
  ((startEach DatabaseSource.surroundings .year2000 0 [weirStation.devices]).run
    { registry := {}, outside := weir [] }).2

/-- The engine after that day. -/
def weirEvening : Engine Database :=
  weirDay.foldl (Engine.occur weirStation.location) weirMorning

/-- A worker that starts again at the weir has heard of all three feeds. -/
theorem recovered_weir :
    ∃ started, (startAll DatabaseSource.surroundings .year2000).run
        { registry := {}, outside := weir [] } = (.ok started, weirMorning) ∧
      ∃ site, (loadSite DatabaseSource.store DatabaseSource.thresholds.run weirStation.devices {}
          .year2000).run weirEvening.outside = (.ok site, weirEvening.outside) ∧
        site.evidence.isComplete := by
  let e : Engine Database := { registry := {}, outside := weir [] }
  obtain ⟨started, begun, hstart, hafter⟩ := recovered (e := e) setUp_weir rfl .year2000 weirDay
  have hbegun : begun = weirMorning :=
    (congrArg Prod.snd hstart).symm.trans (congrArg Prod.snd (run_startAll directory_weir))
  subst hbegun
  obtain ⟨lane, hlane, hrecovered⟩ := hafter
  have hlane : weirEvening.registry.lane? 7 = some lane := hlane
  have hempty : lane.queue = [] := by
    have hqueue : (weirEvening.registry.lane? 7).map (·.queue.length) = some 0 := by decide +kernel
    rw [hlane, Option.map_some] at hqueue
    exact List.length_eq_zero_iff.mp (Option.some.inj hqueue)
  have hcomplete : lane.worker.site.evidence.isComplete := by
    have hevidence : (weirEvening.registry.lane? 7).map (·.worker.site.evidence.isComplete) = some true := by
      decide +kernel
    rw [hlane, Option.map_some] at hevidence
    exact Option.some.inj hevidence
  have htimes : weirEvening.outside.TimesAscend := by
    constructor <;> decide +kernel
  have hfresh : weirEvening.outside.Fresh {} .year2000 := by
    constructor <;> decide +kernel
  obtain ⟨hloaded, -⟩ := hrecovered hempty htimes {} .year2000 hfresh
  exact ⟨started, hstart, lane.worker.site, hloaded, hcomplete⟩

end Waterway
