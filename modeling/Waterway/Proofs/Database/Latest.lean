import Mathlib.Data.List.Perm.Basic
import Waterway.Proofs.Database.Times
import Waterway.Proofs.Instant.Text

/-!
# The latest rows

Rows are ordered by time and then by key. Under distinct keys the latest of them is the greatest in this order, however
they are listed; and the latest status of a sensor is made of two such rows, both its own.

## Main definitions

- `Precedes` — the order of rows by time and then by key
- `Greatest`, `GreatestOf` — a row that all others precede, and what is such a row if there are any rows
- `SensorReading.Tabled` — what a table of sensor readings guarantees
- `SensorReading.latestStatus` — the status that the rows of a sensor amount to

## Main statements

- `latestOf_concat` — a row that is greater than all others is the latest
- `latestOf_eq_iff`, `latestOf_perm` — the latest row is the greatest, in any order of the rows
- `SensorReading.Tabled.insert` — readings are stored as the table wants them
- `DatabaseSource.run_latestWaterLevel_eq` — the latest status of a sensor is that of its own rows
- `DatabaseSource.latestWaterLevel_exact` — which of them it is made of

## Design notes

A row is sought before the time of another one with that time cut to whole microseconds. The two times are the same
since a table keeps no others.
-/

namespace Waterway

section

variable {α : Type} {time : α → Instant} {key : α → RowId}

/-- Of two rows the second is the greater one by time and then by key. -/
def Precedes (time : α → Instant) (key : α → RowId) (a b : α) : Prop :=
  (time a).compare (time b) = .lt ∨ (time a).compare (time b) = .eq ∧ key a < key b

theorem laterOf_of_precedes {a b : α} (h : Precedes time key a b) : laterOf time key a b = b := by
  rw [laterOf]
  rcases h with hlt | ⟨heq, hkey⟩
  · rw [hlt]
  · rw [heq]
    exact if_pos hkey

/-- A row that is greater than all others is the latest. -/
theorem latestOf_concat {rows : List α} {row : α} (h : ∀ r ∈ rows, Precedes time key r row) :
    latestOf time key (rows ++ [row]) = some row := by
  cases rows with
  | nil => rfl
  | cons first rest =>
    -- whichever row is chosen among the others, the last one takes its place
    rw [List.cons_append, latestOf, List.foldl_append]
    exact congrArg some (laterOf_of_precedes (h _ (mem_foldl_laterOf rest first)))

/-- Among the rows of one owner, too. -/
theorem latestOf_owned_concat {rows : List α} {row : α} {owner : α → RowId}
    (h : ∀ r ∈ rows, owner r = owner row → Precedes time key r row) :
    latestOf time key ((rows ++ [row]).filter (owner · == owner row)) = some row := by
  have hlast : [row].filter (owner · == owner row) = [row] := List.filter_cons_of_pos (beq_self_eq_true _)
  rw [List.filter_append, hlast]
  refine latestOf_concat fun r hr => ?_
  obtain ⟨hmem, howned⟩ := List.mem_filter.mp hr
  exact h r hmem (beq_iff_eq.mp howned)

/-! ## The greatest of several rows -/

/-- The order of rows is that of the parts of their times, and then of their keys. -/
theorem precedes_iff {key : α → Int} {a b : α} : Precedes time key a b ↔
    (time a).date.number < (time b).date.number ∨ (time a).date.number = (time b).date.number ∧
      ((time a).second < (time b).second ∨ (time a).second = (time b).second ∧
        ((time a).nano < (time b).nano ∨ (time a).nano = (time b).nano ∧ key a < key b)) := by
  change (time a).compare (time b) = .lt ∨ (time a).compare (time b) = .eq ∧ key a < key b ↔ _
  simp only [Instant.compare, Ordering.then_eq_lt, Ordering.then_eq_eq, Int.compare_eq_lt,
    Int.compare_eq_eq, Nat.compare_eq_lt, Nat.compare_eq_eq]
  omega

theorem Precedes.trans {a b c : α} (hab : Precedes time key a b) (hbc : Precedes time key b c) :
    Precedes time key a c := by
  rw [precedes_iff] at *
  omega

theorem Precedes.asymm {a b : α} (hab : Precedes time key a b) : ¬Precedes time key b a := by
  rw [precedes_iff] at *
  omega

/-- What precedes a row is not later. -/
theorem Precedes.not_before {a b : α} (hab : Precedes time key a b) : ¬(time b).before (time a) := by
  rw [precedes_iff] at hab
  rw [Instant.before_iff]
  omega

/-- Of two rows under different keys the later one is the greater. -/
theorem laterOf_greater {key : α → Int} {a b : α} (hkey : key a ≠ key b) :
    laterOf time key a b = b ∧ Precedes time key a b ∨ laterOf time key a b = a ∧ Precedes time key b a := by
  by_cases h : Precedes time key a b
  · exact .inl ⟨laterOf_of_precedes h, h⟩
  · have hb : Precedes time key b a := by
      rw [precedes_iff] at *
      omega
    refine .inr ⟨?_, hb⟩
    rw [Precedes, not_or, not_and] at h
    rw [laterOf]
    cases hcompare : (time a).compare (time b) with
    | lt => exact absurd hcompare h.1
    | gt => rfl
    | eq => exact if_neg (h.2 hcompare)

/-- A row that all others precede. -/
structure Greatest (time : α → Instant) (key : α → RowId) (rows : List α) (row : α) : Prop where
  mem : row ∈ rows
  precedes : ∀ r ∈ rows, r = row ∨ Precedes time key r row

/-- What is the greatest of some rows, if there are any. -/
def GreatestOf (time : α → Instant) (key : α → RowId) (rows : List α) : Option α → Prop
  | none => rows = []
  | some row => Greatest time key rows row

theorem Greatest.eq {rows : List α} {a b : α} (ha : Greatest time key rows a) (hb : Greatest time key rows b) :
    a = b := by
  rcases hb.precedes a ha.mem with heq | hab
  · exact heq
  · rcases ha.precedes b hb.mem with heq | hba
    · exact heq.symm
    · exact absurd hba hab.asymm

theorem GreatestOf.eq {rows : List α} {a b : Option α} (ha : GreatestOf time key rows a)
    (hb : GreatestOf time key rows b) : a = b := by
  cases a with
  | none =>
    cases b with
    | none => rfl
    | some b =>
      have hempty : rows = [] := ha
      exact absurd (hempty ▸ hb.mem) List.not_mem_nil
  | some a =>
    cases b with
    | none =>
      have hempty : rows = [] := hb
      exact absurd (hempty ▸ ha.mem) List.not_mem_nil
    | some b => exact congrArg some (Greatest.eq ha hb)

theorem GreatestOf.perm {rows rows' : List α} {answer : Option α} (h : GreatestOf time key rows answer)
    (hperm : rows'.Perm rows) : GreatestOf time key rows' answer := by
  cases answer with
  | none =>
    have hempty : rows = [] := h
    exact (hempty ▸ hperm).eq_nil
  | some row => exact ⟨hperm.mem_iff.mpr h.mem, fun r hr => h.precedes r (hperm.mem_iff.mp hr)⟩

theorem greatest_foldl_laterOf (rows : List α) (first : α) (hkeys : ((first :: rows).map key).Nodup) :
    Greatest time key (first :: rows) (rows.foldl (laterOf time key) first) := by
  refine ⟨mem_foldl_laterOf rows first, ?_⟩
  induction rows generalizing first with
  | nil => exact fun r hr => .inl (List.mem_singleton.mp hr)
  | cons next rows ih =>
    rw [List.map_cons, List.map_cons, List.nodup_cons, List.nodup_cons, List.mem_cons, not_or] at hkeys
    obtain ⟨⟨hne, hfirst⟩, hnext, hrest⟩ := hkeys
    -- the smaller of the first two precedes the other one, which stands for both in what follows
    have hsmaller (kept other : α) (hlater : laterOf time key first next = kept) (hkept : key kept ∉ rows.map key)
        (hother : Precedes time key other kept) : ∀ r, r = kept ∨ r = other ∨ r ∈ rows →
          r = (next :: rows).foldl (laterOf time key) first ∨
            Precedes time key r ((next :: rows).foldl (laterOf time key) first) := by
      rw [List.foldl_cons, hlater]
      have hgreatest := ih kept (List.nodup_cons.mpr ⟨hkept, hrest⟩)
      rintro r (rfl | rfl | hr)
      · exact hgreatest r List.mem_cons_self
      · rcases hgreatest kept List.mem_cons_self with heq | hprecedes
        · exact .inr (heq ▸ hother)
        · exact .inr (hother.trans hprecedes)
      · exact hgreatest r (List.mem_cons_of_mem _ hr)
    intro r hr
    rw [List.mem_cons, List.mem_cons] at hr
    rcases laterOf_greater hne with ⟨hlater, hprecedes⟩ | ⟨hlater, hprecedes⟩
    · exact hsmaller next first hlater hnext hprecedes r (or_left_comm.mp hr)
    · exact hsmaller first next hlater hfirst hprecedes r hr

/-- Under distinct keys the latest row is the greatest. -/
theorem greatestOf_latestOf {rows : List α} (hkeys : (rows.map key).Nodup) :
    GreatestOf time key rows (latestOf time key rows) := by
  cases rows with
  | nil => rfl
  | cons first rest => exact greatest_foldl_laterOf rest first hkeys

theorem latestOf_eq_iff {rows : List α} {answer : Option α} (hkeys : (rows.map key).Nodup) :
    latestOf time key rows = answer ↔ GreatestOf time key rows answer := by
  constructor
  · rintro rfl
    exact greatestOf_latestOf hkeys
  · exact fun h => (greatestOf_latestOf hkeys).eq h

/-- The latest row does not depend on the order in which the rows are listed. -/
theorem latestOf_perm {rows rows' : List α} (hkeys : (rows.map key).Nodup) (hperm : rows'.Perm rows) :
    latestOf time key rows' = latestOf time key rows :=
  (latestOf_eq_iff ((hperm.map key).nodup_iff.mpr hkeys)).mpr ((greatestOf_latestOf hkeys).perm hperm)

end

/-! ## The table of sensor readings -/

/-- To cut an instant to whole microseconds a second time changes nothing. -/
theorem Instant.toMicroseconds_toMicroseconds (t : Instant) : t.toMicroseconds.toMicroseconds = t.toMicroseconds := by
  have hwhole : t.toMicroseconds.nano % 1000 = 0 := Nat.mul_mod_left _ _
  have hshort : t.toMicroseconds.nano / 1000 / 1000000 = 0 := by
    have hlt : t.toMicroseconds.nano < 1000000000 := by
      show _ % 1000000 * 1000 < 1000000000
      omega
    omega
  generalize t.toMicroseconds = u at *
  have hnano : u.nano / 1000 % 1000000 * 1000 = u.nano := by omega
  rw [toMicroseconds]
  simp only [hwhole, ne_eq, not_true_eq_false, and_false, if_false, Nat.add_zero, hshort, hnano]
  exact addSeconds_zero u

namespace SensorReading

/-- What the table guarantees: no two rows have one key, and their times are kept in whole microseconds. -/
structure Tabled (rows : List SensorReading) : Prop where
  keys : (rows.map (·.id)).Nodup
  times : ∀ r ∈ rows, r.timestamp.toMicroseconds = r.timestamp

/-- Some of the rows of the table, or all of them in another order, are such rows, too. -/
theorem Tabled.subperm {rows rows' : List SensorReading} (h : Tabled rows) (hsub : rows'.Subperm rows) :
    Tabled rows' where
  keys := by
    obtain ⟨listed, hperm, hsublist⟩ := hsub
    exact (hperm.map _).nodup_iff.mp (h.keys.sublist (hsublist.map _))
  times r hr := h.times r (hsub.subset hr)

theorem Tabled.filter {rows : List SensorReading} (h : Tabled rows) (p : SensorReading → Bool) :
    Tabled (rows.filter p) :=
  h.subperm List.filter_sublist.subperm

/-- A reading that is stored has a new key, and its time in whole microseconds. -/
theorem Tabled.insert {db after : Database} {r : NewSensorReading} {row : SensorReading}
    (h : Tabled db.sensorReadings) (hrun : (Query.insertSensorReading r).run.run db = (.ok row, after)) :
    Tabled after.sensorReadings := by
  rw [Query.insertSensorReading, Query.run_statement] at hrun
  cases hfault : db.fault .insertSensorReading with
  | some error =>
    rw [hfault] at hrun
    cases hrun
  | none =>
    rw [hfault] at hrun
    cases hrun
    constructor
    · rw [List.map_append, List.nodup_append]
      refine ⟨h.keys, List.pairwise_singleton _ _, fun a ha b hb heq => ?_⟩
      have hnew := lt_nextKey ha
      rw [heq, List.mem_singleton.mp hb] at hnew
      exact Int.lt_irrefl _ hnew
    · intro s hs
      rcases List.mem_append.mp hs with hs | hs
      · exact h.times s hs
      · rw [List.mem_singleton.mp hs]
        exact r.timestamp.toMicroseconds_toMicroseconds

/-- The status that the rows of a sensor amount to: that of the latest, measured against the latest before it. -/
def latestStatus (c : Calibration Float) (rows : List SensorReading) : Option (WaterLevel Float) :=
  (latestOf (·.timestamp) (·.id) rows).map fun row =>
    row.status (latestOf (·.timestamp) (·.id) (rows.filter (·.timestamp.before row.timestamp))) c

theorem latestStatus_perm {rows rows' : List SensorReading} (c : Calibration Float) (h : Tabled rows)
    (hperm : rows'.Perm rows) : latestStatus c rows' = latestStatus c rows := by
  rw [latestStatus, latestOf_perm h.keys hperm, latestStatus]
  refine congrArg (Option.map · _) (funext fun row => ?_)
  rw [latestOf_perm (h.filter _).keys (hperm.filter _)]

end SensorReading

namespace DatabaseSource

variable {db : Database}

theorem run_latestBlockage {row : BlockageReading} {status : Blockage}
    (hfault : ∀ s, db.fault s = none) (hlatest : latestOf (·.timestamp) (·.id)
      (db.blockageReadings.filter (·.device == row.device)) = some row) (hstatus : row.status = .ok status) :
    (latestBlockage row.device).run.run db = (.ok (some status), db) := by
  have hquery : (Query.latestBlockageReading row.device).run.run db = (.ok (some row), db) := by
    rw [← hlatest]
    exact Query.run_select_of_none (hfault _) _
  have hrun : (latestBlockage row.device).run.run db = _ := run_bind_ok (run_query_ok hquery)
  rw [hrun]
  change (some <$> ofDomain row.status).run.run db = _
  rw [hstatus]
  rfl

theorem run_latestWaterLevel {row : SensorReading} {previous : Option SensorReading} {sensor : SensorDevice}
    {config : Calibration Float} (hfault : ∀ s, db.fault s = none)
    (hlatest : latestOf (·.timestamp) (·.id) (db.sensorReadings.filter (·.device == row.device)) = some row)
    (hsensor : db.sensors.find? (·.id == row.device) = some sensor) (hconfig : sensor.config = .ok config)
    (hprevious : (Query.previousSensorReading row.device row.timestamp).run.run db = (.ok previous, db)) :
    (latestWaterLevel row.device).run.run db = (.ok (some (row.status previous config)), db) := by
  have hquery : (Query.latestSensorReading row.device).run.run db = (.ok (some row), db) := by
    rw [← hlatest]
    exact Query.run_select_of_none (hfault _) _
  have hfound : (Query.sensor row.device).run.run db = (.ok (some sensor), db) := by
    rw [← hsensor]
    exact Query.run_select_of_none (hfault _) _
  have hcalibration : (ofDomain sensor.config).run.run db = (.ok config, db) := by
    rw [hconfig]
    rfl
  have hrun : (latestWaterLevel row.device).run.run db = _ := run_bind_ok (run_query_ok hquery)
  rw [hrun]
  exact (run_bind_ok (run_query_ok hfound)).trans <|
    (run_bind_ok hcalibration).trans (run_bind_ok (run_query_ok hprevious))

theorem run_latestWeather {row : WeatherReading} (hfault : ∀ s, db.fault s = none) (hlatest :
    latestOf (·.createdAt) (·.id) (db.weatherReadings.filter (·.location == row.location)) = some row) :
    (latestWeather row.location).run.run db = (.ok (some row.status), db) := by
  have hquery : (Query.latestWeather row.location).run.run db = (.ok (some row), db) := by
    rw [← hlatest]
    exact Query.run_select_of_none (hfault _) _
  exact run_bind_ok (run_query_ok hquery)

variable {device : RowId} {sensor : SensorDevice} {c : Calibration Float}

/-- The latest status of a sensor is the one that its own rows amount to. -/
theorem run_latestWaterLevel_eq (hfault : ∀ s, db.fault s = none)
    (hsensor : db.sensors.find? (·.id == device) = some sensor) (hconfig : sensor.config = .ok c)
    (hrows : SensorReading.Tabled (db.sensorReadings.filter (·.device == device))) :
    (latestWaterLevel device).run.run db =
      (.ok (SensorReading.latestStatus c (db.sensorReadings.filter (·.device == device))), db) := by
  rw [SensorReading.latestStatus]
  cases hlatest : latestOf (·.timestamp) (·.id) (db.sensorReadings.filter (·.device == device)) with
  | none =>
    have hquery : (Query.latestSensorReading device).run.run db = (.ok none, db) := by
      rw [← hlatest]
      exact Query.run_select_of_none (hfault _) _
    exact run_bind_ok (run_query_ok hquery)
  | some row =>
    have hrow : Greatest (·.timestamp) (·.id) (db.sensorReadings.filter (·.device == device)) row :=
      (latestOf_eq_iff hrows.keys).mp hlatest
    have hdevice : row.device = device := beq_iff_eq.mp (List.mem_filter.mp hrow.mem).2
    subst hdevice
    refine run_latestWaterLevel hfault hlatest hsensor hconfig ?_
    have hearlier : (db.sensorReadings.filter fun r => r.device == row.device &&
        r.timestamp.before row.timestamp.toMicroseconds) =
          (db.sensorReadings.filter (·.device == row.device)).filter (·.timestamp.before row.timestamp) := by
      rw [List.filter_filter, hrows.times row hrow.mem]
      exact List.filter_congr fun r _ => Bool.and_comm _ _
    rw [← hearlier]
    exact Query.run_select_of_none (hfault _) _

/-- The latest status of a sensor that has a calibration is known unless there is no row of the sensor. Its level and
its time are those of the row that is the greatest by time and then by key; its rate and its trend are measured against
the greatest of those rows that are strictly earlier, so that no row lies strictly between the two, and are zero and
stable without one. No other rows matter, nor does the order of these. -/
theorem latestWaterLevel_exact (hfault : ∀ s, db.fault s = none) (htable : SensorReading.Tabled db.sensorReadings)
    (hsensor : db.sensors.find? (·.id == device) = some sensor) (hconfig : sensor.config = .ok c) :
    ∃ answer, (latestWaterLevel device).run.run db = (.ok answer, db) ∧
      (answer = none ↔ ∀ r ∈ db.sensorReadings, r.device ≠ device) ∧
      (∀ status, answer = some status → ∃ latest previous,
        let own := db.sensorReadings.filter (·.device == device)
        Greatest (·.timestamp) (·.id) own latest ∧
        GreatestOf (·.timestamp) (·.id) (own.filter (·.timestamp.before latest.timestamp)) previous ∧
        status.level = latest.level ∧ status.observedAt = latest.timestamp ∧
        status.criticalPercentage = c.criticalPercentage latest.level ∧
        (previous = none → status.changeRate = 0.0 ∧ status.trend = .stable) ∧
        ∀ p, previous = some p → status.changeRate = rateOfChange latest.level (some p.level) ∧
          status.trend = trendOf status.changeRate ∧ p.timestamp.before latest.timestamp ∧
          ∀ r ∈ own, ¬(p.timestamp.before r.timestamp ∧ r.timestamp.before latest.timestamp)) ∧
      ∀ rows : List SensorReading,
        (rows.filter (·.device == device)).Perm (db.sensorReadings.filter (·.device == device)) →
        (latestWaterLevel device).run.run { db with sensorReadings := rows } =
          (.ok answer, { db with sensorReadings := rows }) := by
  have hown := htable.filter (·.device == device)
  refine ⟨_, run_latestWaterLevel_eq hfault hsensor hconfig hown, ?_, fun status hstatus => ?_, fun rows hperm => ?_⟩
  · rw [SensorReading.latestStatus, Option.map_eq_none_iff, latestOf_eq_iff hown.keys]
    show List.filter _ _ = [] ↔ _
    simp only [List.filter_eq_nil_iff, beq_iff_eq]
  · obtain ⟨latest, hlatest, rfl⟩ := Option.map_eq_some_iff.mp hstatus
    have hearlier := hown.filter (·.timestamp.before latest.timestamp)
    have hprevious : GreatestOf (·.timestamp) (·.id)
        ((db.sensorReadings.filter (·.device == device)).filter (·.timestamp.before latest.timestamp)) _ :=
      greatestOf_latestOf hearlier.keys
    refine ⟨latest, _, (latestOf_eq_iff hown.keys).mp hlatest, hprevious, rfl, rfl, rfl, fun hnone => ?_,
      fun p hp => ?_⟩
    · rw [hnone]
      have hrate : (latest.status none c).changeRate = 0.0 := rfl
      have htrend : (latest.status none c).trend = trendOf (latest.status none c).changeRate := rfl
      refine ⟨hrate, ?_⟩
      rw [htrend, hrate]
      decide +kernel
    · rw [hp] at hprevious ⊢
      refine ⟨rfl, rfl, (List.mem_filter.mp hprevious.mem).2, fun r hr ⟨hpr, hrl⟩ => ?_⟩
      -- a row between the two would be one of the earlier ones, and greater than the greatest of them
      rcases hprevious.precedes r (List.mem_filter.mpr ⟨hr, hrl⟩) with rfl | hprecedes
      · exact Instant.not_before_self _ hpr
      · exact hprecedes.not_before hpr
  · have hrows := hown.subperm hperm.subperm
    rw [← SensorReading.latestStatus_perm c hown hperm]
    exact run_latestWaterLevel_eq hfault hsensor hconfig hrows

/-- Two sensors have been read. The readings of the first came out of order, and some of them at one time. -/
def soundings : Database where
  sensors := [⟨1, 7, "Gauge", .list [.integer 300, .integer 200, .integer 250], none, .year2000⟩]
  sensorReadings :=
    let evening := Instant.year2000.addSeconds 72000
    [⟨3, 1, 20.0, 280.0, evening, evening⟩, ⟨1, 1, 12.0, 288.0, .year2000, evening⟩,
      ⟨4, 1, 30.0, 270.0, evening, evening⟩, ⟨2, 2, 99.0, 1.0, .addSeconds evening 60, evening⟩,
      ⟨5, 1, 14.0, 286.0, .year2000, evening⟩]
  now := .year2000

/-- The water has risen by 16 centimetres, also when the other sensor's readings are left out and the rest is listed
backwards. -/
theorem latestWaterLevel_exact_soundings :
    let own := soundings.sensorReadings.filter (·.device == 1)
    ∃ status, (latestWaterLevel 1).run.run soundings = (.ok (some status), soundings) ∧
      status.level = 30.0 ∧ status.changeRate = 16.0 ∧ status.trend = .rising ∧
      (latestWaterLevel 1).run.run { soundings with sensorReadings := own.reverse } =
        (.ok (some status), { soundings with sensorReadings := own.reverse }) := by
  intro own
  have htable : SensorReading.Tabled soundings.sensorReadings := ⟨by decide, by decide +kernel⟩
  obtain ⟨answer, hrun, hnone, hsome, hothers⟩ :=
    latestWaterLevel_exact (fun _ => rfl) htable (show soundings.sensors.find? (·.id == 1) = some _ from rfl)
      (c := ⟨300.0, 200.0, 250.0⟩) (by rfl)
  have hreversed : (own.reverse.filter (·.device == 1)).Perm own := by
    rw [List.filter_reverse, List.filter_filter]
    simp only [Bool.and_self]
    exact List.reverse_perm _
  cases answer with
  | none => exact absurd rfl (hnone.mp rfl _ List.mem_cons_self)
  | some status =>
    obtain ⟨latest, previous, hlatest, hprevious, hlevel, -, -, -, hmeasured⟩ := hsome status rfl
    have hkeys : (own.map (·.id)).Nodup := (htable.filter _).keys
    obtain rfl := hlatest.eq (b := own[2]) ((latestOf_eq_iff hkeys).mp (by rfl : _ = some own[2]))
    obtain rfl := hprevious.eq ((latestOf_eq_iff ((htable.filter _).filter _).keys).mp (by rfl : _ = some own[3]))
    obtain ⟨hrate, htrend, -⟩ := hmeasured _ rfl
    refine ⟨status, hrun, hlevel, ?_, ?_, hothers _ hreversed⟩
    · rw [hrate]
      decide +kernel
    · rw [htrend, hrate]
      decide +kernel

end DatabaseSource

end Waterway
