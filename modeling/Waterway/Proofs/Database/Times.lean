import Waterway.Proofs.Database.Statements

/-!
# The times of readings

When the readings of a device, or of a location, were observed, in the order in which they were stored. What the store
gives as the latest is one of them, and none is later.

## Main definitions

- `Database.times` — the times under a key
- `Instant.IsLast`, `Instant.IsLatest` — a time of a list that is as late as any
- `Database.Grows` — readings are added behind the others, and none is lost

## Main statements

- `Instant.before_iff` — the order of instants
- `Instant.isLatest_latestOf` — no row is later than the latest
- `Instant.IsLast.before_iff_lt` — of times that ascend, which are before a last one
- `DatabaseSource.isLatest_of_latest` — the answer of the store
-/

namespace Waterway

namespace Instant

variable {a b c t : Instant} {times : List Instant}

/-- The order of instants is that of their parts. -/
theorem before_iff (a b : Instant) : a.before b ↔
    a.date.number < b.date.number ∨
      a.date.number = b.date.number ∧ (a.second < b.second ∨ a.second = b.second ∧ a.nano < b.nano) := by
  simp only [before, beq_iff_eq, compare, Ordering.then_eq_lt, Int.compare_eq_lt, Int.compare_eq_eq,
    Nat.compare_eq_lt, Nat.compare_eq_eq]

theorem not_before_self (a : Instant) : ¬a.before a := by
  rw [before_iff]
  omega

theorem before_trans (hab : a.before b) (hbc : b.before c) : a.before c := by
  rw [before_iff] at *
  omega

/-- An instant that is not before another is after all that are before that one. -/
theorem before_of_before_of_not_before (hab : a.before b) (hcb : ¬c.before b) : a.before c := by
  rw [before_iff] at *
  omega

theorem not_before_trans (hab : ¬a.before b) (hbc : ¬b.before c) : ¬a.before c := by
  rw [before_iff] at *
  omega

/-- A time of a list that is as late as any. -/
structure IsLast (t : Instant) (times : List Instant) : Prop where
  mem : t ∈ times
  not_before : ∀ u ∈ times, ¬t.before u

/-- What is the latest of some times, if there are any. -/
def IsLatest (times : List Instant) : Option Instant → Prop
  | none => times = []
  | some t => t.IsLast times

/-- Of times that ascend, those are before a last one of the first of them that are not themselves its end. -/
theorem IsLast.before_iff_lt (h : t.IsLast times) {all : List Instant} (hinit : times <+: all)
    (hascending : all.Pairwise fun a b => a.before b) {p : Nat} (hp : all[p]? = some a) :
    a.before t ↔ p + 1 < times.length := by
  obtain ⟨hlt, rfl⟩ := List.getElem?_eq_some_iff.mp hp
  have hlength := hinit.length_le
  constructor
  · intro hbefore
    obtain ⟨q, hq, rfl⟩ := List.getElem_of_mem h.mem
    rw [hinit.getElem hq] at hbefore
    by_contra hend
    rcases Nat.lt_trichotomy q p with hqp | rfl | hpq
    · exact not_before_self _ (before_trans hbefore (List.pairwise_iff_getElem.mp hascending q p _ _ hqp))
    · exact not_before_self _ hbefore
    · omega
  · intro hnext
    have hlater := List.pairwise_iff_getElem.mp hascending p (p + 1) hlt (by omega) (Nat.lt_succ_self p)
    rw [← hinit.getElem hnext] at hlater
    exact before_of_before_of_not_before hlater (h.not_before _ (List.getElem_mem hnext))

section Rows

variable {α : Type} {time : α → Instant} {key : α → RowId}

theorem not_before_laterOf (time : α → Instant) (key : α → RowId) (x y : α) :
    ¬(time (laterOf time key x y)).before (time x) ∧ ¬(time (laterOf time key x y)).before (time y) := by
  rw [laterOf]
  cases hcompare : (time x).compare (time y) with
  | lt =>
    have hbefore : (time x).before (time y) := by rw [before, hcompare]; rfl
    exact ⟨fun h => not_before_self _ (before_trans hbefore h), not_before_self _⟩
  | gt =>
    have hnot : ¬(time x).before (time y) := by rw [before, hcompare]; decide
    exact ⟨not_before_self _, hnot⟩
  | eq =>
    have hnot : ¬(time x).before (time y) := by rw [before, hcompare]; decide
    have hnot' : ¬(time y).before (time x) := by
      simp only [compare, Ordering.then_eq_eq, Int.compare_eq_eq, Nat.compare_eq_eq] at hcompare
      rw [before_iff]
      omega
    dsimp only
    split
    · exact ⟨hnot', not_before_self _⟩
    · exact ⟨not_before_self _, hnot⟩

theorem not_before_foldl_laterOf (rows : List α) (first : α) :
    ∀ r ∈ first :: rows, ¬(time (rows.foldl (laterOf time key) first)).before (time r) := by
  induction rows generalizing first with
  | nil =>
    intro r hr
    rw [List.mem_singleton.mp hr]
    exact not_before_self _
  | cons next rows ih =>
    -- whichever of the first two is chosen, the other is not later
    obtain ⟨hfirst, hnext⟩ := not_before_laterOf time key first next
    have hchosen := ih (laterOf time key first next) _ List.mem_cons_self
    intro r hr
    rcases List.mem_cons.mp hr with rfl | hr
    · exact not_before_trans hchosen hfirst
    · rcases List.mem_cons.mp hr with rfl | hr
      · exact not_before_trans hchosen hnext
      · exact ih _ r (List.mem_cons_of_mem _ hr)

/-- No row is later than the latest, and there is a latest if there are rows. -/
theorem isLatest_latestOf (rows : List α) : IsLatest (rows.map time) ((latestOf time key rows).map time) := by
  cases rows with
  | nil => rfl
  | cons first rest =>
    refine ⟨List.mem_map_of_mem (mem_foldl_laterOf rest first), fun u hu => ?_⟩
    obtain ⟨r, hr, rfl⟩ := List.mem_map.mp hu
    exact not_before_foldl_laterOf rest first r hr

end Rows

end Instant

namespace Database

/-- When the readings under a key were observed, in the order in which they were stored. -/
def times (db : Database) (source : Source) (key : RowId) : List Instant :=
  match source with
  | .waterLevel => (db.sensorReadings.filter (·.device == key)).map (·.timestamp)
  | .blockage => (db.blockageReadings.filter (·.device == key)).map (·.timestamp)
  | .weather => (db.weatherReadings.filter (·.location == key)).map (·.createdAt)

/-- Readings are added behind the others, and none is lost. -/
structure Grows (before after : Database) : Prop where
  sensor : before.sensorReadings <+: after.sensorReadings
  blockage : before.blockageReadings <+: after.blockageReadings
  weather : before.weatherReadings <+: after.weatherReadings

namespace Grows

variable {before after later : Database}

theorem refl (db : Database) : db.Grows db :=
  ⟨List.prefix_rfl, List.prefix_rfl, List.prefix_rfl⟩

theorem trans (h : before.Grows after) (h' : after.Grows later) : before.Grows later :=
  ⟨h.sensor.trans h'.sensor, h.blockage.trans h'.blockage, h.weather.trans h'.weather⟩

theorem times (h : before.Grows after) (source : Source) (key : RowId) :
    before.times source key <+: after.times source key := by
  cases source with
  | waterLevel => exact (h.sensor.filter _).map _
  | blockage => exact (h.blockage.filter _).map _
  | weather => exact (h.weather.filter _).map _

end Grows

end Database

section

variable {ε σ α β : Type}

/-- An action that succeeds has succeeded with its first part. -/
theorem exists_of_run_bind {action : ExceptT ε (StateM σ) α} {next : α → ExceptT ε (StateM σ) β} {s after : σ} {b : β}
    (h : (action >>= next).run.run s = (.ok b, after)) :
    ∃ a mid, action.run.run s = (.ok a, mid) ∧ (next a).run.run mid = (.ok b, after) := by
  rcases hrun : action.run.run s with ⟨error | a, mid⟩
  · rw [run_bind_error hrun] at h
    cases h
  · rw [run_bind_ok hrun] at h
    exact ⟨a, mid, rfl, h⟩

end

namespace DatabaseSource

variable {α : Type} {db after : Database} {devices : Devices} {source : Source} {key : RowId}

/-- What has been read is what there is. -/
theorem eq_of_run_query_select {s : Statement} {read : Database → α} {a : α}
    (h : (query (Query.select s read)).run.run db = (.ok a, after)) : a = read db ∧ after = db := by
  cases hfault : db.fault s with
  | some error =>
    rw [run_query_error (Query.run_select_of_some hfault read)] at h
    cases h
  | none =>
    rw [run_query_ok (Query.run_select_of_none hfault read)] at h
    cases h
    exact ⟨rfl, rfl⟩

theorem observedAt_of_latestWaterLevel {answer : Option (WaterLevel Float)}
    (h : (latestWaterLevel key).run.run db = (.ok answer, after)) : answer.map (·.observedAt) =
      (latestOf (·.timestamp) (·.id) (db.sensorReadings.filter (·.device == key))).map (·.timestamp) := by
  obtain ⟨latest, mid, hquery, h⟩ := exists_of_run_bind h
  obtain ⟨hlatest, rfl⟩ := eq_of_run_query_select hquery
  rw [← hlatest]
  cases latest with
  | none =>
    cases h
    rfl
  | some row =>
    obtain ⟨sensor, mid, -, h⟩ := exists_of_run_bind h
    cases sensor with
    | none => cases h
    | some sensor =>
      obtain ⟨config, mid, -, h⟩ := exists_of_run_bind h
      obtain ⟨previous, mid, -, h⟩ := exists_of_run_bind h
      cases h
      rfl

theorem observedAt_of_latestBlockage {answer : Option Blockage}
    (h : (latestBlockage key).run.run db = (.ok answer, after)) : answer.map (·.observedAt) =
      (latestOf (·.timestamp) (·.id) (db.blockageReadings.filter (·.device == key))).map (·.timestamp) := by
  obtain ⟨latest, mid, hquery, h⟩ := exists_of_run_bind h
  obtain ⟨hlatest, rfl⟩ := eq_of_run_query_select hquery
  rw [← hlatest]
  cases latest with
  | none =>
    cases h
    rfl
  | some row =>
    cases hstatus : row.status with
    | error error =>
      change (some <$> ofDomain row.status).run.run _ = _ at h
      rw [hstatus] at h
      cases h
    | ok status =>
      change (some <$> ofDomain row.status).run.run _ = _ at h
      rw [hstatus] at h
      cases h
      exact congrArg some (BlockageReading.observedAt_eq hstatus)

theorem observedAt_of_latestWeather {answer : Option (Weather Float)}
    (h : (latestWeather key).run.run db = (.ok answer, after)) : answer.map (·.observedAt) =
      (latestOf (·.createdAt) (·.id) (db.weatherReadings.filter (·.location == key))).map (·.createdAt) := by
  obtain ⟨latest, mid, hquery, hrest⟩ := exists_of_run_bind h
  obtain ⟨hlatest, rfl⟩ := eq_of_run_query_select hquery
  cases hrest
  rw [← hlatest, Option.map_map]
  rfl

/-- A feed's own answer is passed on as one about any feed. -/
theorem exists_of_fst_run_map {α β : Type} {action : StateM Database (StoreAnswer α)} {f : α → β}
    {answer : Option β}
    (h : ((action >>= fun result => pure (result.map (·.map f)) : StateM Database (StoreAnswer β)).run db).1 =
      .ok answer) : ∃ own after, action.run db = (.ok own, after) ∧ answer = own.map f := by
  rw [StateT.run_bind] at h
  rcases hrun : action.run db with ⟨error | own, after⟩
  · rw [hrun] at h
    cases h
  · rw [hrun] at h
    cases h
    exact ⟨own, after, rfl, rfl⟩

/-- The store answers with a reading that is as late as any, if there are readings. -/
theorem isLatest_of_latest {answer : Option (Observation Float)} (hkey : devices.key source = some key)
    (h : ((store.latest devices source).run db).1 = .ok answer) :
    Instant.IsLatest (db.times source key) (answer.map Observation.observedAt) := by
  rw [ReadingStore.latest, hkey] at h
  cases source with
  | waterLevel =>
    obtain ⟨own, after, hrun, rfl⟩ := exists_of_fst_run_map h
    rw [Option.map_map]
    exact (observedAt_of_latestWaterLevel hrun).symm ▸ Instant.isLatest_latestOf _
  | blockage =>
    obtain ⟨own, after, hrun, rfl⟩ := exists_of_fst_run_map h
    rw [Option.map_map]
    exact (observedAt_of_latestBlockage hrun).symm ▸ Instant.isLatest_latestOf _
  | weather =>
    obtain ⟨own, after, hrun, rfl⟩ := exists_of_fst_run_map h
    rw [Option.map_map]
    exact (observedAt_of_latestWeather hrun).symm ▸ Instant.isLatest_latestOf _

end DatabaseSource

end Waterway
