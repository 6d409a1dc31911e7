import Mathlib.Data.List.Induction
import Waterway.Database.Sources

/-!
# What statements do

A statement fails as a whole or does what it says. Rows that are only ever added have ascending keys, and if
their times do not go back, the latest of them is the last.

## Main definitions

- `Database.fault` — the failure of a statement, if it is to fail
- `ReadsOnly` — an action that leaves the state as it is

## Main statements

- `Query.run_statement` — a statement fails and changes nothing, or is carried out
- `DatabaseSource.fst_thresholds` — the thresholds are those that the setting holds
- `DatabaseSource.readsOnly_thresholds`, `DatabaseSource.readsOnly_latest` — what the engine asks changes nothing
- `lt_nextKey` — a new key is greater than all others
- `latestOf_eq_getLast?` — the latest of rows in order is the last
-/

namespace Waterway

section

variable {ε σ α β : Type} {action : ExceptT ε (StateM σ) α} {next : α → ExceptT ε (StateM σ) β} {s after : σ}

theorem run_bind_ok {a : α} (h : action.run.run s = (.ok a, after)) :
    (action >>= next).run.run s = (next a).run.run after := by
  change StateT.run (action.run >>= ExceptT.bindCont next) s = _
  rw [StateT.run_bind, h]
  rfl

theorem run_bind_error {error : ε} (h : action.run.run s = (.error error, after)) :
    (action >>= next).run.run s = (.error error, after) := by
  change StateT.run (action.run >>= ExceptT.bindCont next) s = _
  rw [StateT.run_bind, h]
  rfl

end

/-- An action that leaves the state as it is. -/
def ReadsOnly {σ α : Type} (action : StateM σ α) : Prop :=
  ∀ s, (action.run s).2 = s

namespace ReadsOnly

variable {ε σ α β : Type}

theorem pure (a : α) : ReadsOnly (Pure.pure a : StateM σ α) := by
  intro s
  rfl

theorem bind {action : StateM σ α} {next : α → StateM σ β} (haction : ReadsOnly action)
    (hnext : ∀ a, ReadsOnly (next a)) : ReadsOnly (action >>= next) := by
  intro s
  rw [StateT.run_bind]
  exact (hnext _ _).trans (haction s)

theorem exceptBind {action : ExceptT ε (StateM σ) α} {next : α → ExceptT ε (StateM σ) β}
    (haction : ReadsOnly action.run) (hnext : ∀ a, ReadsOnly (next a).run) :
    ReadsOnly (action >>= next).run := by
  change ReadsOnly (action.run >>= ExceptT.bindCont next)
  refine haction.bind fun result => ?_
  cases result with
  | ok a => exact hnext a
  | error error => exact .pure _

theorem exceptMap {action : ExceptT ε (StateM σ) α} {f : α → β} (haction : ReadsOnly action.run) :
    ReadsOnly (f <$> action).run :=
  haction.exceptBind fun a => .pure (Except.ok (f a))

end ReadsOnly

/-- The failure of a statement, if it is to fail. -/
def Database.fault (db : Database) (s : Statement) : Option DatabaseError :=
  db.outage.or (db.failures.lookup s)

namespace Query

variable {α : Type}

theorem run_statement (s : Statement) (run : Database → α × Database) (db : Database) :
    (statement s run).run.run db =
      match db.fault s with
      | some error => (.error error, db)
      | none => (.ok (run db).1, (run db).2) := by
  have hrun : (statement s run).run.run db =
      (match db.fault s with
        | some error => throw error
        | none => do
          set (run db).2
          return (run db).1 : Query α).run.run db := rfl
  rw [hrun]
  cases db.fault s <;> rfl

theorem run_statement_of_none {s : Statement} {db : Database} (hfault : db.fault s = none)
    (run : Database → α × Database) : (statement s run).run.run db = (.ok (run db).1, (run db).2) := by
  rw [run_statement, hfault]

theorem run_statement_of_some {s : Statement} {db : Database} {error : DatabaseError}
    (hfault : db.fault s = some error) (run : Database → α × Database) :
    (statement s run).run.run db = (.error error, db) := by
  rw [run_statement, hfault]

theorem run_select_of_none {s : Statement} {db : Database} (hfault : db.fault s = none)
    (read : Database → α) : (select s read).run.run db = (.ok (read db), db) :=
  run_statement_of_none hfault _

theorem run_select_of_some {s : Statement} {db : Database} {error : DatabaseError}
    (hfault : db.fault s = some error) (read : Database → α) :
    (select s read).run.run db = (.error error, db) :=
  run_statement_of_some hfault _

theorem readsOnly_select (s : Statement) (read : Database → α) : ReadsOnly (select s read).run := by
  intro db
  cases hfault : db.fault s with
  | none => exact congrArg Prod.snd (run_select_of_none hfault read)
  | some error => exact congrArg Prod.snd (run_select_of_some hfault read)

end Query

namespace DatabaseSource

variable {α : Type} {q : Query α} {db after : Database}

theorem run_query_ok {a : α} (h : q.run.run db = (.ok a, after)) :
    (query q).run.run db = (.ok a, after) := by
  change StateT.run (q.run >>= _) db = _
  rw [StateT.run_bind, h]
  rfl

theorem run_query_error {error : DatabaseError} (h : q.run.run db = (.error error, after)) :
    (query q).run.run db = (.error (.collaborator ("database error: " ++ error.message)), after) := by
  change StateT.run (q.run >>= _) db = _
  rw [StateT.run_bind, h]
  rfl

theorem readsOnly_query (hq : ReadsOnly q.run) : ReadsOnly (query q).run := by
  refine hq.bind fun result => ?_
  cases result with
  | ok a => exact .pure _
  | error error => exact .pure _

/-- The thresholds are those that the setting holds. -/
theorem fst_thresholds (db : Database) :
    (thresholds.run.run db).1 = match db.fault .setting with
      | some error => .error (.collaborator ("database error: " ++ error.message))
      | none =>
        match (db.settings.find? (·.key == Thresholds.settingKey)).map (·.value) with
        | none => .error (.configuration (Thresholds.settingKey ++ " setting not found"))
        | some value => (Thresholds.ofSetting value).mapError .ofDomain := by
  cases hfault : db.fault .setting with
  | some error =>
    have hquery : (Query.setting Thresholds.settingKey).run.run db = _ :=
      Query.run_select_of_some hfault _
    exact congrArg Prod.fst (run_bind_error (run_query_error hquery))
  | none =>
    have hquery : (Query.setting Thresholds.settingKey).run.run db = _ :=
      Query.run_select_of_none hfault _
    have hrun : thresholds.run.run db = _ := run_bind_ok (run_query_ok hquery)
    rw [hrun]
    cases (db.settings.find? (·.key == Thresholds.settingKey)).map (·.value) <;> rfl

/-- To ask for the thresholds changes nothing. -/
theorem readsOnly_thresholds : ReadsOnly thresholds.run := by
  refine (readsOnly_query (Query.readsOnly_select _ _)).exceptBind fun setting => ?_
  cases setting with
  | none => exact .pure _
  | some value => exact .pure _

theorem readsOnly_latestBlockage (device : RowId) : ReadsOnly (latestBlockage device).run := by
  refine (readsOnly_query (Query.readsOnly_select _ _)).exceptBind fun latest => ?_
  cases latest with
  | none => exact .pure _
  | some reading => exact ReadsOnly.exceptMap (.pure (reading.status.mapError EngineError.ofDomain))

theorem readsOnly_latestWaterLevel (device : RowId) : ReadsOnly (latestWaterLevel device).run := by
  refine (readsOnly_query (Query.readsOnly_select _ _)).exceptBind fun latest => ?_
  cases latest with
  | none => exact .pure _
  | some reading =>
    refine (readsOnly_query (Query.readsOnly_select _ _)).exceptBind fun sensor => ?_
    cases sensor with
    | none => exact .pure _
    | some sensor =>
      have hconfig : ReadsOnly (ofDomain sensor.config).run := .pure _
      refine hconfig.exceptBind fun config => ?_
      exact (readsOnly_query (Query.readsOnly_select _ _)).exceptBind fun previous => .pure _

theorem readsOnly_latestWeather (location : LocationId) : ReadsOnly (latestWeather location).run :=
  (readsOnly_query (Query.readsOnly_select _ _)).exceptBind fun _ => .pure _

/-- To ask for the latest reading of a feed changes nothing. -/
theorem readsOnly_latest (devices : Devices) (source : Source) :
    ReadsOnly (store.latest devices source) := by
  rw [ReadingStore.latest]
  cases devices.key source with
  | none => exact .pure _
  | some key =>
    cases source with
    | waterLevel => exact (readsOnly_latestWaterLevel key).bind fun _ => .pure _
    | blockage => exact (readsOnly_latestBlockage key).bind fun _ => .pure _
    | weather => exact (readsOnly_latestWeather key).bind fun _ => .pure _

end DatabaseSource

/-- A verdict counts from the time under which it is stored. -/
theorem BlockageReading.observedAt_eq {r : BlockageReading} {status : Blockage} (h : r.status = .ok status) :
    status.observedAt = r.timestamp := by
  rw [BlockageReading.status] at h
  cases hlevel : BlockageLevel.ofName r.level with
  | error error =>
    rw [hlevel] at h
    cases h
  | ok level =>
    rw [hlevel] at h
    cases h
    rfl

/-- A new key is greater than all others. -/
theorem lt_nextKey {keys : List RowId} {key : RowId} (hmem : key ∈ keys) : key < nextKey keys := by
  cases hmax : keys.max? with
  | none =>
    rw [List.max?_eq_none_iff] at hmax
    rw [hmax] at hmem
    exact absurd hmem List.not_mem_nil
  | some greatest =>
    have hle : key ≤ greatest := (List.max?_le_iff hmax).mp (Int.le_refl greatest) key hmem
    have hnext : nextKey keys = greatest + 1 := by rw [nextKey, hmax]
    rw [hnext]
    exact Int.lt_add_one_of_le hle

variable {α : Type} {time : α → Instant} {key : α → RowId}

theorem laterOf_eq_or (time : α → Instant) (key : α → RowId) (a b : α) :
    laterOf time key a b = a ∨ laterOf time key a b = b := by
  rw [laterOf]
  split
  · exact .inr rfl
  · exact .inl rfl
  · split
    · exact .inr rfl
    · exact .inl rfl

/-- The latest row is one of the rows. -/
theorem mem_foldl_laterOf (rows : List α) (first : α) : rows.foldl (laterOf time key) first ∈ first :: rows := by
  induction rows generalizing first with
  | nil => exact List.mem_singleton_self first
  | cons r rows ih =>
    rw [List.foldl_cons]
    rcases laterOf_eq_or time key first r with heq | heq
    · rw [heq]
      rcases List.mem_cons.mp (ih first) with hfirst | hrest
      · rw [hfirst]
        exact List.mem_cons_self
      · exact List.mem_cons_of_mem _ (List.mem_cons_of_mem _ hrest)
    · rw [heq]
      exact List.mem_cons_of_mem _ (ih r)

/-- Rows in the order in which they were added: the keys ascend, and the times do not go back. -/
def InOrder (time : α → Instant) (key : α → RowId) (rows : List α) : Prop :=
  rows.Pairwise fun a b => key a < key b ∧ (time a).compare (time b) ≠ .gt

/-- Of two rows in order the second is the later one. -/
theorem laterOf_of_inOrder {a b : α} (hkey : key a < key b) (htime : (time a).compare (time b) ≠ .gt) :
    laterOf time key a b = b := by
  rw [laterOf]
  cases hcompare : (time a).compare (time b) with
  | lt => rfl
  | eq => exact if_pos hkey
  | gt => exact absurd hcompare htime

/-- The latest of rows in order is the last. -/
theorem latestOf_eq_getLast? {rows : List α} (horder : InOrder time key rows) :
    latestOf time key rows = rows.getLast? := by
  induction rows using List.reverseRecOn with
  | nil => rfl
  | append_singleton rows r ih =>
    obtain ⟨hrows, -, hlast⟩ := List.pairwise_append.mp horder
    rw [List.getLast?_concat]
    cases rows with
    | nil => rfl
    | cons first rest =>
      have hearlier := ih hrows
      rw [latestOf] at hearlier
      have hmem : rest.foldl (laterOf time key) first ∈ first :: rest :=
        List.mem_of_getLast? hearlier.symm
      obtain ⟨hkey, htime⟩ := hlast _ hmem r (List.mem_singleton_self r)
      rw [List.cons_append, latestOf, List.foldl_append]
      exact congrArg some (laterOf_of_inOrder hkey htime)

end Waterway
