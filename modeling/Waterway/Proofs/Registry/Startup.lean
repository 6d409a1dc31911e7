import Waterway.Proofs.Database.Statements
import Waterway.Proofs.Registry.Actions

/-!
# Start-up from the tables

When the thresholds can be had, a start registers every site that has both devices, with a worker that
starts from what the store has for the site. The tables stay as they are.

## Main definitions

- `Database.Constrained` — the tables obey the constraints of their schema
- `Database.listed` — a site with its devices, as the engine gets to know it
- `DatabaseSource.loaded` — a site that is judged on what the store has for it

## Main statements

- `DatabaseSource.run_directory` — every site is listed once
- `DatabaseSource.run_loadSite` — if the thresholds can be had, a site is loaded
- `Engine.run_startEach`, `Engine.run_startAll` — known sites are registered one after the other
- `DatabaseSource.run_startAll` — the worker of a site after a start
-/

namespace Waterway

section

variable {α κ : Type} [BEq κ] [LawfulBEq κ] {key : α → κ} {rows : List α}

/-- At most one row has a given key. -/
theorem filter_eq_toList_find? (hnodup : (rows.map key).Nodup) (k : κ) :
    rows.filter (key · == k) = (rows.find? (key · == k)).toList := by
  induction rows with
  | nil => rfl
  | cons first rest ih =>
    obtain ⟨habsent, hrest⟩ := List.nodup_cons.mp hnodup
    by_cases hfirst : key first = k
    · have hnone : rest.filter (key · == k) = [] := by
        rw [List.filter_eq_nil_iff]
        intro r hr heq
        rw [hfirst, ← eq_of_beq heq] at habsent
        exact habsent (List.mem_map_of_mem hr)
      simp [hfirst, hnone]
    · simpa [hfirst] using ih hrest

end

/-- The tables obey the constraints of their schema: keys are distinct, and a site has at most one device of a
kind. -/
structure Database.Constrained (db : Database) : Prop where
  locations : (db.locations.map (·.id)).Nodup
  sensors : (db.sensors.map (·.id)).Nodup
  sensorSites : (db.sensors.map (·.location)).Nodup
  cameras : (db.cameras.map (·.id)).Nodup
  cameraSites : (db.cameras.map (·.location)).Nodup

/-- A site with its devices, as the engine gets to know it. -/
def Database.listed (db : Database) (site : LocationRow) : Devices :=
  { location := site.id
    name := site.name
    sensor := (db.sensors.find? (·.location == site.id)).map (·.id)
    camera := (db.cameras.find? (·.location == site.id)).map (·.id) }

/-- A site that has at most one device of a kind is joined with it, or with none. -/
theorem Query.joined_eq {α : Type} {owner : α → LocationId} {rows : List α}
    (hnodup : (rows.map owner).Nodup) (location : LocationId) (key : α → RowId) :
    joined location owner key rows = [(rows.find? (owner · == location)).map key] := by
  rw [joined, filter_eq_toList_find? hnodup]
  cases rows.find? (owner · == location) <;> rfl

namespace DatabaseSource

variable {db : Database}

/-- Every site is listed once, in the order of the keys. -/
theorem run_directory (hkeys : db.Constrained) (hfault : db.fault .listLocations = none) :
    directory.run.run db =
      (.ok ((db.locations.mergeSort fun a b => decide (a.id ≤ b.id)).map db.listed), db) := by
  have hquery : Query.listLocations.run.run db = _ := Query.run_select_of_none hfault _
  have hrun : directory.run.run db = _ := run_bind_ok (run_query_ok hquery)
  rw [hrun]
  refine Prod.ext (congrArg Except.ok ?_) rfl
  simp only [Query.joined_eq hkeys.sensorSites, Query.joined_eq hkeys.cameraSites, List.flatMap_cons,
    List.flatMap_nil, List.map_cons, List.map_nil, List.append_nil]
  rw [← List.map_eq_flatMap, List.map_map]
  rfl

/-- The evidence that the store has for a site, as far as it is admitted. -/
theorem run_loadEvidence {devices : Devices} {windows : Windows} {now : Instant} {evidence : Evidence Float}
    (hadmitted : ∀ source, windows.admitted source now ((store.latest devices source).run db).1 =
      evidence.latest source) :
    (loadEvidence store devices windows now Source.all {}).run db = (evidence, db) := by
  have hnext (source : Source) (rest : List Source) (earlier : Evidence Float) :
      (loadEvidence store devices windows now (source :: rest) earlier).run db =
        (loadEvidence store devices windows now rest
          (((evidence.latest source).map earlier.put).getD earlier)).run db := by
    have hsame : (store.latest devices source).run db = (((store.latest devices source).run db).1, db) :=
      Prod.ext rfl (readsOnly_latest devices source db)
    rw [loadEvidence, StateT.run_bind, hsame]
    simp only [bind, hadmitted]
    cases evidence.latest source <;> rfl
  obtain ⟨blockage, waterLevel, weather⟩ := evidence
  rw [Source.all, hnext, hnext, hnext]
  cases blockage <;> cases waterLevel <;> cases weather <;> rfl

theorem readsOnly_loadEvidence (devices : Devices) (windows : Windows) (now : Instant)
    (sources : List Source) (e : Evidence Float) :
    ReadsOnly (loadEvidence store devices windows now sources e) := by
  induction sources generalizing e with
  | nil => exact .pure _
  | cons source rest ih =>
    refine (readsOnly_latest devices source).bind fun answer => ?_
    cases windows.admitted source now answer with
    | none => exact ih _
    | some o => exact ih _

/-- A site that is judged on what the store has for it. -/
def loaded (db : Database) (t : Thresholds) (windows : Windows) (now : Instant) (devices : Devices) :
    Site Float :=
  Site.recompute { evidence := ((loadEvidence store devices windows now Source.all {}).run db).1 } t

/-- If the thresholds can be had, a site is loaded, whatever the store answers. -/
theorem run_loadSite {t : Thresholds} (hthresholds : thresholds.run.run db = (.ok t, db)) (devices : Devices)
    (windows : Windows) (now : Instant) :
    (loadSite store thresholds.run devices windows now).run db =
      (.ok (loaded db t windows now devices), db) := by
  have hloaded := readsOnly_loadEvidence devices windows now Source.all {} db
  rw [loadSite, StateT.run_bind]
  change (thresholds.run >>= _).run ((loadEvidence store devices windows now Source.all {}).run db).2 = _
  rw [hloaded, StateT.run_bind, hthresholds]
  rfl

end DatabaseSource

namespace Engine

variable {σ : Type} {world : Surroundings σ} {now : Instant} {load : Devices → Site Float}

theorem isShutDown_foldl_register (known : List Devices) (r : Registry) :
    (known.foldl (fun r d => r.register d (load d)) r).isShutDown = r.isShutDown := by
  induction known generalizing r with
  | nil => rfl
  | cons d rest ih => exact ih (r.register d (load d))

/-- Of sites that are registered one after the other, each has its own lane in the end. -/
theorem lane?_foldl_register (load : Devices → Site Float) {known : List Devices}
    (hnodup : (known.map (·.location)).Nodup) {d : Devices} (hd : d ∈ known) (r : Registry) :
    (known.foldl (fun r d => r.register d (load d)) r).lane? d.location = some (r.newLane d (load d)) := by
  -- from the right, as the last lane to be put in is the first to be found
  induction known using List.reverseRecOn with
  | nil => exact absurd hd List.not_mem_nil
  | append_singleton known last ih =>
    rw [List.map_append] at hnodup
    obtain ⟨hknown, -, hlast⟩ := List.nodup_append.mp hnodup
    rw [List.foldl_append, List.foldl_cons, List.foldl_nil, Registry.lane?_register]
    rcases List.mem_append.mp hd with hmem | hmem
    · have hother : d.location ≠ last.location :=
        hlast _ (List.mem_map_of_mem hmem) _ (List.mem_singleton_self _)
      rw [if_neg hother]
      exact ih hknown hmem
    · obtain rfl := List.mem_singleton.mp hmem
      rw [if_pos rfl, Registry.newLane, isShutDown_foldl_register, Registry.newLane]

/-- Known sites with both devices are registered one after the other. -/
theorem run_startEach (world : Surroundings σ) {e : Engine σ} (hload : ∀ d,
      (loadSite world.store (world.thresholds e.timeline.clock) d e.registry.settings.windows now).run
        e.outside = (.ok (load d), e.outside)) (started : Nat) (known : List Devices) :
    ∃ woken, (startEach world now started known).run e =
      (.ok (started + (known.filter (·.isMapped)).length), { e with
        registry := (known.filter (·.isMapped)).foldl (fun r d => r.register d (load d)) e.registry
        woken }) := by
  induction known generalizing e started with
  | nil => exact ⟨e.woken, rfl⟩
  | cons d rest ih =>
    cases hmapped : d.isMapped with
    | false =>
      rw [run_startEach_of_not_isMapped hmapped, List.filter_cons_of_neg (by simp [hmapped])]
      exact ih hload started
    | true =>
      obtain ⟨woken, hregister⟩ := run_register d (load d) e
      have hnext : (startEach world now started (d :: rest)).run e =
          (startEach world now (started + 1) rest).run ((register d (load d)).run e).2 := by
        rw [run_startEach_of_isMapped hmapped, hload]
      rw [hnext, hregister, List.filter_cons_of_pos hmapped, List.length_cons, List.foldl_cons,
        ← Nat.add_assoc, Nat.add_right_comm]
      -- neither the windows nor the clock nor the world have changed for those that are left
      exact ih (e := { e with registry := e.registry.register d (load d), woken }) hload _

/-- The known sites are those that the directory lists. -/
theorem run_startAll {e : Engine σ} {known : List Devices}
    (hdirectory : world.directory.run e.outside = (.ok known, e.outside)) :
    (startAll world now).run e = (startEach world now 0 known).run e := by
  rw [run_startAll_eq, hdirectory]

end Engine

/-- A start leaves the tables as they are, and every site with both devices has a worker that starts from what
the store has for it. -/
theorem DatabaseSource.run_startAll {e : Engine Database} {t : Thresholds} (hkeys : e.outside.Constrained)
    (hfault : e.outside.fault .listLocations = none)
    (hthresholds : thresholds.run.run e.outside = (.ok t, e.outside)) (hopen : e.registry.isShutDown = false)
    (now : Instant) :
    ∃ started after, (Engine.startAll surroundings now).run e = (.ok started, after) ∧
      after.outside = e.outside ∧
      ∀ site ∈ e.outside.locations, (e.outside.listed site).isMapped →
        after.registry.lane? site.id = some
          { devices := e.outside.listed site
            worker := .start
              (loaded e.outside t e.registry.settings.windows now (e.outside.listed site)) } := by
  let sites := e.outside.locations.mergeSort fun a b => decide (a.id ≤ b.id)
  have hperm : sites.Perm e.outside.locations := List.mergeSort_perm _ _
  have hdirectory : directory.run.run e.outside = (.ok (sites.map e.outside.listed), e.outside) :=
    run_directory hkeys hfault
  obtain ⟨woken, hrun⟩ := Engine.run_startEach surroundings (e := e)
    (fun d => run_loadSite hthresholds d _ now) 0 (sites.map e.outside.listed)
  refine ⟨_, _, (Engine.run_startAll hdirectory).trans hrun, rfl, fun site hsite hmapped => ?_⟩
  have hnodup : (((sites.map e.outside.listed).filter (·.isMapped)).map (·.location)).Nodup := by
    refine (List.filter_sublist.map _).nodup ?_
    rw [List.map_map]
    exact (hperm.map _).nodup_iff.mpr hkeys.locations
  have hlisted : e.outside.listed site ∈ (sites.map e.outside.listed).filter (·.isMapped) :=
    List.mem_filter.mpr ⟨List.mem_map_of_mem (hperm.mem_iff.mpr hsite), hmapped⟩
  have hlane := Engine.lane?_foldl_register (loaded e.outside t e.registry.settings.windows now) hnodup
    hlisted e.registry
  rw [Registry.newLane, hopen] at hlane
  exact hlane

end Waterway
