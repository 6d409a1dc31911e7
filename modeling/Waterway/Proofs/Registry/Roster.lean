import Waterway.Proofs.Reading.Loading
import Waterway.Proofs.Registry.Membership
import Waterway.Proofs.Registry.Scheduling
import Waterway.Registry.Memory

/-!
# A start that may fail half-way

Nothing is said about the store, the provider of thresholds and the directory: each may answer as it likes, may fail,
and may answer differently each time it is asked. A start loads one known site after the other, in the surroundings that
the one before it has left, and registers it; the first that fails is the end of it, and those before it stay
registered.

## Main definitions

- `Loading.after` — the surroundings that a loading leaves
- `Engine.loading`, `Engine.surroundingsAfter` — what a site is loaded from in the course of a start
- `Engine.Started` — some sites have been loaded and registered, in an engine that had none
- `Registry.Idle` — no worker has anything to handle or to deliver

## Main statements

- `Engine.Started.register` — one site more
- `Engine.Started.startEach` — a start gets as far as the first site that fails
- `Engine.steady_idle` — idle workers publish nothing
- `start_exact` — what a start comes to
-/

namespace Waterway

open Engine

variable {σ : Type}

/-- The surroundings when a site has been loaded, or has failed. -/
def Loading.after (l : Loading σ) : σ :=
  ((loadSite l.store l.thresholds l.devices l.windows l.now).run l.surroundings).2

/-- A site that has failed has failed for want of thresholds. -/
theorem Loading.answer_of_outcome {l : Loading σ} {error : EngineError} (h : l.outcome = .error error) :
    l.answer = .error error := by
  rw [outcome_eq] at h
  cases hanswer : l.answer with
  | error other =>
    rw [hanswer] at h
    cases h
    rfl
  | ok t =>
    rw [hanswer] at h
    cases h

/-- A worker has nothing to handle and nothing to deliver. -/
structure Lane.Idle (l : Lane) : Prop where
  queue : l.queue = []
  activity : ∀ delivery ticket answer, l.activity ≠ .delivering delivery ticket answer

/-- No worker has anything to handle or to deliver, not even one that has been told to stop. -/
def Registry.Idle (r : Registry) : Prop :=
  ∀ entry ∈ r.staff, entry.2.Idle

theorem Registry.idle_iff {r : Registry} : r.Idle ↔ (∀ e ∈ r.lanes, e.2.Idle) ∧ ∀ e ∈ r.former, e.2.Idle := by
  simp only [Registry.Idle, staff, List.mem_append, or_imp, forall_and, List.forall_mem_map]

namespace Registry.Idle

variable {r : Registry}

theorem of_laneOf? (h : r.Idle) {w : WorkerId} {l : Lane} (hlane : r.laneOf? w = some l) : l.Idle := by
  rw [laneOf?_eq_lookup] at hlane
  obtain ⟨before, later, hsplit, -⟩ := List.lookup_eq_some_iff.mp hlane
  exact h (w, l) (by simp [hsplit])

theorem modifyLaneOf (h : r.Idle) (w : WorkerId) {f : Lane → Lane} (hf : ∀ l, (f l).Idle) :
    (r.modifyLaneOf w f).Idle := by
  -- a lane is as it was, or has been changed
  have hupdate {κ : Type} [BEq κ] (key : κ) {entries : List (κ × Lane)} (hentries : ∀ e ∈ entries, e.2.Idle) :
      ∀ e ∈ Keyed.update key f entries, e.2.Idle := by
    intro e he
    obtain ⟨⟨_, l⟩, hmem, rfl⟩ := List.mem_map.mp he
    dsimp only
    split
    · exact hf l
    · exact hentries _ hmem
  obtain ⟨hlanes, hformer⟩ := idle_iff.mp h
  rw [Registry.modifyLaneOf]
  split
  · exact idle_iff.mpr ⟨hupdate w.location hlanes, hformer⟩
  · exact idle_iff.mpr ⟨hlanes, hupdate w hformer⟩

/-- Who is registered has nothing to do yet, and who is replaced has no more than before. -/
theorem register (h : r.Idle) (devices : Devices) (site : Site Float) : (r.register devices site).Idle := by
  obtain ⟨hlanes, hformer⟩ := idle_iff.mp h
  refine idle_iff.mpr ⟨fun e he => ?_, fun e he => ?_⟩
  · rcases Keyed.eq_or_mem_of_mem_put he with rfl | hmem
    · exact ⟨rfl, nofun⟩
    · exact hlanes e hmem
  · rcases List.mem_append.mp he with hmem | hmem
    · exact hformer e hmem
    · obtain ⟨l, hlane, rfl⟩ := Option.map_eq_some_iff.mp (Option.mem_toList.mp hmem)
      obtain ⟨hqueue, hactivity⟩ := h.of_laneOf? (laneOf?_latest hlane)
      exact ⟨hqueue, hactivity⟩

end Registry.Idle

namespace Engine

variable {world : Surroundings σ} {now : Instant} {e : Engine σ}

/-- A site is loaded with what the engine knows and asks. -/
def loading (world : Surroundings σ) (now : Instant) (e : Engine σ) (devices : Devices) (s : σ) : Loading σ where
  store := world.store
  thresholds := world.thresholds e.timeline.clock
  devices := devices
  windows := e.registry.settings.windows
  now := now
  surroundings := s

/-- The surroundings when some sites have been loaded one after the other. -/
def surroundingsAfter (world : Surroundings σ) (now : Instant) (e : Engine σ) (known : List Devices) (s : σ) : σ :=
  known.foldl (fun s devices => (e.loading world now devices s).after) s

/-- A mapped site fails and is the end, or it is registered and the others follow. -/
theorem run_startEach_loading {devices : Devices} (h : devices.isMapped) (started : Nat) (rest : List Devices) :
    (startEach world now started (devices :: rest)).run e =
      match (e.loading world now devices e.outside).outcome with
      | .error error => (.error error, { e with outside := (e.loading world now devices e.outside).after })
      | .ok site => (startEach world now (started + 1) rest).run
          ((register devices site).run { e with outside := (e.loading world now devices e.outside).after }).2 :=
  run_startEach_of_isMapped h world now started rest e

/-- Some sites have been loaded and registered one after the other, in an engine that had none. Of those at one location
the last has stayed. -/
structure Started (world : Surroundings σ) (now : Instant) (e : Engine σ) (s : σ) (known : List Devices)
    (after : Engine σ) : Prop where
  loaded : ∀ earlier devices later, known = earlier ++ devices :: later →
    ∃ site, (e.loading world now devices (e.surroundingsAfter world now earlier s)).outcome = .ok site ∧
      (devices.location ∉ later.map (·.location) →
        after.registry.lane? devices.location = some (e.registry.newLane devices site))
  contains : ∀ location, after.registry.contains location ↔ location ∈ known.map (·.location)
  distinct : (after.registry.lanes.map Prod.fst).Nodup
  idle : e.registry.Idle → after.registry.Idle
  others : ∃ lanes former started outside woken,
    after = { e with registry := { e.registry with lanes, former, started }, outside, woken }

namespace Started

variable {s : σ} {known : List Devices} {after : Engine σ}

theorem of_empty (hempty : e.registry.lanes = []) (outside : σ) :
    Started world now e s [] { e with outside } where
  loaded := fun earlier devices later hsplit => by simp at hsplit
  contains := by simp [Registry.contains, Registry.lane?, hempty]
  distinct := by simp [hempty]
  idle := id
  others := ⟨e.registry.lanes, e.registry.former, e.registry.started, outside, e.woken, rfl⟩

/-- The surroundings are not among what has been started. -/
theorem withOutside (h : Started world now e s known after) (outside : σ) :
    Started world now e s known { after with outside } where
  loaded := h.loaded
  contains := h.contains
  distinct := h.distinct
  idle := h.idle
  others := by
    obtain ⟨lanes, former, started, _, woken, rfl⟩ := h.others
    exact ⟨lanes, former, started, outside, woken, rfl⟩

/-- Later sites are loaded with what the engine knew at first. -/
theorem loading_eq (h : Started world now e s known after) (devices : Devices) (outside : σ) :
    after.loading world now devices outside = e.loading world now devices outside := by
  obtain ⟨_, _, _, _, _, rfl⟩ := h.others
  rfl

/-- One site more. -/
theorem register (h : Started world now e s known after) {devices : Devices} {site : Site Float}
    (hsite : (e.loading world now devices (e.surroundingsAfter world now known s)).outcome = .ok site) :
    Started world now e s (known ++ [devices]) ((register devices site).run after).2 ∧
      ((register devices site).run after).2.outside = after.outside := by
  obtain ⟨woken, hrun⟩ := run_register devices site after
  have hlane (location : LocationId) : (after.registry.register devices site).lane? location =
      if location = devices.location then some (e.registry.newLane devices site)
      else after.registry.lane? location := by
    obtain ⟨_, _, _, _, _, rfl⟩ := h.others
    exact Registry.lane?_register _ devices site location
  rw [hrun]
  refine ⟨⟨fun earlier d later hsplit => ?_, fun location => ?_, ?_, fun hidle => ?_, ?_⟩, rfl⟩
  · -- the new site is the last, or it stands behind all that were there
    rcases later.eq_nil_or_concat' with rfl | ⟨later, last, rfl⟩
    · obtain ⟨rfl, rfl⟩ : known = earlier ∧ devices = d := by simpa using hsplit
      exact ⟨site, hsite, fun _ => (hlane _).trans (if_pos rfl)⟩
    · rw [← List.cons_append, ← List.append_assoc] at hsplit
      obtain ⟨rfl, hlast⟩ := List.append_inj' hsplit rfl
      obtain rfl : devices = last := by simpa using hlast
      obtain ⟨site', hsite', hstays⟩ := h.loaded earlier d later rfl
      refine ⟨site', hsite', fun hnew => ?_⟩
      rw [List.map_append, List.mem_append, not_or] at hnew
      exact (hlane _).trans ((if_neg (by simpa using hnew.2)).trans (hstays hnew.1))
  · rw [Registry.contains, hlane, List.map_append, List.mem_append, ← h.contains]
    by_cases hlocation : location = devices.location <;> simp [hlocation, Registry.contains]
  · exact Keyed.nodup_map_fst_put _ h.distinct
  · exact (h.idle hidle).register devices site
  · obtain ⟨_, _, _, outside, _, rfl⟩ := h.others
    exact ⟨_, _, _, outside, woken, rfl⟩

/-- A start gets as far as the first site that fails. -/
theorem startEach (h : Started world now e s known after)
    (houtside : after.outside = e.surroundingsAfter world now known s) (started : Nat) (rest : List Devices) :
    let result := (startEach world now started rest).run after
    ∃ more later, rest.filter (·.isMapped) = more ++ later ∧ Started world now e s (known ++ more) result.2 ∧
      ((later = [] ∧ result.1 = .ok (started + more.length) ∧
          result.2.outside = e.surroundingsAfter world now (known ++ more) s) ∨
        ∃ failed others error, later = failed :: others ∧
          (e.loading world now failed (e.surroundingsAfter world now (known ++ more) s)).outcome = .error error ∧
          result.1 = .error error ∧
          result.2.outside = e.surroundingsAfter world now (known ++ more ++ [failed]) s) := by
  induction rest generalizing known after started with
  | nil =>
    refine ⟨[], [], rfl, ?_, .inl ⟨rfl, rfl, ?_⟩⟩
    · rw [List.append_nil]
      exact h
    · rw [List.append_nil]
      exact houtside
  | cons devices rest ih =>
    cases hmapped : devices.isMapped with
    | false =>
      rw [run_startEach_of_not_isMapped hmapped, List.filter_cons_of_neg (by simp [hmapped])]
      exact ih h houtside started
    | true =>
      have hafter : e.surroundingsAfter world now (known ++ [devices]) s =
          (e.loading world now devices after.outside).after := by
        rw [surroundingsAfter, List.foldl_append, houtside]
        rfl
      rw [run_startEach_loading hmapped, h.loading_eq, List.filter_cons_of_pos hmapped]
      cases houtcome : (e.loading world now devices after.outside).outcome with
      | error error =>
        refine ⟨[], devices :: rest.filter (·.isMapped), rfl, ?_, .inr ⟨devices, _, error, rfl, ?_, rfl, ?_⟩⟩
        · rw [List.append_nil]
          exact h.withOutside _
        · rw [List.append_nil, ← houtside, houtcome]
        · rw [List.append_nil, hafter]
      | ok site =>
        rw [houtside] at houtcome
        obtain ⟨hstarted, hsame⟩ := (h.withOutside (e.loading world now devices after.outside).after).register houtcome
        obtain ⟨more, later, hfilter, hresult⟩ := ih hstarted (hsame.trans hafter.symm) (started + 1)
        refine ⟨devices :: more, later, congrArg (devices :: ·) hfilter, ?_⟩
        rw [List.append_assoc, List.singleton_append] at hresult
        rw [List.length_cons, ← Nat.add_assoc, Nat.add_right_comm]
        exact hresult

/-- No location is listed twice. -/
theorem length_locations (h : Started world now e s known after) (hnodup : (known.map (·.location)).Nodup) :
    after.registry.locations.length = known.length := by
  have hperm : (after.registry.lanes.map Prod.fst).Perm (known.map (·.location)) := by
    rw [List.perm_ext_iff_of_nodup h.distinct hnodup]
    intro location
    rw [← h.contains, ← Registry.mem_locations, Registry.locations, List.mem_mergeSort]
  rw [Registry.locations, List.length_mergeSort, hperm.length_eq, List.length_map]

end Started

/-- Idle workers publish nothing. -/
theorem steady_idle (world : Surroundings σ) (published : List (WorkerId × Analysis Float)) :
    Steady world fun e => e.registry.Idle ∧ e.published = published where
  work := by
    rintro w e ⟨hidle, hpublished⟩
    have hworked := worked_work world w false e
    generalize ((work world w).run e).2 = after at hworked
    cases hworked with
    | idle => exact ⟨hidle, hpublished⟩
    | ended => exact ⟨hidle.modifyLaneOf w fun _ => ⟨rfl, nofun⟩, hpublished⟩
    | delivered hlane hactivity => exact absurd hactivity ((hidle.of_laneOf? hlane).activity _ _ _)
    | handled hlane _ _ hqueue =>
      rw [(hidle.of_laneOf? hlane).queue] at hqueue
      cases hqueue
  elsewhere := fun _ _ _ h => h

end Engine

/-- What a start comes to in an engine where no location is registered. If the directory fails, so does the start, and
nothing has been registered. Otherwise the known sites that are mapped are loaded one after the other, each in the
surroundings that the one before it has left, and nothing else is asked of the world. Each that has been loaded is
registered with what it has been loaded with, and stays unless another takes its location. If there is a site for which
the thresholds cannot be had, it is the end, and the sites before it are those that are registered; if there is none,
the result is how many there are. Nothing is published, and where nobody was still at work for a location that had been
given up before, nothing is published when the workers have run either. -/
theorem start_exact (world : Surroundings σ) (now : Instant) (e : Engine σ) (hempty : e.registry.lanes = []) :
    let listing := world.directory.run e.outside
    let result := (startAll world now).run e
    (∀ error, listing.1 = .error error → result = (.error error, { e with outside := listing.2 })) ∧
    ∀ known, listing.1 = .ok known →
      let loading := fun (earlier : List Devices) devices =>
        e.loading world now devices (e.surroundingsAfter world now earlier listing.2)
      ∃ before later, known.filter (·.isMapped) = before ++ later ∧
        (∀ earlier devices others, before = earlier ++ devices :: others →
          ∃ site, (loading earlier devices).outcome = .ok site ∧
            (devices.location ∉ others.map (·.location) →
              result.2.registry.lane? devices.location = some (e.registry.newLane devices site))) ∧
        (∀ location, location ∈ result.2.registry.locations ↔ location ∈ before.map (·.location)) ∧
        ((before.map (·.location)).Nodup → result.2.registry.locations.length = before.length) ∧
        (∃ lanes former started outside woken,
          result.2 = { e with registry := { e.registry with lanes, former, started }, outside, woken }) ∧
        (e.registry.Idle → ((settle world).run result.2).2.published = e.published) ∧
        ((later = [] ∧ result.1 = .ok before.length ∧
            result.2.outside = e.surroundingsAfter world now before listing.2) ∨
          ∃ failed others error, later = failed :: others ∧ (loading before failed).answer = .error error ∧
            result.1 = .error error ∧
            result.2.outside = e.surroundingsAfter world now (before ++ [failed]) listing.2) := by
  intro listing result
  constructor
  · intro error hfailed
    exact (run_startAll_eq world now e).trans (by rw [hfailed])
  · intro known hknown loading
    have hrun : result = (startEach world now 0 known).run { e with outside := listing.2 } :=
      (run_startAll_eq world now e).trans (by rw [hknown])
    have hnobody : Started world now e listing.2 [] { e with outside := listing.2 } := .of_empty hempty listing.2
    obtain ⟨before, later, hsplit, hstarted, hresult⟩ := hnobody.startEach rfl 0 known
    rw [← hrun, List.nil_append] at hstarted hresult
    have hpublished : result.2.published = e.published := by
      obtain ⟨_, _, _, _, _, hothers⟩ := hstarted.others
      rw [hothers]
    refine ⟨before, later, hsplit, hstarted.loaded, fun location => ?_, hstarted.length_locations, hstarted.others,
      fun hidle => ?_, ?_⟩
    · rw [Registry.mem_locations]
      exact hstarted.contains location
    · exact ((steady_idle world e.published).settle result.2 ⟨hstarted.idle hidle, hpublished⟩).2
    · rcases hresult with ⟨hlater, hanswer, houtside⟩ | ⟨failed, others, error, hlater, houtcome, herror, houtside⟩
      · exact .inl ⟨hlater, by rw [hanswer, Nat.zero_add], houtside⟩
      · exact .inr ⟨failed, others, error, hlater, Loading.answer_of_outcome houtcome, herror, houtside⟩

/-- The known sites: the second is not mapped. -/
def neighbourhood : List Devices :=
  [⟨7, "Weir", some 1, some 2⟩, ⟨8, "Ford", some 3, none⟩, ⟨9, "Lock", some 4, some 5⟩, ⟨10, "Mill", some 6, some 7⟩]

/-- An engine that has registered nobody, and gets thresholds for one site. -/
def rationed : Engine Memory where
  registry := {}
  outside := { directory := .ok neighbourhood, supply := { provision := ⟨.ok Provision.standard, some 1⟩ } }

/-- The second mapped site is the end: the first is registered, and of the others nobody is asked. -/
theorem start_exact_rationed :
    let result := (startAll Memory.surroundings .year2000).run rationed
    rationed.registry.lanes = [] ∧ result.1 = .error Provision.settingNotFound ∧
      (∀ location, location ∈ result.2.registry.locations ↔ location = 7) ∧
      result.2.outside.inquiries.map (·.key) = [1, 2, 7, 4, 5, 9] := by
  intro result
  have hanswer : result.1 = .error Provision.settingNotFound := rfl
  obtain ⟨before, later, hsplit, -, hlocations, -⟩ :=
    (start_exact Memory.surroundings .year2000 rationed rfl).2 neighbourhood rfl
  have hweir : 7 ∈ result.2.registry.locations := Registry.mem_locations.mpr rfl
  have hlock : 9 ∉ result.2.registry.locations := mt Registry.mem_locations.mp (by decide)
  refine ⟨rfl, hanswer, fun location => ?_, rfl⟩
  rw [hlocations] at hweir hlock ⊢
  match before, hsplit with
  | [], _ => exact absurd hweir List.not_mem_nil
  | [first], hsplit =>
    obtain rfl : _ = first := List.head_eq_of_cons_eq hsplit
    exact List.mem_singleton
  | first :: second :: others, hsplit =>
    obtain rfl : _ = second := List.head_eq_of_cons_eq (List.tail_eq_of_cons_eq hsplit)
    exact absurd (List.mem_cons_of_mem _ List.mem_cons_self) hlock

end Waterway
