import Mathlib.Data.List.Forall2
import Waterway.Proofs.SiteHistory
import Waterway.Reading.Bootstrap
import Waterway.Reading.Snapshot

/-!
# Start-up and snapshot agree

The start-up of a site and the snapshot for a new subscriber ask the same store, each in a loop of its own, and each
grades the readings and passes over failures by itself. They come to the same opinion of every feed.

## Main definitions

- `Envelope.Matches` — what the envelope about a feed says goes with what the site holds of it

## Main statements

- `ReadingStore.source_latest` — a store answers with readings of the feed it is asked for
- `latest_loadEvidence` — a site starts from what is admitted of the feeds that are asked
- `matches_snapshotEnvelope` — one answer of the store leads to a slot and an envelope that match
- `loadSite_matches_snapshot` — so do all answers together
-/

namespace Waterway

namespace Envelope

/-- What the envelope about a feed says goes with what the site holds of the feed. -/
structure Matches (e : Envelope) (source : Source) (slot : Option (Observation Float)) : Prop where
  kind : e.kind = .ofSource source
  populated : slot.isSome ↔ e.status = .success
  serialised : ∀ o, slot = some o → e.payload = some o.toJson
  vacant : e.status = .warning ∨ e.status = .error → slot = none
  payload : e.payload.isSome ↔ e.status = .success ∨ e.status = .warning

theorem matches_success (source : Source) (o : Observation Float) :
    (success (.ofSource source) o.toJson).Matches source (some o) where
  kind := rfl
  populated := iff_of_true rfl rfl
  serialised := by rintro _ ⟨⟩; rfl
  vacant := by rintro (h | h) <;> cases h
  payload := iff_of_true rfl (.inl rfl)

theorem matches_stale (source : Source) (message : String) (payload : Json) :
    Matches ⟨.ofSource source, .warning, message, some payload⟩ source none where
  kind := rfl
  populated := iff_of_false Bool.false_ne_true DeliveryStatus.noConfusion
  serialised := by rintro _ ⟨⟩
  vacant _ := rfl
  payload := iff_of_true rfl (.inr rfl)

theorem matches_missing (source : Source) : (missing (.ofSource source)).Matches source none where
  kind := rfl
  populated := iff_of_false Bool.false_ne_true DeliveryStatus.noConfusion
  serialised := by rintro _ ⟨⟩
  vacant _ := rfl
  payload := iff_of_false Bool.false_ne_true (by rintro (h | h) <;> cases h)

end Envelope

/-- What an answer that has been renamed throughout tells. -/
theorem StoreAnswer.exists_of_map {α β : Type} {answer : StoreAnswer α} {f : α → β} {b : β}
    (h : answer.map (·.map f) = .ok (some b)) : ∃ a, f a = b := by
  cases answer with
  | error e => cases h
  | ok found =>
    obtain ⟨a, -, ha⟩ := Option.map_eq_some_iff.mp (Except.ok.inj h)
    exact ⟨a, ha⟩

/-- A store answers with readings of the feed it is asked for. -/
theorem ReadingStore.source_latest {store : ReadingStore Id} {devices : Devices} {source : Source}
    {o : Observation Float} (h : store.latest devices source = .ok (some o)) : o.source = source := by
  unfold latest at h
  split at h
  · cases h
  · cases source <;> obtain ⟨_, rfl⟩ := StoreAnswer.exists_of_map h <;> rfl

theorem Windows.admitted_eq_some {windows : Windows} {source : Source} {now : Instant}
    {answer : StoreAnswer (Observation Float)} {o : Observation Float}
    (h : windows.admitted source now answer = some o) : answer = .ok (some o) := by
  rcases answer with error | _ | found
  · cases h
  · cases h
  · rw [admitted, Option.ite_none_right_eq_some] at h
    rw [Option.some_inj.mp h.2]

/-- A site starts from what is admitted of the feeds that are asked, and keeps what it has of the others. -/
theorem latest_loadEvidence (store : ReadingStore Id) (devices : Devices) (windows : Windows) (now : Instant)
    (source : Source) (sources : List Source) (e : Evidence Float) :
    (Id.run (loadEvidence store devices windows now sources e)).latest source =
      if source ∈ sources then
        (windows.admitted source now (store.latest devices source)).or (e.latest source)
      else e.latest source := by
  induction sources generalizing e with
  | nil => rfl
  | cons first rest ih =>
    have hanswer : Id.run (store.latest devices first) = store.latest devices first := rfl
    rw [loadEvidence, Id.run_bind, hanswer]
    cases hadmitted : windows.admitted first now (store.latest devices first) with
    | none =>
      rw [ih]
      by_cases hfirst : source = first
      · simp [hfirst, hadmitted]
      · simp [hfirst]
    | some o =>
      have hsource : o.source = first := ReadingStore.source_latest (Windows.admitted_eq_some hadmitted)
      rw [ih, Evidence.latest_put, hsource]
      by_cases hfirst : source = first
      · simp [hfirst, hadmitted]
      · simp [hfirst, Ne.symm hfirst]

/-- One answer of the store leads to a slot and an envelope that match. -/
theorem matches_snapshotEnvelope (windows : Windows) (source : Source) (now : Instant)
    (answer : StoreAnswer (Observation Float)) :
    (snapshotEnvelope windows source now answer).Matches source (windows.admitted source now answer) := by
  -- a failure and the absence of a reading are the same to both
  rcases answer with error | _ | o
  · exact Envelope.matches_missing source
  · exact Envelope.matches_missing source
  · cases hgrade : (windows.of source).classify o.observedAt now with
    | fresh =>
      have hadmitted : windows.admitted source now (.ok (some o)) = some o := if_pos (decide_eq_true hgrade)
      rw [hadmitted, snapshotEnvelope, Windows.reading, hgrade]
      exact Envelope.matches_success source o
    | stale =>
      have hadmitted : windows.admitted source now (.ok (some o)) = none :=
        if_neg (by simp [Window.admits, hgrade])
      rw [hadmitted, snapshotEnvelope, Windows.reading, hgrade]
      exact Envelope.matches_stale source _ _
    | expired =>
      have hadmitted : windows.admitted source now (.ok (some o)) = none :=
        if_neg (by simp [Window.admits, hgrade])
      rw [hadmitted, snapshotEnvelope, Windows.reading, hgrade]
      exact Envelope.matches_missing source

theorem Evidence.isComplete_iff {α : Type} (e : Evidence α) : e.isComplete ↔ ∀ source, (e.latest source).isSome := by
  obtain ⟨blockage, waterLevel, weather⟩ := e
  constructor
  · intro h source
    simp only [isComplete, Bool.and_eq_true] at h
    cases source <;> simp [latest, h]
  · intro h
    have hwaterLevel := h .waterLevel
    have hblockage := h .blockage
    have hweather := h .weather
    simp only [latest, Option.isSome_map] at hwaterLevel hblockage hweather
    simp [isComplete, hwaterLevel, hblockage, hweather]

theorem Source.mem_all (source : Source) : source ∈ all := by
  cases source <;> decide

/-- As long as the thresholds are available, a site starts. There is then one envelope per feed in the snapshot, in
order, and each matches what the site holds of its feed; and the site has an analysis if and only if all of them bring
a current value. -/
theorem loadSite_matches_snapshot (store : ReadingStore Id) (t : Thresholds) (devices : Devices) (windows : Windows)
    (now : Instant) :
    ∃ site, Id.run (loadSite store (pure (.ok t)) devices windows now) = .ok site ∧
      List.Forall₂ (fun source (e : Envelope) => e.Matches source (site.evidence.latest source)) Source.all
        (Id.run (snapshot store devices windows now)) ∧
      (Id.run (snapshot store devices windows now)).length = 3 ∧
      (site.analysis.isSome ↔ ∀ e ∈ Id.run (snapshot store devices windows now), e.status = .success) := by
  let evidence := Id.run (loadEvidence store devices windows now Source.all {})
  let envelope (source : Source) : Envelope :=
    snapshotEnvelope windows source now (store.latest devices source)
  have hsnapshot : Id.run (snapshot store devices windows now) = Source.all.map envelope := rfl
  have hslot (source : Source) : (envelope source).Matches source (evidence.latest source) := by
    have hlatest := latest_loadEvidence store devices windows now source Source.all {}
    have hempty : ({} : Evidence Float).latest source = none := by cases source <;> rfl
    rw [if_pos source.mem_all, hempty, Option.or_none] at hlatest
    show (envelope source).Matches source (Evidence.latest (Id.run _) source)
    rw [hlatest]
    exact matches_snapshotEnvelope windows source now _
  refine ⟨({ evidence } : Site Float).recompute t, rfl, ?_, rfl, ?_⟩
  · rw [hsnapshot, List.forall₂_map_right_iff]
    exact List.forall₂_same.mpr fun source _ => hslot source
  · have hanalysis : (({ evidence } : Site Float).recompute t).analysis.isSome = evidence.isComplete := by
      show ((evidence.analysis? _).or none).isSome = _
      rw [Option.or_none, Evidence.isSome_analysis?]
    rw [hanalysis, Evidence.isComplete_iff, hsnapshot, List.forall_mem_map]
    exact ⟨fun h source _ => (hslot source).populated.mp (h source),
      fun h source => (hslot source).populated.mpr (h source source.mem_all)⟩

end Waterway
