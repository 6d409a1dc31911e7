import Waterway.Proofs.Database.Times
import Waterway.Proofs.Reading.Loading

/-!
# Readings age

A stored reading is graded by its age. As time passes it is graded worse or as before, and of two readings the one
observed later is graded no worse. So the envelopes about what is stored are never better later on, and a site that is
started later starts from no more.

## Main definitions

- `Instant.ticks` — the place of an instant on the clock
- `Envelope.Ages` — one envelope is no better than another about the same reading

## Main statements

- `Instant.since_eq`, `Instant.before_iff_ticks_lt` — away from leap seconds, distance and order are those on the clock
- `Window.rank_classify_le` — of two ages the greater is graded no better
- `ages_snapshotEnvelope`, `Windows.admitted_of_later` — one answer of the store, graded at two instants
- `readings_only_age` — all answers of the store

## Design notes

Nothing is asked of a window. Its periods may be negative, and the warning period may be the shorter one, in which case
a reading expires without having been stale. Leap seconds are left out: a distance counts them at some hours and not at
others, so that the age of a reading that was observed in one decreases at midnight.
-/

namespace Waterway

namespace Instant

variable {a b t now later : Instant}

/-- The place of an instant on the clock, in nanoseconds. -/
def ticks (t : Instant) : Int :=
  (t.date.number * 86400 + t.second) * 1000000000 + t.nano

theorem nano_lt_of_not_isLeap (h : t.isLeap = false) : t.nano < 1000000000 := by
  simpa [isLeap] using h

/-- Away from leap seconds a distance is one on the clock. -/
theorem since_eq (ha : a.isLeap = false) (hb : b.isLeap = false) : a.since b = a.ticks - b.ticks := by
  have hadjustment : leapAdjustment a b = 0 := by
    simp [leapAdjustment, ha, hb]
  rw [since, hadjustment, ticks, ticks]
  omega

/-- Away from leap seconds the order of instants is that on the clock. -/
theorem before_iff_ticks_lt (ha : a.isLeap = false) (hb : b.isLeap = false) : a.before b ↔ a.ticks < b.ticks := by
  have hnano := nano_lt_of_not_isLeap ha
  have hnano' := nano_lt_of_not_isLeap hb
  have hsecond := a.second_lt
  have hsecond' := b.second_lt
  rw [before_iff, ticks, ticks]
  omega

/-- Nothing gets younger as time passes. -/
theorem since_le_since (hnow : now.isLeap = false) (hlater : later.isLeap = false) (ht : t.isLeap = false)
    (hle : ¬later.before now) : now.since t ≤ later.since t := by
  rw [before_iff_ticks_lt hlater hnow] at hle
  rw [since_eq hnow ht, since_eq hlater ht]
  omega

/-- What was observed later is no older. -/
theorem since_le_since_of_later (hnow : now.isLeap = false) (ha : a.isLeap = false) (hb : b.isLeap = false)
    (hle : ¬b.before a) : now.since b ≤ now.since a := by
  rw [before_iff_ticks_lt hb ha] at hle
  rw [since_eq hnow ha, since_eq hnow hb]
  omega

end Instant

/-- Of two ages the greater is graded no better, whatever the periods are. -/
theorem Window.rank_classify_le {w : Window} {t t' now now' : Instant} (hage : now.since t ≤ now'.since t') :
    (w.classify t now).rank ≤ (w.classify t' now').rank := by
  by_cases hfresh : now.since t ≤ w.grace
  · simp [classify, hfresh, Freshness.rank]
  · have hfresh' : ¬now'.since t' ≤ w.grace := by omega
    by_cases hstale : now.since t ≤ w.warning
    · rw [classify, classify, if_neg hfresh, if_neg hfresh', if_pos hstale]
      split <;> decide
    · have hstale' : ¬now'.since t' ≤ w.warning := by omega
      have hsame : w.classify t now = w.classify t' now' := by
        rw [classify, classify, if_neg hfresh, if_neg hfresh', if_neg hstale, if_neg hstale']
      exact Nat.le_of_eq (congrArg Freshness.rank hsame)

theorem DeliveryStatus.rank_ofFreshness (freshness : Freshness) : (ofFreshness freshness).rank = freshness.rank := by
  cases freshness <;> rfl

namespace Envelope

/-- The second envelope is no better than the first, and a value in it is that of the first. -/
structure Ages (e e' : Envelope) : Prop where
  kind : e'.kind = e.kind
  status : e.status.rank ≤ e'.status.rank
  payload : ∀ value, e'.payload = some value → e.payload = some value

theorem Ages.refl (e : Envelope) : e.Ages e :=
  ⟨rfl, Nat.le_refl _, fun _ h => h⟩

theorem status_forReading (kind : EventKind) (freshness : Freshness) (value : Json) :
    (forReading kind (some (freshness, value))).status = .ofFreshness freshness := by
  cases freshness <;> rfl

theorem payload_forReading (kind : EventKind) (freshness : Freshness) (value : Json) :
    (forReading kind (some (freshness, value))).payload = if freshness = .expired then none else some value := by
  cases freshness <;> rfl

/-- The worse a reading is graded, the worse is the envelope about it. -/
theorem ages_forReading (kind : EventKind) (value : Json) {freshness freshness' : Freshness}
    (hrank : freshness.rank ≤ freshness'.rank) :
    (forReading kind (some (freshness, value))).Ages (forReading kind (some (freshness', value))) where
  kind := by cases freshness <;> cases freshness' <;> rfl
  status := by
    rw [status_forReading, status_forReading, DeliveryStatus.rank_ofFreshness, DeliveryStatus.rank_ofFreshness]
    exact hrank
  payload := by
    intro shown hshown
    rw [payload_forReading] at hshown ⊢
    split at hshown
    · cases hshown
    · next hkept =>
      -- nothing is graded worse than an expired reading
      have hkept' : freshness ≠ .expired := by
        rintro rfl
        cases freshness' <;> first | exact hkept rfl | exact absurd hrank (by decide)
      rwa [if_neg hkept']

end Envelope

section

variable {now later : Instant} (hnow : now.isLeap = false) (hlater : later.isLeap = false) (hle : ¬later.before now)
  {answer : StoreAnswer (Observation Float)}
  (hstored : ∀ o, answer = .ok (some o) → o.observedAt.isLeap = false)
include hnow hlater hle hstored

/-- One answer of the store makes no better an envelope later on. -/
theorem ages_snapshotEnvelope (windows : Windows) (source : Source) :
    (snapshotEnvelope windows source now answer).Ages (snapshotEnvelope windows source later answer) := by
  -- without a reading the time makes no difference
  rcases answer with error | _ | o
  · exact .refl _
  · exact .refl _
  · have hage := Instant.since_le_since hnow hlater (hstored o rfl) hle
    exact Envelope.ages_forReading _ _ (Window.rank_classify_le hage)

/-- What a site may start from later on, it may start from now. -/
theorem Windows.admitted_of_later {windows : Windows} {source : Source} {o : Observation Float}
    (h : windows.admitted source later answer = some o) : windows.admitted source now answer = some o := by
  obtain ⟨rfl, hage⟩ := admitted_eq_some_iff.mp h
  have hyounger := Instant.since_le_since hnow hlater (hstored o rfl) hle
  exact admitted_eq_some_iff.mpr ⟨rfl, Int.le_trans hyounger hage⟩

end

/-- From an empty state, a feed starts with what is admitted of the answer about it. -/
theorem latest_loadEvidence_all (store : ReadingStore Id) (devices : Devices) (windows : Windows) (now : Instant)
    (source : Source) : (Id.run (loadEvidence store devices windows now Source.all {})).latest source =
      windows.admitted source now (store.latest devices source) := by
  have hempty : ({} : Evidence Float).latest source = none := by cases source <;> rfl
  rw [latest_loadEvidence, if_pos source.mem_all, hempty, Option.or_none]

/-- Away from leap seconds, the envelope about a feed is never better at a later instant, and a value that it brings
then is the one it brought before. If a site is started at the later instant, whatever it holds of a feed it would have
held at the earlier one too. And at any one instant, a reading that was observed later is graded no worse. -/
theorem readings_only_age (store : ReadingStore Id) (devices : Devices) (windows : Windows) {now later : Instant}
    (hnow : now.isLeap = false) (hlater : later.isLeap = false) (hle : ¬later.before now)
    (hstored : ∀ source o, store.latest devices source = .ok (some o) → o.observedAt.isLeap = false) :
    List.Forall₂ Envelope.Ages (Id.run (snapshot store devices windows now))
      (Id.run (snapshot store devices windows later)) ∧
    (∀ t t', ∃ site site', Id.run (loadSite store (pure (.ok t)) devices windows now) = .ok site ∧
      Id.run (loadSite store (pure (.ok t')) devices windows later) = .ok site' ∧
      ∀ source o, site'.evidence.latest source = some o → site.evidence.latest source = some o) ∧
    ∀ (w : Window) (observed observed' : Instant), observed.isLeap = false → observed'.isLeap = false →
      ¬observed'.before observed → (w.classify observed' now).rank ≤ (w.classify observed now).rank := by
  refine ⟨?_, fun t t' => ?_, fun w observed observed' hobserved hobserved' hlast => ?_⟩
  · have hsnapshot (time : Instant) : Id.run (snapshot store devices windows time) =
        Source.all.map fun source => snapshotEnvelope windows source time (store.latest devices source) := rfl
    rw [hsnapshot, hsnapshot, List.forall₂_map_left_iff, List.forall₂_map_right_iff]
    exact List.forall₂_same.mpr fun source _ =>
      ages_snapshotEnvelope hnow hlater hle (hstored source) windows source
  · have hslot (time : Instant) (t : Thresholds) (source : Source) :
        let held := Id.run (loadEvidence store devices windows time Source.all {})
        (Site.recompute { evidence := held } t).evidence.latest source =
          windows.admitted source time (store.latest devices source) := by
      intro held
      rw [Site.evidence_recompute]
      exact latest_loadEvidence_all store devices windows time source
    refine ⟨_, _, rfl, rfl, fun source o hheld => ?_⟩
    have hadmitted := (hslot later t' source).symm.trans hheld
    exact (hslot now t source).trans (Windows.admitted_of_later hnow hlater hle (hstored source) hadmitted)
  · exact Window.rank_classify_le (Instant.since_le_since_of_later hnow hobserved hobserved' hlast)

/-- A water level and a verdict of the year 2000, and no answer about the weather. -/
def station : ReadingStore Id where
  waterLevel _ := .ok (some ⟨120, 0, 48, .stable, .year2000⟩)
  blockage _ := .ok (some ⟨.clear, .year2000⟩)
  weather _ := .error (.collaborator "connection lost")

/-- A warning period shorter than the grace period, and a negative grace period. -/
def hasty : Windows where
  waterLevel := .ofMinutes 10 5
  blockage := .ofMinutes (-3) 10

/-- After ten minutes the water level is fresh and the verdict is stale. A second later both have expired. -/
theorem readings_only_age_hasty :
    let devices : Devices := ⟨7, "Weir", some 1, some 2⟩
    let now := Instant.year2000.addSeconds 600
    let later := Instant.year2000.addSeconds 601
    let snapshotAt (time : Instant) : List Envelope := Id.run (snapshot station devices hasty time)
    (snapshotAt now).map Envelope.status = [.success, .warning, .error] ∧
    (snapshotAt later).map Envelope.status = [.error, .error, .error] ∧
    List.Forall₂ Envelope.Ages (snapshotAt now) (snapshotAt later) ∧
    (hasty.blockage.classify later now).rank ≤ (hasty.blockage.classify .year2000 now).rank := by
  intro devices now later snapshotAt
  have hstored : ∀ source o, station.latest devices source = .ok (some o) → o.observedAt.isLeap = false := by
    intro source o ho
    cases source with
    | waterLevel => cases ho; rfl
    | blockage => cases ho; rfl
    | weather => cases ho
  have hnow : now.isLeap = false := by decide
  have hlater : later.isLeap = false := by decide
  have hle : ¬later.before now := by decide
  obtain ⟨hages, -, hgrades⟩ := readings_only_age station devices hasty hnow hlater hle hstored
  exact ⟨by decide, by decide, hages, hgrades hasty.blockage .year2000 later (by decide) hlater (by decide)⟩

end Waterway
