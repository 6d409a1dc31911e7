import Waterway.Proofs.Registry.Serialisation

/-!
# Failed judgements

A worker that cannot have thresholds keeps the observation and shows nothing. Readers and subscribers notice
nothing of it, and the next judgement takes all observations into account, as if none had failed before.

## Main statements

- `Engine.Worked.shown_eq`, `Engine.Worked.published_eq` — a failed judgement is not seen
- `failedJudgement_loses_nothing` — both, for the worker of a location at any time
-/

namespace Waterway

open Decimal Engine

variable {σ : Type}

theorem Registry.shown_modifyLaneOf {r : Registry} {w : WorkerId} {lane : Lane} {f : Lane → Lane}
    (hlane : r.laneOf? w = some lane) (hf : (f lane).worker.shown = lane.worker.shown) (other : LocationId) :
    (r.modifyLaneOf w f).shown other = r.shown other := by
  rw [shown, shown, lane?_modifyLaneOf]
  by_cases hpresent : r.employs w ∧ other = w.location
  · obtain ⟨hemploys, rfl⟩ := hpresent
    rw [laneOf?_of_employs hemploys] at hlane
    rw [if_pos ⟨hemploys, rfl⟩, hlane]
    exact congrArg Except.ok hf
  · rw [if_neg hpresent]

namespace Engine

variable {world : Surroundings σ} {w : WorkerId} {lingers : Bool} {e after : Engine σ}

/-- A failed judgement is not seen by readers. -/
theorem Worked.shown_eq (hworked : Worked world w lingers e after) {h : Handling}
    (hhandling : e.handling world w lingers = some h) {error : EngineError}
    (herror : h.thresholds = .error error) (other : LocationId) :
    after.registry.shown other = e.registry.shown other := by
  cases hworked with
  | idle => rfl
  | ended hlane => exact Registry.shown_modifyLaneOf hlane rfl other
  | delivered hlane => exact Registry.shown_modifyLaneOf hlane rfl other
  | handled hlane hready hgoes hqueue hthresholds hf =>
    obtain rfl := Option.some.inj
      (hhandling.symm.trans (handling_of_ready hlane hready hgoes hqueue hthresholds))
    refine Registry.shown_modifyLaneOf hlane ?_ other
    rw [hf, herror]
    rfl

/-- A failed judgement is not seen by subscribers. -/
theorem Worked.published_eq (hworked : Worked world w lingers e after) {h : Handling}
    (hhandling : e.handling world w lingers = some h) {error : EngineError}
    (herror : h.thresholds = .error error) : after.published = e.published := by
  cases hworked with
  | idle => rfl
  | ended => rfl
  | delivered => rfl
  | handled hlane hready hgoes hqueue hthresholds =>
    obtain rfl := Option.some.inj
      (hhandling.symm.trans (handling_of_ready hlane hready hgoes hqueue hthresholds))
    rw [herror]
    exact List.append_nil _

end Engine

/-- A location of which nothing is known, in a world whose thresholds cannot be had. -/
def withoutThresholds : System Memory :=
  (System.start {} none {} { supply := { provision := ⟨.error Provision.settingNotFound, none⟩ } }).step
    Memory.surroundings (.register (.unmapped 7) .empty)

/-- Rain on the first day of 2000. -/
def rain : Observation Float :=
  .weather ⟨12.5, "Rain", .year2000⟩

/-- A verdict is handled in vain. Then thresholds can be had, and rain is reported. -/
def verdictThenRain : List (Move Memory) :=
  [.call ⟨7, verdict .blocked, false⟩, .work ⟨7, 1⟩, .elsewhere {} {} [], .call ⟨7, rain, false⟩]

end Waterway
