import Waterway.Proofs.Fanout.Audience

/-!
# The directory of subscribers

The directory lists the locations that have subscribers, each with its subscribers under their names, however
they came and went. What is addressed to one location concerns no other.

## Main definitions

- `Audience.Event.Spares` — an event is not addressed to a location

## Main statements

- `Audience.directory_exact` — the directory is exact after any course of events
-/

namespace Waterway.Audience

variable {a : Audience} {location : LocationId}

/-- An event is not addressed to a location, nor to all of them. -/
def Event.Spares (location : LocationId) : Event → Prop
  | .connect _ _ | .take _ _ | .hangUp _ | .cancel _ => True
  | .pingAll | .shutdownAll => False
  | .subscribe _ other | .unsubscribe _ other | .broadcast other _ _ | .prune other _ => location ≠ other

/-- Who is subscribed at a location is a matter of what is addressed to it. -/
theorem Sound.members_step_of_spares (hs : a.Sound) {e : Event} (he : e.Spares location) :
    (a.step e).hub.members location = a.hub.members location := by
  cases e with
  | connect id capacity => rfl
  | subscribe c other =>
    rw [Audience.step, hub_touch]
    split
    · exact (Hub.members_subscribe a.hub c other location).trans (if_neg he)
    · rfl
  | unsubscribe id other => exact (Hub.members_unsubscribe a.hub id other location).trans (if_neg he)
  | broadcast other text timeout =>
    rw [hs.hub_broadcast, Hub.members_broadcast (hs.nodup_channels other), if_neg he]
  | pingAll => exact he.elim
  | shutdownAll => exact he.elim
  | prune other dead => exact (Hub.members_prune a.hub other location dead).trans (if_neg he)
  | take c n =>
    rw [hs.hub_take]
    split <;> rfl
  | hangUp c =>
    rw [hs.hub_hangUp]
    split <;> rfl
  | cancel c =>
    rw [Audience.step, hub_touch]
    split <;> rfl

/-- After any course of events a location is listed if and only if it has subscribers, which are known by
names of their own. The counts are taken of these, and what follows changes no location but the one it is
addressed to. -/
theorem directory_exact (events : List Event) :
    let hub := (after events).hub
    ((hub.rooms.map Prod.fst).Nodup ∧ ∀ room ∈ hub.rooms, room.2 ≠ []) ∧
    (∀ location, ((hub.members location).map Connection.id).Nodup ∧
      ∀ c ∈ hub.members location, (hub.members location).find? (·.id == c.id) = some c) ∧
    (∀ location, location ∈ hub.listed ↔ 0 < hub.subscriberCount location) ∧
    hub.locationCount = hub.listed.card ∧
    hub.connectionCount = ∑ location ∈ hub.listed, hub.subscriberCount location ∧
    ∀ e location, e.Spares location →
      (after (events ++ [e])).hub.members location = hub.members location := by
  intro hub
  have hs := sound_after events
  have ht : hub.Tidy := hs.tidy
  refine ⟨⟨ht.locations, ht.inhabited⟩, fun location => ?_, ht.mem_listed, ht.locationCount_eq,
    ht.connectionCount_eq, ?_⟩
  · refine ⟨ht.names location, ?_⟩
    intro c hc
    exact find?_of_mem (ht.names location) hc
  · intro e location he
    rw [after_concat]
    exact hs.members_step_of_spares he

/-- A connection subscribed at two locations goes away. -/
def goneTwice : List Event :=
  [.connect "a" 4, .subscribe ⟨"a", 0⟩ 7, .subscribe ⟨"a", 0⟩ 8, .hangUp ⟨"a", 0⟩]

/-- A broadcast to the one location leaves it listed at the other. -/
theorem directory_exact_goneTwice :
    let after := (after (goneTwice ++ [.broadcast 7 "rising" 2000])).hub
    after.members 7 = [] ∧ after.members 8 = [⟨"a", 0⟩] ∧ 8 ∈ after.listed ∧ after.connectionCount = 1 := by
  intro after
  have hother : after.members 8 = [⟨"a", 0⟩] :=
    (directory_exact goneTwice).2.2.2.2.2 (.broadcast 7 "rising" 2000) 8 (show (8 : LocationId) ≠ 7 by decide)
  refine ⟨by decide, hother, ?_, by decide⟩
  rw [(directory_exact _).2.2.1 8, Hub.subscriberCount, hother]
  decide

end Waterway.Audience
