import Mathlib.Algebra.BigOperators.Group.Finset.Basic
import Waterway.Fanout.Hub
import Waterway.Proofs.Keyed

/-!
# Who is subscribed where

What the steps of the hub do to the members of each location, and what holds of the list of locations after
all of them.

## Main definitions

- `Hub.offerTo` — a frame is offered to one connection
- `Hub.Tidy` — a listed location has members, no two of them under one name
- `Hub.listed` — the listed locations

## Main statements

- `members_subscribe`, `members_unsubscribe`, `members_prune` — the members after a step
- `Hub.Tidy.mem_listed` — the listed locations are those that have subscribers
- `Hub.Tidy.locationCount_eq`, `Hub.Tidy.connectionCount_eq` — the counts are what they are taken for
-/

namespace Waterway.Hub

open Finset (sum)

variable {h : Hub} {location : LocationId}

theorem members_congr {h h' : Hub} (hrooms : h'.rooms = h.rooms) (location : LocationId) :
    h'.members location = h.members location := by
  rw [members, members, hrooms]

@[simp]
theorem members_modifyChannel (h : Hub) (n : Nat) (f : Channel → Channel) (location : LocationId) :
    (h.modifyChannel n f).members location = h.members location :=
  rfl

theorem members_setMembers (h : Hub) (location other : LocationId) (ms : List Connection) :
    (h.setMembers location ms).members other = if other = location then ms else h.members other := by
  cases ms with
  | nil =>
    change ((Keyed.erase location h.rooms).lookup other).getD [] = _
    rw [Keyed.lookup_erase]
    split <;> rfl
  | cons c ms =>
    change ((Keyed.put location (c :: ms) h.rooms).lookup other).getD [] = _
    rw [Keyed.lookup_put]
    split <;> rfl

theorem members_subscribe (h : Hub) (c : Connection) (location other : LocationId) :
    (h.subscribe c location).members other =
      if other = location then (h.members location).filter (·.id != c.id) ++ [c] else h.members other :=
  members_setMembers h location other _

theorem members_unsubscribe (h : Hub) (id : String) (location other : LocationId) :
    (h.unsubscribe id location).members other =
      if other = location then (h.members location).filter (·.id != id) else h.members other :=
  members_setMembers h location other _

theorem members_pruneOne (h : Hub) (location other : LocationId) (dead : Connection) :
    (h.pruneOne location dead).members other =
      if other = location then (h.members location).filter (· != dead) else h.members other := by
  rw [pruneOne]
  split
  · rw [members_modifyChannel, members_setMembers]
  · next habsent =>
    split
    · next hother =>
      subst hother
      symm
      rw [List.filter_eq_self]
      rintro c hc
      have hne : c ≠ dead := by
        rintro rfl
        exact habsent hc
      simpa using hne
    · rfl

theorem members_prune (h : Hub) (location other : LocationId) (dead : List Connection) :
    (h.prune location dead).members other =
      if other = location then (h.members location).filter (· ∉ dead) else h.members other := by
  induction dead generalizing h with
  | nil =>
    split
    · next hother => simp [prune, hother]
    · rfl
  | cons d dead ih =>
    change ((h.pruneOne location d).prune location dead).members other = _
    rw [ih, members_pruneOne, members_pruneOne, if_pos rfl, List.filter_filter]
    split
    · congr 1
      funext c
      by_cases hd : c = d <;> by_cases hdead : c ∈ dead <;> simp [hd, hdead]
    · rfl

/-- The hub after a frame has been offered to one connection. -/
def offerTo (h : Hub) (f : Frame) (c : Connection) : Hub :=
  if h.offerOutcome c = .queued then h.modifyChannel c.channel (·.offer f) else h

theorem offerEach_cons (f : Frame) (c : Connection) (cs : List Connection) (h : Hub) :
    offerEach f (c :: cs) h =
      ((c, h.offerOutcome c) :: (offerEach f cs (h.offerTo f c)).1, (offerEach f cs (h.offerTo f c)).2) :=
  rfl

theorem rooms_offerEach (f : Frame) (cs : List Connection) (h : Hub) :
    (offerEach f cs h).2.rooms = h.rooms := by
  induction cs generalizing h with
  | nil => rfl
  | cons c cs ih =>
    rw [offerEach_cons, ih, offerTo]
    split <;> rfl

theorem rooms_pingMembers (cs : List Connection) (h : Hub) : (pingMembers cs h).rooms = h.rooms := by
  induction cs generalizing h with
  | nil => rfl
  | cons c cs ih => exact ih (h.modifyChannel c.channel (·.offer .ping))

/-- A listed location has members, no two of them under one name. -/
structure Tidy (h : Hub) : Prop where
  locations : (h.rooms.map Prod.fst).Nodup
  inhabited : ∀ room ∈ h.rooms, room.2 ≠ []
  names : ∀ location, ((h.members location).map Connection.id).Nodup

namespace Tidy

theorem of_rooms_eq_nil (hrooms : h.rooms = []) : h.Tidy := by
  refine ⟨?_, ?_, fun location => ?_⟩
  · simp [hrooms]
  · simp [hrooms]
  · simp [members, hrooms]

theorem of_rooms_eq (ht : h.Tidy) {h' : Hub} (hrooms : h'.rooms = h.rooms) : h'.Tidy := by
  refine ⟨hrooms ▸ ht.locations, hrooms ▸ ht.inhabited, fun location => ?_⟩
  rw [members_congr hrooms]
  exact ht.names location

theorem setMembers (ht : h.Tidy) (location : LocationId) {ms : List Connection}
    (hms : (ms.map Connection.id).Nodup) : (h.setMembers location ms).Tidy := by
  refine ⟨?_, ?_, fun other => ?_⟩
  · rw [Hub.setMembers]
    split
    · exact Keyed.nodup_map_fst_erase location ht.locations
    · exact Keyed.nodup_map_fst_put ms ht.locations
  · intro room hroom
    rw [Hub.setMembers] at hroom
    split at hroom
    · exact ht.inhabited room (List.mem_of_mem_filter hroom)
    · next hne =>
      rcases Keyed.eq_or_mem_of_mem_put hroom with rfl | hold
      · simpa using hne
      · exact ht.inhabited room hold
  · rw [members_setMembers]
    split
    · exact hms
    · exact ht.names other

/-- The members that are left have names of their own. -/
theorem filter (ht : h.Tidy) (location : LocationId) (stays : Connection → Bool) :
    (((h.members location).filter stays).map Connection.id).Nodup :=
  (List.filter_sublist.map Connection.id).nodup (ht.names location)

theorem subscribe (ht : h.Tidy) (c : Connection) (location : LocationId) : (h.subscribe c location).Tidy := by
  refine ht.setMembers location ?_
  rw [List.map_append, List.map_singleton]
  refine (ht.filter location _).append (List.nodup_singleton _) ?_
  -- nobody else has the name of the newcomer any more
  rw [List.disjoint_singleton]
  intro hmem
  obtain ⟨other, hother, hid⟩ := List.mem_map.mp hmem
  have hne := (List.mem_filter.mp hother).2
  simp [hid] at hne

theorem unsubscribe (ht : h.Tidy) (id : String) (location : LocationId) : (h.unsubscribe id location).Tidy :=
  ht.setMembers location (ht.filter location _)

theorem pruneOne (ht : h.Tidy) (location : LocationId) (dead : Connection) :
    (h.pruneOne location dead).Tidy := by
  rw [Hub.pruneOne]
  split
  · exact (ht.setMembers location (ht.filter location _)).of_rooms_eq rfl
  · exact ht

theorem prune (ht : h.Tidy) (location : LocationId) (dead : List Connection) :
    (h.prune location dead).Tidy :=
  List.foldlRecOn dead _ ht fun _ ht d _ => ht.pruneOne location d

theorem pingAll (ht : h.Tidy) : h.pingAll.Tidy :=
  List.foldlRecOn _ _ (ht.of_rooms_eq (rooms_pingMembers _ h)) fun _ ht gone _ => ht.prune gone.1 [gone.2]

theorem broadcast (ht : h.Tidy) (location : LocationId) (text : String) :
    (h.broadcast location text).2.Tidy :=
  (ht.of_rooms_eq (rooms_offerEach _ _ h)).prune location _

end Tidy

/-- The listed locations. -/
def listed (h : Hub) : Finset LocationId :=
  (h.rooms.map Prod.fst).toFinset

theorem Tidy.members_of_mem (ht : h.Tidy) {room : LocationId × List Connection} (hroom : room ∈ h.rooms) :
    h.members room.1 = room.2 := by
  rw [members, Keyed.lookup_of_mem ht.locations hroom]
  rfl

/-- The listed locations are those that have subscribers. -/
theorem Tidy.mem_listed (ht : h.Tidy) (location : LocationId) :
    location ∈ h.listed ↔ 0 < h.subscriberCount location := by
  rw [listed, List.mem_toFinset, subscriberCount, List.length_pos_iff]
  constructor
  · intro hmem
    obtain ⟨room, hroom, rfl⟩ := List.mem_map.mp hmem
    rw [ht.members_of_mem hroom]
    exact ht.inhabited room hroom
  · intro hne
    by_contra habsent
    refine hne ?_
    have hlookup : h.rooms.lookup location = none := by
      rw [List.lookup_eq_none_iff]
      intro room hroom
      have : location ≠ room.1 := by
        rintro rfl
        exact habsent (List.mem_map_of_mem hroom)
      simpa using this
    rw [members, hlookup]
    rfl

theorem Tidy.locationCount_eq (ht : h.Tidy) : h.locationCount = h.listed.card := by
  rw [listed, List.toFinset_card_of_nodup ht.locations, List.length_map, locationCount]

/-- Subscriptions are counted location by location. -/
theorem Tidy.length_filter_subscriptions (ht : h.Tidy) (p : Connection → Bool) :
    (h.subscriptions.filter fun subscription => p subscription.2).length =
      ∑ location ∈ h.listed, ((h.members location).filter p).length := by
  rw [listed, List.sum_toFinset _ ht.locations, List.map_map, subscriptions, List.filter_flatMap, List.length_flatMap]
  congr 1
  apply List.map_congr_left
  intro room hroom
  simp only [Function.comp_apply, ht.members_of_mem hroom, List.filter_map, List.length_map]
  rfl

theorem Tidy.connectionCount_eq (ht : h.Tidy) :
    h.connectionCount = ∑ location ∈ h.listed, h.subscriberCount location := by
  simpa [connectionCount, subscriberCount] using ht.length_filter_subscriptions fun _ => true

end Waterway.Hub
