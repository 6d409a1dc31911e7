import Waterway.Proofs.Fanout.Channels

/-!
# All connections at once

What a heartbeat and the end of the program do to each connection, if none is subscribed twice.

## Main definitions

- `Hub.Distinct` — no connection is subscribed twice

## Main statements

- `Hub.Tidy.members_pingAll`, `Hub.Tidy.channelOf_pingAll` — who does not receive any more is removed and evicted
- `Hub.Tidy.channelOf_shutdownAll` — everybody is evicted
-/

namespace Waterway

theorem Channel.offer_of_not_receiving {c : Channel} (h : c.receiving = false) (f : Frame) : c.offer f = c := by
  simp [offer, offerOutcome, h]

namespace Hub

variable {h : Hub} {location : LocationId} {c : Connection}

/-- No connection is subscribed twice, and no two have the same channel. -/
def Distinct (h : Hub) : Prop :=
  ∀ location, ∀ c ∈ h.members location, ∀ location', ∀ c' ∈ h.members location', c.channel = c'.channel →
    location = location' ∧ c = c'

theorem Tidy.mem_subscriptions (ht : h.Tidy) : (location, c) ∈ h.subscriptions ↔ c ∈ h.members location := by
  refine ⟨fun hmem => ht.mem_members hmem, fun hc => ?_⟩
  cases hlookup : h.rooms.lookup location with
  | none =>
    rw [members, hlookup] at hc
    cases hc
  | some ms =>
    rw [members, hlookup] at hc
    obtain ⟨before, after, hrooms, -⟩ := List.lookup_eq_some_iff.mp hlookup
    refine List.mem_flatMap.mpr ⟨(location, ms), ?_, List.mem_map_of_mem hc⟩
    simp [hrooms]

theorem Tidy.nodup_subscriptions (ht : h.Tidy) (hd : h.Distinct) :
    (h.subscriptions.map fun subscription => subscription.2.channel).Nodup := by
  have hpairs : h.subscriptions.Nodup := by
    rw [subscriptions, List.nodup_flatMap]
    constructor
    · intro room hroom
      have hnames := ht.names room.1
      rw [ht.members_of_mem hroom] at hnames
      exact hnames.of_map.map (fun _ _ heq => (Prod.mk.inj heq).2)
    · refine (List.pairwise_map.mp ht.locations).imp ?_
      intro room room' hne subscription hmem hmem'
      obtain ⟨c, -, rfl⟩ := List.mem_map.mp hmem
      obtain ⟨c', -, heq⟩ := List.mem_map.mp hmem'
      exact hne (Prod.mk.inj heq).1.symm
  refine hpairs.map_on ?_
  intro subscription hmem subscription' hmem' hchannel
  have hsame := hd _ _ (ht.mem_members hmem) _ _ (ht.mem_members hmem') hchannel
  exact Prod.ext hsame.1 hsame.2

/-- A channel that changes with the first of several targets does not change again with the others. -/
theorem changeOnce_cons {target : LocationId × Connection} {targets : List (LocationId × Connection)}
    (hfresh : target.2.channel ∉ targets.map fun target => target.2.channel) (f : Channel → Channel) (ch : Channel)
    (n : Nat) :
    let first := if target.2.channel = n then f ch else ch
    (if ∃ other ∈ targets, other.2.channel = n then f first else first) =
      if ∃ other ∈ target :: targets, other.2.channel = n then f ch else ch := by
  by_cases hn : target.2.channel = n
  · subst hn
    have hothers : ¬∃ other ∈ targets, other.2.channel = target.2.channel := by
      rintro ⟨other, hother, heq⟩
      exact hfresh (List.mem_map.mpr ⟨other, hother, heq⟩)
    simp [hothers]
  · have hothers : (∃ other ∈ target :: targets, other.2.channel = n) ↔ ∃ other ∈ targets, other.2.channel = n := by
      simp only [List.mem_cons, exists_eq_or_imp, hn, false_or]
    rw [if_neg hn, if_congr hothers rfl rfl]

/-- Channels of their own change once each. -/
theorem channel_modifyEach (f : Channel → Channel) {targets : List (LocationId × Connection)}
    (hnodup : (targets.map fun target => target.2.channel).Nodup) (h : Hub) (n : Nat) :
    (targets.foldl (fun h target => h.modifyChannel target.2.channel f) h).channel n =
      if ∃ target ∈ targets, target.2.channel = n then f (h.channel n) else h.channel n := by
  induction targets generalizing h with
  | nil => simp
  | cons target targets ih =>
    obtain ⟨hfresh, htargets⟩ := List.nodup_cons.mp hnodup
    have hfirst : (h.modifyChannel target.2.channel f).channel n =
        if target.2.channel = n then f (h.channel n) else h.channel n := by
      rw [channel_modifyChannel]
      by_cases hn : target.2.channel = n
      · simp [hn]
      · rw [if_neg hn, if_neg (Ne.symm hn)]
    rw [List.foldl_cons, ih htargets, hfirst]
    exact changeOnce_cons hfresh f (h.channel n) n

theorem rooms_modifyEach (f : Channel → Channel) (targets : List (LocationId × Connection)) (h : Hub) :
    (targets.foldl (fun h target => h.modifyChannel target.2.channel f) h).rooms = h.rooms := by
  induction targets generalizing h with
  | nil => rfl
  | cons target targets ih => exact ih (h.modifyChannel target.2.channel f)

theorem members_pruneEach (gone : List (LocationId × Connection)) (h : Hub) (location : LocationId) :
    (gone.foldl (fun h target => h.prune target.1 [target.2]) h).members location =
      (h.members location).filter fun c => (location, c) ∉ gone := by
  induction gone generalizing h with
  | nil => simp
  | cons target gone ih =>
    rw [List.foldl_cons, ih, members_prune]
    split
    · next hlocation =>
      subst hlocation
      rw [List.filter_filter]
      apply List.filter_congr
      intro c _
      by_cases hc : c = target.2 <;> simp [hc, Prod.ext_iff]
    · next hlocation =>
      apply List.filter_congr
      intro c _
      simp [Prod.ext_iff, hlocation]

/-- Who is removed from where it is subscribed is evicted. -/
theorem channel_pruneEach {gone : List (LocationId × Connection)}
    (hnodup : (gone.map fun target => target.2.channel).Nodup)
    (hmem : ∀ target ∈ gone, target.2 ∈ h.members target.1) (n : Nat) :
    (gone.foldl (fun h target => h.prune target.1 [target.2]) h).channel n =
      if ∃ target ∈ gone, target.2.channel = n then (h.channel n).evict else h.channel n := by
  induction gone generalizing h with
  | nil => simp
  | cons target gone ih =>
    obtain ⟨hfresh, hgone⟩ := List.nodup_cons.mp hnodup
    have hfirst : (h.prune target.1 [target.2]).channel n =
        if target.2.channel = n then (h.channel n).evict else h.channel n := by
      refine (channel_pruneOne h target.1 target.2 n).trans ?_
      simp [hmem target List.mem_cons_self]
    -- the others are still subscribed, as they are other connections
    have hrest : ∀ other ∈ gone, other.2 ∈ (h.prune target.1 [target.2]).members other.1 := by
      intro other hother
      have hne : other.2 ≠ target.2 := by
        intro heq
        exact hfresh (List.mem_map.mpr ⟨other, hother, congrArg Connection.channel heq⟩)
      have hold := hmem other (List.mem_cons_of_mem _ hother)
      rw [members_prune]
      split
      · next hlocation =>
        rw [hlocation] at hold
        simpa [hne] using hold
      · exact hold
    rw [List.foldl_cons, ih hgone hrest, hfirst]
    exact changeOnce_cons hfresh Channel.evict (h.channel n) n

/-- Who has gone when a heartbeat comes. -/
def gone (h : Hub) : List (LocationId × Connection) :=
  h.subscriptions.filter fun subscription => !(h.channelOf subscription.2).receiving

theorem pingAll_eq (h : Hub) :
    h.pingAll = h.gone.foldl (fun h target => h.prune target.1 [target.2])
      (h.subscriptions.foldl (fun h target => h.modifyChannel target.2.channel (·.offer .ping)) h) := by
  rw [pingAll, pingMembers_eq_foldl, List.foldl_map]
  rfl

namespace Tidy

variable (ht : h.Tidy)
include ht

theorem mem_gone : (location, c) ∈ h.gone ↔ c ∈ h.members location ∧ (h.channelOf c).receiving = false := by
  rw [gone, List.mem_filter, ht.mem_subscriptions, Bool.not_eq_true']

/-- Who still receives stays subscribed. -/
theorem members_pingAll (location : LocationId) :
    h.pingAll.members location = (h.members location).filter fun c => (h.channelOf c).receiving := by
  rw [pingAll_eq, members_pruneEach, members_congr (rooms_modifyEach _ _ h)]
  apply List.filter_congr
  intro c hc
  simp [ht.mem_gone, hc]

variable (hd : h.Distinct) (hc : c ∈ h.members location)
include hd hc

theorem channelOf_pingAll :
    h.pingAll.channelOf c =
      if (h.channelOf c).receiving then (h.channelOf c).offer .ping else (h.channelOf c).evict := by
  have hnodup := ht.nodup_subscriptions hd
  have hgone : (h.gone.map fun target => target.2.channel).Nodup := (List.filter_sublist.map _).nodup hnodup
  have hpinged : (h.subscriptions.foldl (fun h target => h.modifyChannel target.2.channel (·.offer .ping)) h).channel
      c.channel = (h.channelOf c).offer .ping := by
    rw [channel_modifyEach _ hnodup, if_pos ⟨(location, c), ht.mem_subscriptions.mpr hc, rfl⟩]
    rfl
  rw [channelOf, pingAll_eq, channel_pruneEach hgone, hpinged]
  · cases hreceiving : (h.channelOf c).receiving with
    | true =>
      rw [if_neg, if_pos rfl]
      rintro ⟨⟨location', c'⟩, hmem, hchannel⟩
      obtain ⟨hc', hdeaf⟩ := ht.mem_gone.mp hmem
      obtain ⟨-, rfl⟩ := hd _ _ hc' _ _ hc hchannel
      rw [hreceiving] at hdeaf
      cases hdeaf
    | false =>
      rw [if_pos ⟨(location, c), ht.mem_gone.mpr ⟨hc, hreceiving⟩, rfl⟩, Channel.offer_of_not_receiving hreceiving]
      rfl
  · intro target hmem
    rw [members_congr (rooms_modifyEach _ _ h)]
    exact (ht.mem_gone.mp hmem).1

theorem channelOf_shutdownAll : h.shutdownAll.channelOf c = (h.channelOf c).evict := by
  refine (channel_modifyEach Channel.evict (ht.nodup_subscriptions hd) h c.channel).trans ?_
  rw [if_pos ⟨(location, c), ht.mem_subscriptions.mpr hc, rfl⟩]
  rfl

end Tidy

end Hub

end Waterway
