import Waterway.Proofs.Fanout.Rounds

/-!
# Stale failures

The failures of a broadcast are those of the connections that were subscribed when it began. By the time they are
dealt with, others may have taken the names of these connections, or another broadcast may have dealt with them.

## Main definitions

- `Hub.Pruned` — what becomes of a location when some connections are removed from it

## Main statements

- `Fanout.stale_failure_exact` — a broadcast evicts those of its failed connections that are still subscribed, and
  nobody else
-/

namespace Waterway

variable {location : LocationId}

namespace Hub

variable {h h' : Hub} {dead : List Connection} {c d : Connection}

/-- Of the connections of a location, those with the channels of some others are gone, and have been evicted. -/
structure Pruned (h : Hub) (location : LocationId) (dead : List Connection) (h' : Hub) : Prop where
  mem_iff : ∀ c, c ∈ h'.members location ↔ c ∈ h.members location ∧ ∀ d ∈ dead, d.channel ≠ c.channel
  evicted : ∀ c ∈ h.members location, (∃ d ∈ dead, d.channel = c.channel) →
    h'.channelOf c = (h.channelOf c).evict
  otherChannels : ∀ n, (∀ c ∈ h.members location, c.channel = n → ∀ d ∈ dead, d.channel ≠ n) →
    h'.channel n = h.channel n
  otherLocations : ∀ other ≠ location, h'.members other = h.members other

theorem pruned_prune (hnodup : ((h.members location).map Connection.channel).Nodup)
    (hown : ∀ c ∈ h.members location, ∀ d ∈ dead, d.channel = c.channel → d = c) :
    h.Pruned location dead (h.prune location dead) := by
  have hmem (c : Connection) (hc : c ∈ h.members location) : c ∈ dead ↔ ∃ d ∈ dead, d.channel = c.channel := by
    refine ⟨fun hdead => ⟨c, hdead, rfl⟩, ?_⟩
    rintro ⟨d, hdead, hchannel⟩
    exact hown c hc d hdead hchannel ▸ hdead
  constructor
  · intro c
    rw [members_prune, if_pos rfl, List.mem_filter, decide_eq_true_eq]
    refine and_congr_right fun hc => ?_
    rw [hmem c hc]
    push Not
    rfl
  · intro c hc hdead
    rw [channelOf, channel_prune hnodup, if_pos ⟨c, hc, (hmem c hc).mpr hdead, rfl⟩]
    rfl
  · intro n hn
    rw [channel_prune hnodup, if_neg]
    rintro ⟨c, hc, hdead, rfl⟩
    exact hn c hc rfl c hdead rfl
  · intro other hother
    rw [members_prune, if_neg hother]

namespace Pruned

variable (hpruned : h.Pruned location dead h')
include hpruned

/-- Who has no channel of those that failed is left alone. -/
theorem stays (hc : c ∈ h.members location) (hother : ∀ d ∈ dead, d.channel ≠ c.channel) :
    c ∈ h'.members location ∧ h'.channelOf c = h.channelOf c :=
  ⟨(hpruned.mem_iff c).mpr ⟨hc, hother⟩, hpruned.otherChannels c.channel fun _ _ _ => hother⟩

/-- Who is no longer subscribed is left alone. -/
theorem absent (hown : ∀ c ∈ h.members location, c.channel = d.channel → c = d) (hd : d ∉ h.members location) :
    h'.channelOf d = h.channelOf d := by
  refine hpruned.otherChannels d.channel fun c hc hchannel => ?_
  exact absurd (hown c hc hchannel ▸ hc) hd

end Pruned

end Hub

namespace Fanout

variable {s : Fanout} {events : List Event} {r : Round}

theorem Sound.pruned (hs : s.Sound) (location : LocationId) {dead : List Connection}
    (hdead : dead ⊆ s.audience.opened) : s.hub.Pruned location dead (s.hub.prune location dead) :=
  Hub.pruned_prune (hs.audience.nodup_channels location) fun _ hc _ hd hchannel =>
    hs.audience.eq_of_channel_eq (hdead hd) (hs.audience.subscribed location hc) hchannel

theorem hub_finish {i : Nat} (hr : s.rounds[i]? = some r) (hdone : r.pending = []) :
    (s.step (.finish i)).hub = s.hub.prune r.location r.dead := by
  rw [step, proceed, hr]
  show (s.finish i r).hub = _
  rw [finish, if_pos hdone]
  rfl

/-- The connections that a broadcast is for have names of their own. -/
theorem BegunIn.eq_of_id_eq (h : BegunIn events r) {c d : Connection} (hc : c ∈ r.targets) (hd : d ∈ r.targets)
    (hid : c.id = d.id) : c = d := by
  obtain ⟨before, later, -, hperm⟩ := h
  have hnames := (sound_after before).audience.tidy.names r.location
  exact List.inj_on_of_nodup_map hnames (hperm.mem_iff.mp hc) (hperm.mem_iff.mp hd) hid

/-- Whatever has happened, removing connections from a location removes and evicts those subscribed to it whose
channels are among theirs, and touches nothing else. When a broadcast removes those that failed, whom it noted at
its start, this leaves alone who has since subscribed under the name of one of them, and also those of them that
are no longer subscribed. -/
theorem stale_failure_exact (events : List Event) :
    let s := after events
    (∀ location, ∀ dead ⊆ s.audience.opened, s.hub.Pruned location dead (s.hub.prune location dead)) ∧
      ∀ i r, s.rounds[i]? = some r → r.pending = [] →
        let h' := (s.step (.finish i)).hub
        (∃ before later, events = before ++ .start r.location r.text :: later ∧
          r.dead ⊆ (after before).hub.members r.location) ∧
        s.hub.Pruned r.location r.dead h' ∧
        (∀ c ∈ s.hub.members r.location, ∀ d ∈ r.dead, c.id = d.id → c.channel ≠ d.channel →
          c ∈ h'.members r.location ∧ h'.channelOf c = s.hub.channelOf c) ∧
        ∀ d ∈ r.dead, d ∉ s.hub.members r.location → h'.channelOf d = s.hub.channelOf d := by
  intro s
  have hs : s.Sound := sound_after events
  refine ⟨fun location dead hdead => hs.pruned location hdead, ?_⟩
  intro i r hr hdone h'
  have hmem : r ∈ s.rounds := List.mem_of_getElem? hr
  have hbegun : BegunIn events r := begunIn_of_mem_rounds hmem
  have htargets : r.dead ⊆ r.targets := r.dead_sublist.subset
  have hopened : r.dead ⊆ s.audience.opened := List.Subset.trans htargets (hs.targets r hmem)
  have hpruned : s.hub.Pruned r.location r.dead h' := by
    show s.hub.Pruned r.location r.dead (s.step (.finish i)).hub
    rw [hub_finish hr hdone]
    exact hs.pruned r.location hopened
  refine ⟨?_, hpruned, ?_, ?_⟩
  · obtain ⟨before, later, hevents, hperm⟩ := hbegun
    exact ⟨before, later, hevents, fun d hd => hperm.mem_iff.mp (htargets hd)⟩
  · intro c hc d hd hid hchannel
    refine hpruned.stays hc fun d' hd' hchannel' => hchannel ?_
    -- a failed connection with this channel would be the connection itself, but the failed one has its name
    obtain rfl := hs.audience.eq_of_channel_eq (hopened hd') (hs.audience.subscribed _ hc) hchannel'
    rw [hbegun.eq_of_id_eq (htargets hd') (htargets hd) hid]
  · intro d hd habsent
    refine hpruned.absent (fun c hc hchannel => ?_) habsent
    exact hs.audience.eq_of_channel_eq (hs.audience.subscribed _ hc) (hopened hd) hchannel

/-- Both connections fail, and before they are dealt with the name of the first is taken by a third. -/
def nameTaken : List Event :=
  [.meanwhile (.connect "a" 4), .meanwhile (.connect "b" 1), .meanwhile (.subscribe ⟨"a", 0⟩ 7),
    .meanwhile (.subscribe ⟨"b", 1⟩ 7), .start 7 "rising", .meanwhile (.hangUp ⟨"a", 0⟩), .fail 0 ⟨"a", 0⟩ .closed,
    .meanwhile (.connect "a" 4), .meanwhile (.subscribe ⟨"a", 2⟩ 7), .fail 0 ⟨"b", 1⟩ .timedOut]

/-- Only the second connection is evicted: the first is no longer subscribed, and the third has not failed. -/
theorem stale_failure_exact_nameTaken :
    let h' := ((after nameTaken).step (.finish 0)).hub
    ⟨"a", 2⟩ ∈ h'.members 7 ∧ h'.channelOf ⟨"a", 2⟩ = .create 4 ∧
      (h'.channelOf ⟨"a", 0⟩).evicted = false ∧ (h'.channelOf ⟨"b", 1⟩).evicted = true := by
  obtain ⟨-, hpruned, hreused, habsent⟩ := (stale_failure_exact nameTaken).2 0
    ⟨7, "rising", [], [(⟨"a", 0⟩, some .closed), (⟨"b", 1⟩, some .timedOut)]⟩ (by decide) (by decide)
  obtain ⟨hstays, hchannel⟩ := hreused ⟨"a", 2⟩ (by decide) ⟨"a", 0⟩ (by decide) rfl (by decide)
  have hgone := habsent ⟨"a", 0⟩ (by decide) (by decide)
  have hevicted := hpruned.evicted ⟨"b", 1⟩ (by decide) ⟨⟨"b", 1⟩, by decide, rfl⟩
  intro h'
  refine ⟨hstays, hchannel.trans (by decide), ?_, ?_⟩
  · rw [show h'.channelOf ⟨"a", 0⟩ = _ from hgone]
    decide
  · rw [show h'.channelOf ⟨"b", 1⟩ = _ from hevicted]
    rfl

end Fanout

end Waterway
