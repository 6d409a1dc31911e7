import Waterway.Proofs.Fanout.Eviction

/-!
# One heartbeat

A heartbeat pings all connections, whatever they are subscribed to, and then removes those that have gone, one after
the other. The others stay as they are, but for the ping.

## Main definitions

- `Fanout.Homed` — no connection is ever subscribed at two locations at a time
- `Fanout.Revived` — a connection was evicted before it was subscribed, or its holder gave the signal
- `Fanout.Unrevived` — a course of events in which this is so of no connection

## Main statements

- `Hub.Tidy.connectionCount_pingAll` — a heartbeat removes as many as have gone
- `Fanout.Homed.distinct` — no connection is then subscribed twice
- `Fanout.Sound.evicted_step_of_stays` — what evicts a connection removes it, unless it is the holder's signal
- `Fanout.Homed.revived_of_evicted` — who is subscribed and evicted has been revived
- `Fanout.heartbeat_exact` — what a heartbeat does to everybody

## Design notes

A connection may be subscribed again at its location, even after it was evicted there, and its holder may give the
signal of eviction. A heartbeat takes no notice of the signal: it goes by the receiver alone.
-/

namespace Waterway

/-- What becomes of a channel whose receiver is there when a frame is offered. -/
theorem Channel.offer_of_receiving {c : Channel} (h : c.receiving) (f : Frame) :
    c.offer f = { c with frames := c.frames ++ if c.hasRoom then [f] else [] } := by
  obtain ⟨capacity, frames, receiving, evicted⟩ := c
  obtain rfl : receiving = true := h
  by_cases hroom : frames.length < capacity <;> simp [offer, offerOutcome, hasRoom, hroom]

namespace Hub

variable {h : Hub} {location other : LocationId} {c : Connection} {dead : List Connection}

theorem Tidy.nodup_gone (ht : h.Tidy) (hd : h.Distinct) : h.gone.Nodup :=
  (ht.nodup_subscriptions hd).of_map.filter _

/-- A location stays listed as long as somebody receives there. -/
theorem Tidy.mem_listed_pingAll (ht : h.Tidy) (location : LocationId) :
    location ∈ h.pingAll.listed ↔ ∃ c ∈ h.members location, (h.channelOf c).receiving := by
  rw [ht.pingAll.mem_listed, subscriberCount, ht.members_pingAll, List.length_pos_iff_exists_mem]
  simp only [List.mem_filter]

/-- A heartbeat removes as many as have gone. -/
theorem Tidy.connectionCount_pingAll (ht : h.Tidy) :
    h.pingAll.connectionCount + h.gone.length = h.connectionCount := by
  -- where nobody is left, nobody is counted
  have hlisted : h.pingAll.listed ⊆ h.listed := by
    intro location hmem
    obtain ⟨c, hc, -⟩ := (ht.mem_listed_pingAll location).mp hmem
    exact (ht.mem_listed location).mpr (List.length_pos_of_mem hc)
  have hleft : h.pingAll.connectionCount =
      (h.subscriptions.filter fun subscription => (h.channelOf subscription.2).receiving).length := by
    rw [ht.pingAll.connectionCount_eq, ht.length_filter_subscriptions fun c => (h.channelOf c).receiving]
    simp only [subscriberCount, ht.members_pingAll]
    refine Finset.sum_subset hlisted fun location _ hmem => ?_
    rw [List.length_eq_zero_iff, List.filter_eq_nil_iff]
    exact fun c hc hreceiving => hmem ((ht.mem_listed_pingAll location).mpr ⟨c, hc, hreceiving⟩)
  rw [hleft, gone, connectionCount]
  exact (List.length_eq_length_filter_add _).symm

/-- A change of a channel that leaves the signal of eviction alone. -/
theorem evicted_modifyChannel {f : Channel → Channel} (hf : ∀ ch, (f ch).evicted = ch.evicted) (h : Hub) (n : Nat)
    (c : Connection) : ((h.modifyChannel n f).channelOf c).evicted = (h.channelOf c).evicted := by
  rw [channelOf, channel_modifyChannel]
  split
  · next hn => rw [hf, ← hn, channelOf]
  · rfl

/-- Who stays a member is none of those who were removed. -/
theorem channelOf_prune_of_stays (hd : h.Distinct) (hnodup : ((h.members other).map Connection.channel).Nodup)
    (hc : c ∈ h.members location) (hstays : c ∈ (h.prune other dead).members location) :
    (h.prune other dead).channelOf c = h.channelOf c := by
  rw [channelOf, channel_prune hnodup, if_neg]
  · rfl
  · rintro ⟨c', hc', hdead, hchannel⟩
    obtain ⟨rfl, rfl⟩ := hd _ _ hc' _ _ hc hchannel
    rw [members_prune, if_pos rfl, List.mem_filter] at hstays
    exact absurd hdead (by simpa using hstays.2)

/-- Who stays a member has taken the text, if it was among those it was for. -/
theorem evicted_broadcast_of_stays (hd : h.Distinct) (hnodup : ((h.members other).map Connection.channel).Nodup)
    (hc : c ∈ h.members location) (text : String) (hstays : c ∈ (h.broadcast other text).2.members location) :
    ((h.broadcast other text).2.channelOf c).evicted = (h.channelOf c).evicted := by
  rw [channelOf, channel_broadcast hnodup]
  split
  · next hmember =>
    obtain ⟨c', hc', hchannel⟩ := hmember
    obtain ⟨rfl, rfl⟩ := hd _ _ hc' _ _ hc hchannel
    rw [members_broadcast hnodup, if_pos rfl, List.mem_filter, channelOf] at hstays
    rw [if_pos hstays.2]
    rfl
  · rfl

theorem Tidy.evicted_pingAll_of_stays (ht : h.Tidy) (hd : h.Distinct) (hc : c ∈ h.members location)
    (hstays : c ∈ h.pingAll.members location) : (h.pingAll.channelOf c).evicted = (h.channelOf c).evicted := by
  rw [ht.members_pingAll, List.mem_filter] at hstays
  rw [ht.channelOf_pingAll hd hc, if_pos hstays.2, Channel.evicted_offer]

end Hub

/-- A subscription leaves all channels alone. -/
theorem Audience.channelOf_subscribe (a : Audience) (c c' : Connection) (location : LocationId) :
    (a.step (.subscribe c' location)).hub.channelOf c = a.hub.channelOf c := by
  show (a.touch c' _).hub.channelOf c = _
  rw [hub_touch]
  split <;> rfl

/-- What evicts a member removes it, unless it is the signal of its holder. -/
theorem Audience.Sound.evicted_step_of_stays {a : Audience} (hs : a.Sound) (hd : a.hub.Distinct)
    {location : LocationId} {c : Connection} (hc : c ∈ a.hub.members location) {e : Event} (he : e ≠ .cancel c)
    (hstays : c ∈ (a.step e).hub.members location) :
    ((a.step e).hub.channelOf c).evicted = (a.hub.channelOf c).evicted := by
  have hopened : c ∈ a.opened := hs.subscribed location hc
  cases e with
  | connect id capacity =>
    have hlt := hs.channel_lt hopened
    show ((a.hub.modifyChannel a.hub.opened fun _ => .create capacity).channel c.channel).evicted = _
    rw [Hub.channel_modifyChannel, if_neg (Nat.ne_of_lt hlt)]
    rfl
  | subscribe c' location' => rw [channelOf_subscribe]
  | unsubscribe id location' => rfl
  | broadcast location' text timeout =>
    rw [hs.hub_broadcast] at hstays ⊢
    exact Hub.evicted_broadcast_of_stays hd (hs.nodup_channels location') hc text hstays
  | pingAll => exact hs.tidy.evicted_pingAll_of_stays hd hc hstays
  | shutdownAll => exact absurd hstays List.not_mem_nil
  | prune location' dead =>
    exact congrArg Channel.evicted (Hub.channelOf_prune_of_stays hd (hs.nodup_channels location') hc hstays)
  | take c' n =>
    have htake (ch : Channel) : (ch.take n).2.evicted = ch.evicted := rfl
    rw [hs.hub_take]
    split
    · exact Hub.evicted_modifyChannel htake a.hub c'.channel c
    · rfl
  | hangUp c' =>
    have hhangUp (ch : Channel) : ch.hangUp.evicted = ch.evicted := rfl
    rw [hs.hub_hangUp]
    split
    · exact Hub.evicted_modifyChannel hhangUp a.hub c'.channel c
    · rfl
  | cancel c' =>
    show ((a.touch c' _).hub.channelOf c).evicted = _
    rw [hub_touch]
    split
    · next hopened' =>
      have hne : c.channel ≠ c'.channel := fun hchannel => he (hs.eq_of_channel_eq hopened hopened' hchannel ▸ rfl)
      show ((a.hub.modifyChannel c'.channel _).channel c.channel).evicted = _
      rw [Hub.channel_modifyChannel, if_neg hne]
      rfl
    · rfl

namespace Fanout

variable {s : Fanout} {events : List Event} {e : Event} {location : LocationId} {c : Connection}

/-- What evicts a member removes it, unless it is the signal of its holder. -/
theorem Sound.evicted_step_of_stays (hs : s.Sound) (hd : s.hub.Distinct) (hc : c ∈ s.hub.members location)
    (he : e ≠ .meanwhile (.cancel c)) (hstays : c ∈ (s.step e).hub.members location) :
    ((s.step e).hub.channelOf c).evicted = (s.hub.channelOf c).evicted := by
  have hstepped := s.stepped e
  generalize s.step e = s' at hstepped hstays
  cases hstepped with
  | idle | started | failed => rfl
  | pinged => exact Hub.evicted_modifyChannel (fun ch => ch.evicted_offer _) s.hub _ c
  | sent => exact Hub.evicted_modifyChannel (fun ch => ch.evicted_offer _) s.hub _ c
  | @finished i r =>
    have hnodup := hs.audience.nodup_channels r.location
    exact congrArg Channel.evicted (Hub.channelOf_prune_of_stays hd hnodup hc hstays)
  | meanwhile e => exact hs.audience.evicted_step_of_stays hd hc (fun heq => he (heq ▸ rfl)) hstays

/-- At no time is a connection subscribed at two locations. -/
def Homed (events : List Event) : Prop :=
  ∀ i, ∀ _ : i ≤ events.length, ∀ subscription ∈ (after (events.take i)).hub.subscriptions,
    ∀ subscription' ∈ (after (events.take i)).hub.subscriptions,
      subscription.2 = subscription'.2 → subscription.1 = subscription'.1

instance : DecidablePred Homed := fun events =>
  inferInstanceAs (Decidable (∀ i, ∀ _ : i ≤ events.length, _))

/-- A connection was evicted before it was subscribed, or its holder gave the signal. -/
def Revived (events : List Event) (c : Connection) : Prop :=
  ∃ before e later, events = before ++ e :: later ∧
    (e = .meanwhile (.cancel c) ∨
      (∃ location, e = .meanwhile (.subscribe c location)) ∧ ((after before).hub.channelOf c).evicted)

/-- Whether an event subscribes a connection that has been evicted, or is the signal of a holder. -/
def Revives (s : Fanout) : Event → Prop
  | .meanwhile (.cancel _) => True
  | .meanwhile (.subscribe c _) => (s.hub.channelOf c).evicted
  | _ => False

instance (s : Fanout) (e : Event) : Decidable (s.Revives e) := by
  unfold Revives
  split <;> infer_instance

/-- No connection is subscribed after it was evicted, and no holder gives the signal. -/
def Unrevived (events : List Event) : Prop :=
  ∀ i, ∀ _ : i < events.length, ¬(after (events.take i)).Revives events[i]

instance : DecidablePred Unrevived := fun events =>
  inferInstanceAs (Decidable (∀ i, ∀ _ : i < events.length, _))

theorem Unrevived.not_revived (h : Unrevived events) (c : Connection) : ¬Revived events c := by
  rintro ⟨before, e, later, rfl, hrevived⟩
  have hnot := h before.length (by simp)
  rw [List.take_left, List.getElem_append_right (Nat.le_refl _)] at hnot
  simp only [Nat.sub_self, List.getElem_cons_zero] at hnot
  rcases hrevived with rfl | ⟨⟨location, rfl⟩, hevicted⟩
  · exact hnot trivial
  · exact hnot hevicted

theorem Revived.concat (h : Revived events c) (e : Event) : Revived (events ++ [e]) c := by
  obtain ⟨before, e', later, rfl, hrevived⟩ := h
  exact ⟨before, e', later ++ [e], by simp, hrevived⟩

namespace Homed

theorem of_concat (h : Homed (events ++ [e])) : Homed events := by
  intro i hi
  have hbefore := h i (by simp; omega)
  rwa [List.take_append_of_le_length hi] at hbefore

/-- No connection is subscribed twice. -/
theorem distinct (h : Homed events) : (after events).hub.Distinct := by
  intro location c hc location' c' hc' hchannel
  have hs := (sound_after events).audience
  obtain rfl := hs.eq_of_channel_eq (hs.subscribed _ hc) (hs.subscribed _ hc') hchannel
  have hnow := h events.length (Nat.le_refl _)
  rw [List.take_length] at hnow
  exact ⟨hnow (location, c) (hs.tidy.mem_subscriptions.mpr hc) (location', c) (hs.tidy.mem_subscriptions.mpr hc') rfl,
    rfl⟩

/-- Who is subscribed and evicted has been revived. -/
theorem revived_of_evicted (h : Homed events) (hc : c ∈ (after events).hub.members location)
    (hevicted : ((after events).hub.channelOf c).evicted) : Revived events c := by
  induction events using List.reverseRecOn with
  | nil => exact absurd hc List.not_mem_nil
  | append_singleton events e ih =>
    have hs := sound_after events
    rw [after_concat] at hc hevicted
    rcases hs.mem_members_step hc with hold | ⟨-, rfl⟩
    · -- it was evicted before, unless its holder gives the signal now
      by_cases hcancel : e = .meanwhile (.cancel c)
      · exact ⟨events, e, [], rfl, .inl hcancel⟩
      · rw [hs.evicted_step_of_stays h.of_concat.distinct hold hcancel hc] at hevicted
        exact (ih h.of_concat hold hevicted).concat e
    · have hsame : ((after events).step (.meanwhile (.subscribe c location))).hub.channelOf c =
          (after events).hub.channelOf c := Audience.channelOf_subscribe _ c c location
      rw [hsame] at hevicted
      exact ⟨events, _, [], rfl, .inr ⟨⟨location, rfl⟩, hevicted⟩⟩

end Homed

/-- What a heartbeat does after any course of events in which no connection is subscribed at two locations. Who still
receives stays subscribed, and its channel is as it was but for a ping at the end of its queue, if there was room; so it
is evicted only if it was before, which takes a subscription after an eviction or the signal of its holder. Where no
evicted connection has been subscribed and no holder has given the signal, it is not evicted. Who does not receive any
more is removed and evicted, and nobody else is touched. A location stays listed as long as somebody
receives there, and there are as many connections fewer as have gone. -/
theorem heartbeat_exact (events : List Event) (h : Homed events) :
    let hub := (after events).hub
    let hub' := (after (events ++ [.meanwhile .pingAll])).hub
    (∀ location, ∀ c ∈ hub.members location, (hub.channelOf c).receiving →
      c ∈ hub'.members location ∧
        hub'.channelOf c = { hub.channelOf c with
          frames := (hub.channelOf c).frames ++ if (hub.channelOf c).hasRoom then [.ping] else [] } ∧
        ((hub'.channelOf c).evicted → Revived events c) ∧
        (Unrevived events → (hub'.channelOf c).evicted = false)) ∧
      (∀ location, ∀ c ∈ hub.members location, (hub.channelOf c).receiving = false →
        (∀ other, c ∉ hub'.members other) ∧ (hub'.channelOf c).evicted) ∧
      (∀ location, hub'.members location = (hub.members location).filter fun c => (hub.channelOf c).receiving) ∧
      (∀ n, (∀ location, ∀ c ∈ hub.members location, c.channel ≠ n) → hub'.channel n = hub.channel n) ∧
      (∀ location, location ∈ hub'.listed ↔ ∃ c ∈ hub.members location, (hub.channelOf c).receiving) ∧
      hub.gone.Nodup ∧
      (∀ location c, (location, c) ∈ hub.gone ↔
        c ∈ hub.members location ∧ (hub.channelOf c).receiving = false) ∧
      hub'.connectionCount + hub.gone.length = hub.connectionCount := by
  intro hub hub'
  have ht : hub.Tidy := (sound_after events).audience.tidy
  have hd : hub.Distinct := h.distinct
  have hpinged : hub' = hub.pingAll := congrArg Fanout.hub (after_concat events _)
  rw [hpinged]
  refine ⟨fun location c hc hreceiving => ?_, fun location c hc hdeaf => ?_, ht.members_pingAll,
    ht.lessened_pingAll.others, ht.mem_listed_pingAll, ht.nodup_gone hd, fun location c => ht.mem_gone,
    ht.connectionCount_pingAll⟩
  · have hoffered : hub.pingAll.channelOf c = (hub.channelOf c).offer .ping := by
      rw [ht.channelOf_pingAll hd hc, if_pos hreceiving]
    have hrevived : (hub.pingAll.channelOf c).evicted → Revived events c := by
      rw [hoffered, Channel.evicted_offer]
      exact h.revived_of_evicted hc
    refine ⟨?_, ?_, hrevived, fun hnone => ?_⟩
    · rw [ht.members_pingAll]
      exact List.mem_filter.mpr ⟨hc, hreceiving⟩
    · rw [hoffered, Channel.offer_of_receiving hreceiving]
    · exact Bool.eq_false_iff.mpr fun hevicted => hnone.not_revived c (hrevived hevicted)
  · constructor
    · intro other hother
      rw [ht.members_pingAll, List.mem_filter, hdeaf] at hother
      cases hother.2
    · rw [ht.channelOf_pingAll hd hc, hdeaf]
      rfl

/-- Two of three listen at the first location, one of them with a full queue, and nobody does at the second. -/
def lastListener : List Event :=
  [.meanwhile (.connect "a" 2), .meanwhile (.subscribe ⟨"a", 0⟩ 7), .meanwhile (.connect "b" 1),
    .meanwhile (.subscribe ⟨"b", 1⟩ 7), .meanwhile (.connect "c" 1), .meanwhile (.subscribe ⟨"c", 2⟩ 7),
    .meanwhile (.connect "d" 1), .meanwhile (.subscribe ⟨"d", 3⟩ 8), .meanwhile .pingAll,
    .meanwhile (.hangUp ⟨"c", 2⟩), .meanwhile (.hangUp ⟨"d", 3⟩)]

/-- The second ping does not fit into one queue, and the second location is dropped with its listener. -/
theorem heartbeat_exact_lastListener :
    let hub := (after (lastListener ++ [.meanwhile .pingAll])).hub
    Homed lastListener ∧ hub.members 7 = [⟨"a", 0⟩, ⟨"b", 1⟩] ∧ (hub.channelOf ⟨"a", 0⟩).frames = [.ping, .ping] ∧
      (hub.channelOf ⟨"a", 0⟩).evicted = false ∧ (hub.channelOf ⟨"b", 1⟩).frames = [.ping] ∧
      (hub.channelOf ⟨"c", 2⟩).evicted ∧ 8 ∉ hub.listed ∧ hub.connectionCount = 2 := by
  have hhomed : Homed lastListener := by decide
  obtain ⟨hlistening, hgone, hmembers, -, hlisted, -, -, hcount⟩ := heartbeat_exact lastListener hhomed
  have ha := hlistening 7 ⟨"a", 0⟩ (by decide) (by decide)
  have hb := hlistening 7 ⟨"b", 1⟩ (by decide) (by decide)
  have hc := hgone 7 ⟨"c", 2⟩ (by decide) (by decide)
  have hunrevived : Unrevived lastListener := by decide
  refine ⟨hhomed, (hmembers 7).trans (by decide), ?_, ha.2.2.2 hunrevived, ?_, hc.2, ?_, ?_⟩
  · exact (congrArg Channel.frames ha.2.1).trans (by decide)
  · exact (congrArg Channel.frames hb.2.1).trans (by decide)
  · rw [hlisted]
    decide
  · have hbefore : (after lastListener).hub.connectionCount = 4 := by decide
    have hleft : (after lastListener).hub.gone.length = 2 := by decide
    omega

end Fanout

end Waterway
