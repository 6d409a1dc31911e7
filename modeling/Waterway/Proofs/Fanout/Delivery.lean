import Waterway.Proofs.Fanout.Audience

/-!
# What subscribers get

A broadcast reaches each subscriber of its location or loses it, and which of the two depends on nothing but
the channel of the subscriber. So a channel carries the texts of the broadcasts that did not lose it, each
once and in order.

## Main definitions

- `Hub.Reaches` — what a broadcast does to the subscribers of its location, and to everybody else
- `Audience.heard`, `Audience.deliveries` — what a receiver got, and the broadcasts that reached it

## Main statements

- `Audience.Sound.reaches` — a broadcast to a sound audience
- `Audience.texts_run` — a channel carries what was delivered to it
- `Audience.delivery_exact` — delivery is exact, and each subscriber's own affair
-/

namespace Waterway

/-- What a broadcast does to the subscribers of its location, and to everybody else. -/
structure Hub.Reaches (h : Hub) (location : LocationId) (text : String) (report : DeliveryReport) (h' : Hub) :
    Prop where
  /-- Who has room stays, and gets the text as the last frame. -/
  accepting : ∀ c ∈ h.members location, (h.channelOf c).accepts →
    c ∈ h'.members location ∧
      h'.channelOf c = { h.channelOf c with frames := (h.channelOf c).frames ++ [.text text] }
  /-- Everybody else goes, and is asked to close. -/
  refusing : ∀ c ∈ h.members location, ¬(h.channelOf c).accepts →
    c ∉ h'.members location ∧ h'.channelOf c = (h.channelOf c).evict ∧
      Frame.texts (h'.channelOf c).frames = Frame.texts (h.channelOf c).frames
  /-- Nobody comes. -/
  members : h'.members location ⊆ h.members location
  otherChannels : ∀ n, (∀ c ∈ h.members location, c.channel ≠ n) → h'.channel n = h.channel n
  otherLocations : ∀ other, other ≠ location → h'.members other = h.members other
  counted : report.delivered + report.pruned = h.subscriberCount location
  delivered : report.delivered = h'.subscriberCount location

theorem Hub.reaches_broadcast {h : Hub} {location : LocationId}
    (hnodup : ((h.members location).map Connection.channel).Nodup) (text : String) :
    h.Reaches location text (h.broadcast location text).1 (h.broadcast location text).2 where
  accepting c hc haccepts := by
    refine ⟨?_, ?_⟩
    · rw [members_broadcast hnodup, if_pos rfl]
      exact List.mem_filter.mpr ⟨hc, haccepts⟩
    · rw [channelOf, channel_broadcast hnodup, if_pos ⟨c, hc, rfl⟩]
      exact if_pos haccepts
  refusing c hc hrefuses := by
    have hevicted : (h.broadcast location text).2.channelOf c = (h.channelOf c).evict := by
      rw [channelOf, channel_broadcast hnodup, if_pos ⟨c, hc, rfl⟩]
      exact if_neg hrefuses
    refine ⟨?_, hevicted, ?_⟩
    · rw [members_broadcast hnodup, if_pos rfl]
      exact fun hmem => hrefuses (List.mem_filter.mp hmem).2
    · rw [hevicted]
      exact (Channel.Undisturbed.evict _).texts
  members := by
    rw [members_broadcast hnodup, if_pos rfl]
    exact List.filter_subset_self _
  otherChannels n hn := by
    rw [channel_broadcast hnodup, if_neg]
    rintro ⟨c, hc, heq⟩
    exact hn c hc heq
  otherLocations other hother := by
    rw [members_broadcast hnodup, if_neg hother]
  counted := (report_broadcast hnodup text).1
  delivered := (report_broadcast hnodup text).2

/-- Two subscribers whose channels are alike fare alike, whoever else there is. -/
theorem Hub.Reaches.alike {h₁ h₁' h₂ h₂' : Hub} {location₁ location₂ : LocationId} {text : String}
    {report₁ report₂ : DeliveryReport} (hfirst : h₁.Reaches location₁ text report₁ h₁')
    (hsecond : h₂.Reaches location₂ text report₂ h₂') {c₁ c₂ : Connection} (hc₁ : c₁ ∈ h₁.members location₁)
    (hc₂ : c₂ ∈ h₂.members location₂) (halike : h₁.channelOf c₁ = h₂.channelOf c₂) :
    h₁'.channelOf c₁ = h₂'.channelOf c₂ ∧ (c₁ ∈ h₁'.members location₁ ↔ c₂ ∈ h₂'.members location₂) := by
  by_cases haccepts : (h₁.channelOf c₁).accepts
  · obtain ⟨hstays₁, hchannel₁⟩ := hfirst.accepting c₁ hc₁ haccepts
    obtain ⟨hstays₂, hchannel₂⟩ := hsecond.accepting c₂ hc₂ (halike ▸ haccepts)
    exact ⟨by rw [hchannel₁, hchannel₂, halike], iff_of_true hstays₁ hstays₂⟩
  · obtain ⟨hgoes₁, hchannel₁, -⟩ := hfirst.refusing c₁ hc₁ haccepts
    obtain ⟨hgoes₂, hchannel₂, -⟩ := hsecond.refusing c₂ hc₂ (halike ▸ haccepts)
    exact ⟨by rw [hchannel₁, hchannel₂, halike], iff_of_false hgoes₁ hgoes₂⟩

namespace Audience

variable {a : Audience}

/-- The frames that the receiver of a channel gets in an event. -/
def received (n : Nat) (a : Audience) : Event → List Frame
  | .take c count => if c ∈ a.opened ∧ c.channel = n then (a.timeline.takeFrames n count).1 else []
  | _ => []

/-- The broadcast, if it is one, that reaches a channel: its connection was subscribed and still is. -/
def delivered (n : Nat) (a : Audience) : Event → List (LocationId × String)
  | .broadcast location text timeout =>
    if ∃ c ∈ a.hub.members location, c.channel = n ∧
        c ∈ (a.step (.broadcast location text timeout)).hub.members location then
      [(location, text)]
    else []
  | _ => []

/-- What the receiver of a channel got. -/
def heard (n : Nat) (events : List Event) : List Frame :=
  gather (received n) {} events

/-- The broadcasts that reached a channel. -/
def deliveries (n : Nat) (events : List Event) : List (LocationId × String) :=
  gather (delivered n) {} events

/-- The texts that come into a channel are those that are delivered to it. -/
structure Carries (n : Nat) (a : Audience) (e : Event) : Prop where
  receiving : ((a.step e).hub.channel n).receiving = (a.hub.channel n).receiving
  texts : Frame.texts (received n a e) ++ Frame.texts ((a.step e).hub.channel n).frames =
    Frame.texts (a.hub.channel n).frames ++ (delivered n a e).map Prod.snd
  open_of_delivered : delivered n a e ≠ [] → (a.hub.channel n).receiving

/-- The receiver of a channel goes away, with all that it has not got. -/
structure Breaks (n : Nat) (a : Audience) (e : Event) : Prop where
  received : received n a e = []
  delivered : delivered n a e = []
  receiving : ((a.step e).hub.channel n).receiving = false
  frames : ((a.step e).hub.channel n).frames = []

theorem Carries.of_undisturbed {n : Nat} {e : Event} (hreceived : received n a e = [])
    (hdelivered : delivered n a e = []) (h : (a.hub.channel n).Undisturbed ((a.step e).hub.channel n)) :
    Carries n a e where
  receiving := h.receiving
  texts := by
    rw [hreceived, hdelivered, h.texts, List.map_nil, List.append_nil]
    rfl
  open_of_delivered hne := absurd hdelivered hne

namespace Sound

variable (hs : a.Sound)
include hs

theorem reaches (location : LocationId) (text : String) (timeout : Nat) :
    a.hub.Reaches location text (a.timeline.deliver location text timeout).1
      (a.step (.broadcast location text timeout)).hub := by
  obtain ⟨hreport, -, -⟩ := hs.quiet.deliver location text timeout
  rw [hreport, hs.hub_broadcast]
  exact Hub.reaches_broadcast (hs.nodup_channels location) text

/-- A broadcast comes into the channels of those who stay. -/
theorem carries_broadcast (n : Nat) (location : LocationId) (text : String) (timeout : Nat) :
    Carries n a (.broadcast location text timeout) := by
  have hreaches := hs.reaches location text timeout
  by_cases hmember : ∃ c ∈ a.hub.members location, c.channel = n
  · obtain ⟨c, hc, rfl⟩ := hmember
    by_cases haccepts : (a.hub.channelOf c).accepts
    · obtain ⟨hstays, hchannel⟩ := hreaches.accepting c hc haccepts
      have hdelivered : delivered c.channel a (.broadcast location text timeout) = [(location, text)] :=
        if_pos ⟨c, hc, rfl, hstays⟩
      have hchannel : (a.step (.broadcast location text timeout)).hub.channel c.channel = _ := hchannel
      refine ⟨?_, ?_, fun _ => ?_⟩
      · rw [hchannel]
        rfl
      · rw [hchannel, hdelivered]
        exact Frame.texts_append _ _
      · simp only [Channel.accepts, Channel.isOpen, Bool.and_eq_true] at haccepts
        exact haccepts.1.1
    · obtain ⟨hgoes, hchannel, -⟩ := hreaches.refusing c hc haccepts
      refine .of_undisturbed rfl (if_neg ?_) ?_
      · rintro ⟨other, hother, heq, hstays⟩
        rw [hs.eq_of_channel_eq (hs.subscribed location hother) (hs.subscribed location hc) heq] at hstays
        exact hgoes hstays
      · have hchannel : (a.step (.broadcast location text timeout)).hub.channel c.channel = _ := hchannel
        rw [hchannel]
        exact .evict _
  · refine .of_undisturbed rfl (if_neg ?_) ?_
    · rintro ⟨c, hc, hn, -⟩
      exact hmember ⟨c, hc, hn⟩
    · rw [hreaches.otherChannels n fun c hc hn => hmember ⟨c, hc, hn⟩]
      exact .refl _

theorem carries_take (n : Nat) (c : Connection) (count : Nat) : Carries n a (.take c count) := by
  by_cases htakes : c ∈ a.opened ∧ c.channel = n
  · obtain ⟨hc, rfl⟩ := htakes
    have hreceived : received c.channel a (.take c count) = (a.hub.channel c.channel).frames.take count :=
      if_pos ⟨hc, rfl⟩
    refine ⟨?_, ?_, fun hne => absurd rfl hne⟩
    · rw [hs.hub_take, if_pos hc, Hub.channel_modifyChannel, if_pos rfl]
      rfl
    · rw [hreceived, hs.hub_take, if_pos hc, Hub.channel_modifyChannel, if_pos rfl, ← Frame.texts_append]
      simp [Channel.take, delivered]
  · refine .of_undisturbed (if_neg htakes) rfl ?_
    rw [hs.hub_take]
    split
    · next hc =>
      have hne : n ≠ c.channel := fun heq => htakes ⟨hc, heq.symm⟩
      rw [Hub.channel_modifyChannel, if_neg hne]
      exact .refl _
    · exact .refl _

theorem breaks_or_carries_hangUp (n : Nat) (c : Connection) :
    Breaks n a (.hangUp c) ∨ Carries n a (.hangUp c) := by
  by_cases hends : c ∈ a.opened ∧ n = c.channel
  · obtain ⟨hc, rfl⟩ := hends
    have hchannel : (a.step (.hangUp c)).hub.channel c.channel = (a.hub.channel c.channel).hangUp := by
      rw [hs.hub_hangUp, if_pos hc, Hub.channel_modifyChannel, if_pos rfl]
    exact .inl ⟨rfl, rfl, by rw [hchannel]; rfl, by rw [hchannel]; rfl⟩
  · refine .inr (.of_undisturbed rfl rfl ?_)
    rw [hs.hub_hangUp]
    split
    · next hc =>
      rw [Hub.channel_modifyChannel, if_neg fun heq => hends ⟨hc, heq⟩]
      exact .refl _
    · exact .refl _

theorem breaks_or_carries (n : Nat) (e : Event) : Breaks n a e ∨ Carries n a e := by
  cases e with
  | connect id capacity =>
    refine .inr (.of_undisturbed rfl rfl ?_)
    show (a.hub.channel n).Undisturbed
      ((a.hub.modifyChannel a.hub.opened fun _ => .create capacity).channel n)
    rw [Hub.channel_modifyChannel]
    split
    · next hn =>
      -- nothing has come into the channel before it is opened
      rw [hs.fresh n (Nat.le_of_eq hn.symm)]
      exact ⟨rfl, rfl⟩
    · exact .refl _
  | subscribe c location =>
    refine .inr (.of_undisturbed rfl rfl ?_)
    rw [Audience.step, hub_touch]
    split <;> exact .refl _
  | unsubscribe id location =>
    exact .inr (.of_undisturbed rfl rfl ((a.hub.lessened_unsubscribe id location).channels n))
  | broadcast location text timeout => exact .inr (hs.carries_broadcast n location text timeout)
  | pingAll => exact .inr (.of_undisturbed rfl rfl (hs.tidy.lessened_pingAll.channels n))
  | shutdownAll => exact .inr (.of_undisturbed rfl rfl (hs.tidy.lessened_shutdownAll.channels n))
  | prune location dead =>
    exact .inr (.of_undisturbed rfl rfl ((a.hub.lessened_prune location dead).channels n))
  | take c count => exact .inr (hs.carries_take n c count)
  | hangUp c => exact hs.breaks_or_carries_hangUp n c
  | cancel c =>
    refine .inr (.of_undisturbed rfl rfl ?_)
    rw [Audience.step, hub_touch]
    split
    · show (a.hub.channel n).Undisturbed ((a.hub.modifyChannel c.channel _).channel n)
      rw [Hub.channel_modifyChannel]
      split
      · next hn => exact hn ▸ ⟨rfl, rfl⟩
      · exact .refl _
    · exact .refl _

end Sound

/-- A channel carries the texts that are delivered to it, until its receiver goes away. -/
structure Account (n : Nat) (events : List Event) : Prop where
  receiving : ((after events).hub.channel n).receiving →
    Frame.texts (heard n events) ++ Frame.texts ((after events).hub.channel n).frames =
      (deliveries n events).map Prod.snd
  gone : ((after events).hub.channel n).receiving = false →
    Frame.texts ((after events).hub.channel n).frames = [] ∧
      Frame.texts (heard n events) <+: (deliveries n events).map Prod.snd

theorem heard_concat (n : Nat) (events : List Event) (e : Event) :
    heard n (events ++ [e]) = heard n events ++ received n (after events) e :=
  gather_concat _ _ _ _

theorem deliveries_concat (n : Nat) (events : List Event) (e : Event) :
    deliveries n (events ++ [e]) = deliveries n events ++ delivered n (after events) e :=
  gather_concat _ _ _ _

namespace Account

variable {n : Nat} {events : List Event} {e : Event}

theorem heard_prefix (h : Account n events) :
    Frame.texts (heard n events) <+: (deliveries n events).map Prod.snd := by
  cases hreceiving : ((after events).hub.channel n).receiving with
  | true => exact ⟨_, h.receiving hreceiving⟩
  | false => exact (h.gone hreceiving).2

theorem concat_of_breaks (h : Account n events) (hbreaks : Breaks n (after events) e) :
    Account n (events ++ [e]) := by
  refine ⟨fun hreceiving => ?_, fun _ => ?_⟩
  · rw [after_concat, hbreaks.receiving] at hreceiving
    cases hreceiving
  · rw [after_concat, hbreaks.frames, heard_concat, deliveries_concat, hbreaks.received, hbreaks.delivered,
      List.append_nil, List.append_nil]
    exact ⟨rfl, h.heard_prefix⟩

theorem concat_of_carries (h : Account n events) (hcarries : Carries n (after events) e) :
    Account n (events ++ [e]) := by
  refine ⟨fun hreceiving => ?_, fun hgone => ?_⟩
  · rw [after_concat, hcarries.receiving] at hreceiving
    rw [after_concat, heard_concat, deliveries_concat, Frame.texts_append, List.append_assoc, hcarries.texts,
      List.map_append, ← List.append_assoc, h.receiving hreceiving]
  · rw [after_concat, hcarries.receiving] at hgone
    obtain ⟨hempty, hbegins⟩ := h.gone hgone
    -- nothing is delivered any more
    have hdelivered : delivered n (after events) e = [] := by
      by_contra hne
      rw [hcarries.open_of_delivered hne] at hgone
      cases hgone
    have htexts := hcarries.texts
    rw [hempty, hdelivered, List.map_nil, List.append_nil, List.append_eq_nil_iff] at htexts
    rw [after_concat, heard_concat, deliveries_concat, Frame.texts_append, htexts.1, hdelivered,
      List.append_nil, List.append_nil]
    exact ⟨htexts.2, hbegins⟩

end Account

theorem account (n : Nat) (events : List Event) : Account n events := by
  induction events using List.reverseRecOn with
  | nil => exact ⟨fun _ => rfl, fun h => by cases h⟩
  | append_singleton events e ih =>
    rcases (sound_after events).breaks_or_carries n e with hbreaks | hcarries
    · exact ih.concat_of_breaks hbreaks
    · exact ih.concat_of_carries hcarries

/-- What comes out of a channel has been put into it, in the same order; and if the receiver is still there,
all else waits in the channel. -/
theorem texts_run (n : Nat) (events : List Event) :
    let channel := (after events).hub.channel n
    Frame.texts (heard n events) ++ Frame.texts channel.frames <+: (deliveries n events).map Prod.snd ∧
      (channel.receiving →
        Frame.texts (heard n events) ++ Frame.texts channel.frames = (deliveries n events).map Prod.snd) := by
  intro channel
  refine ⟨?_, (account n events).receiving⟩
  cases hreceiving : channel.receiving with
  | true => exact ⟨[], (List.append_nil _).trans ((account n events).receiving hreceiving)⟩
  | false =>
    obtain ⟨hempty, hbegins⟩ := (account n events).gone hreceiving
    rw [hempty, List.append_nil]
    exact hbegins

/-- A delivery was a broadcast to a location at which the connection was subscribed, and stayed so. -/
theorem of_mem_deliveries {n : Nat} {events : List Event} {location : LocationId} {text : String}
    (h : (location, text) ∈ deliveries n events) :
    ∃ before timeout later, events = before ++ .broadcast location text timeout :: later ∧
      ∃ c ∈ (after before).hub.members location, c.channel = n ∧
        c ∈ (after (before ++ [.broadcast location text timeout])).hub.members location := by
  obtain ⟨before, e, later, hevents, hmem⟩ := mem_gather.mp h
  cases e with
  | broadcast other text' timeout =>
    rw [delivered] at hmem
    split at hmem
    · next hstays =>
      cases List.mem_singleton.mp hmem
      refine ⟨before, timeout, later, hevents, ?_⟩
      rwa [after_concat]
    · exact absurd hmem List.not_mem_nil
  | _ => exact absurd hmem List.not_mem_nil

/-- After any course of events, a broadcast reaches exactly the subscribers of its location that accept it,
and counts them; how a subscriber fares depends on its own channel alone. The texts in a channel and those
taken from it are, in order, those of the broadcasts that reached it, all of them while the receiver is
there. -/
theorem delivery_exact (events : List Event) :
    let a := after events
    (∀ location text timeout, a.hub.Reaches location text (a.timeline.deliver location text timeout).1
      (a.step (.broadcast location text timeout)).hub) ∧
    (∀ location text timeout others location' timeout',
      let a' := after others
      ∀ c ∈ a.hub.members location, ∀ c' ∈ a'.hub.members location', a.hub.channelOf c = a'.hub.channelOf c' →
        let h := (a.step (.broadcast location text timeout)).hub
        let h' := (a'.step (.broadcast location' text timeout')).hub
        h.channelOf c = h'.channelOf c' ∧ (c ∈ h.members location ↔ c' ∈ h'.members location')) ∧
    (∀ n, let channel := a.hub.channel n
      Frame.texts (heard n events) ++ Frame.texts channel.frames <+: (deliveries n events).map Prod.snd ∧
        (channel.receiving →
          Frame.texts (heard n events) ++ Frame.texts channel.frames = (deliveries n events).map Prod.snd)) ∧
    ∀ n location text, (location, text) ∈ deliveries n events →
      ∃ before timeout later, events = before ++ .broadcast location text timeout :: later ∧
        ∃ c ∈ (after before).hub.members location, c.channel = n ∧
          c ∈ (after (before ++ [.broadcast location text timeout])).hub.members location := by
  intro a
  have hs := sound_after events
  refine ⟨hs.reaches, ?_, fun n => texts_run n events, fun n location text => of_mem_deliveries⟩
  intro location text timeout others location' timeout' a' c hc c' hc' halike
  have hreaches' := (sound_after others).reaches location' text timeout'
  exact (hs.reaches location text timeout).alike hreaches' hc hc' halike

/-- Three subscribers get a text, of whom one has no room for another and one goes away. -/
def oneLeft : List Event :=
  [.connect "a" 4, .connect "b" 1, .connect "c" 4, .subscribe ⟨"a", 0⟩ 7, .subscribe ⟨"b", 1⟩ 7,
    .subscribe ⟨"c", 2⟩ 7, .broadcast 7 "rising" 2000, .hangUp ⟨"c", 2⟩]

/-- The next text reaches the third of them that is left, and the others are counted as lost. -/
theorem delivery_exact_oneLeft :
    let a := after oneLeft
    let h := (a.step (.broadcast 7 "falling" 2000)).hub
    h.channelOf ⟨"a", 0⟩ = ⟨4, [.text "rising", .text "falling"], true, false⟩ ∧
      ⟨"b", 1⟩ ∉ h.members 7 ∧ ⟨"c", 2⟩ ∉ h.members 7 ∧
      deliveries 2 oneLeft = [(7, "rising")] ∧ heard 2 oneLeft = [] := by
  have hreaches := (delivery_exact oneLeft).1 7 "falling" 2000
  refine ⟨(hreaches.accepting ⟨"a", 0⟩ (by decide) (by decide)).2,
    (hreaches.refusing ⟨"b", 1⟩ (by decide) (by decide)).1,
    (hreaches.refusing ⟨"c", 2⟩ (by decide) (by decide)).1, by decide, by decide⟩

end Audience

end Waterway
