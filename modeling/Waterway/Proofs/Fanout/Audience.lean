import Waterway.Proofs.Fanout.Channels
import Waterway.Proofs.Fanout.Waiting

/-!
# Subscribers in the course of events

Everything that happens to subscribers, one thing after the other, and what holds after any course of events.

## Main definitions

- `Audience` — the deliveries, and the connections that have been opened
- `Audience.Event` — what the program does to its subscribers, and what receivers do
- `Audience.run`, `Audience.after` — a course of events, and what it comes to from the start
- `Audience.gather` — what is observed of a course of events
- `Audience.Sound` — what holds after all courses of events

## Main statements

- `Audience.sound_after` — whatever happens, an audience is sound
-/

namespace Waterway

/-- The deliveries, and the connections that have been opened. -/
structure Audience where
  timeline : Timeline := {}
  opened : List Connection := []

namespace Audience

/-- What the program does to its subscribers, and what receivers do. Of a connection that has not been opened
there is nothing to subscribe or to receive. -/
inductive Event where
  | connect (id : String) (capacity : Nat)
  | subscribe (c : Connection) (location : LocationId)
  | unsubscribe (id : String) (location : LocationId)
  | broadcast (location : LocationId) (text : String) (timeout : Nat)
  | pingAll
  | shutdownAll
  /-- A delivery that was interrupted removes the connections that failed at its time. -/
  | prune (location : LocationId) (dead : List Connection)
  /-- The receiver takes some frames. -/
  | take (c : Connection) (n : Nat)
  | hangUp (c : Connection)
  /-- The signal of eviction is given by somebody else. -/
  | cancel (c : Connection)
deriving Repr, DecidableEq

variable {a : Audience} {β : Type}

def hub (a : Audience) : Hub :=
  a.timeline.hub

/-- Something happens to a connection, if it has been opened. -/
def touch (a : Audience) (c : Connection) (f : Timeline → Timeline) : Audience :=
  if c ∈ a.opened then { a with timeline := f a.timeline } else a

def step (a : Audience) : Event → Audience
  | .connect id capacity =>
    { timeline := a.timeline.onHub fun h => (h.connect id capacity).2
      opened := a.opened ++ [(a.hub.connect id capacity).1] }
  | .subscribe c location => a.touch c fun t => t.onHub (·.subscribe c location)
  | .unsubscribe id location => { a with timeline := a.timeline.onHub (·.unsubscribe id location) }
  | .broadcast location text timeout => { a with timeline := (a.timeline.deliver location text timeout).2 }
  | .pingAll => { a with timeline := a.timeline.onHub Hub.pingAll }
  | .shutdownAll => { a with timeline := a.timeline.onHub Hub.shutdownAll }
  | .prune location dead => { a with timeline := a.timeline.onHub (·.prune location dead) }
  | .take c n => a.touch c fun t => (t.takeFrames c.channel n).2
  | .hangUp c => a.touch c fun t => t.hangUp c.channel
  | .cancel c => a.touch c fun t => t.onHub (·.modifyChannel c.channel fun ch => { ch with evicted := true })

/-- A course of events. -/
def run (a : Audience) (events : List Event) : Audience :=
  events.foldl step a

/-- What a course of events comes to from the start. -/
def after (events : List Event) : Audience :=
  ({} : Audience).run events

theorem after_concat (events : List Event) (e : Event) : after (events ++ [e]) = (after events).step e := by
  simp [after, run]

theorem hub_touch (a : Audience) (c : Connection) (f : Timeline → Timeline) :
    (a.touch c f).hub = if c ∈ a.opened then (f a.timeline).hub else a.hub := by
  rw [touch]
  split <;> rfl

/-- What is observed of a course of events, at each event in turn. -/
def gather (observe : Audience → Event → List β) : Audience → List Event → List β
  | _, [] => []
  | a, e :: events => observe a e ++ gather observe (a.step e) events

theorem gather_concat (observe : Audience → Event → List β) (a : Audience) (events : List Event) (e : Event) :
    gather observe a (events ++ [e]) = gather observe a events ++ observe (a.run events) e := by
  induction events generalizing a with
  | nil => simp [gather, run]
  | cons first events ih =>
    rw [List.cons_append, gather, gather, ih, List.append_assoc]
    rfl

/-- What is observed has been observed at some event. -/
theorem mem_gather {observe : Audience → Event → List β} {x : β} {events : List Event} :
    x ∈ gather observe a events ↔
      ∃ before e later, events = before ++ e :: later ∧ x ∈ observe (a.run before) e := by
  induction events generalizing a with
  | nil => simp [gather]
  | cons first events ih =>
    rw [gather, List.mem_append, ih]
    constructor
    · rintro (hx | ⟨before, e, later, rfl, hx⟩)
      · exact ⟨[], first, events, rfl, hx⟩
      · exact ⟨first :: before, e, later, rfl, hx⟩
    · rintro ⟨_ | ⟨_, before⟩, e, later, heq, hx⟩
      · cases heq
        exact .inl hx
      · cases heq
        exact .inr ⟨before, e, later, rfl, hx⟩

/-- Nothing is under way, and who is subscribed has a channel that was opened for it. -/
structure Sound (a : Audience) : Prop where
  quiet : a.timeline.Quiet
  tidy : a.hub.Tidy
  /-- Channels are numbered in the order in which they are opened. -/
  numbers : a.opened.map Connection.channel = List.range a.hub.opened
  subscribed : ∀ location, a.hub.members location ⊆ a.opened
  fresh : ∀ n, a.hub.opened ≤ n → a.hub.channel n = .create 1

namespace Sound

theorem empty : ({} : Audience).Sound where
  quiet := ⟨rfl, rfl, fun _ h => absurd h List.not_mem_nil⟩
  tidy := .of_rooms_eq_nil rfl
  numbers := rfl
  subscribed _ := List.nil_subset _
  fresh _ _ := rfl

variable (hs : a.Sound)
include hs

theorem channel_lt {c : Connection} (hc : c ∈ a.opened) : c.channel < a.hub.opened := by
  have hmem := List.mem_map_of_mem (f := Connection.channel) hc
  rwa [hs.numbers, List.mem_range] at hmem

theorem eq_of_channel_eq {c other : Connection} (hc : c ∈ a.opened) (hother : other ∈ a.opened)
    (h : c.channel = other.channel) : c = other := by
  refine List.inj_on_of_nodup_map ?_ hc hother h
  rw [hs.numbers]
  exact List.nodup_range

theorem nodup_channels (location : LocationId) :
    ((a.hub.members location).map Connection.channel).Nodup := by
  refine (hs.tidy.names location).of_map.map_on ?_
  intro c hc other hother h
  exact hs.eq_of_channel_eq (hs.subscribed location hc) (hs.subscribed location hother) h

/-- No connection is opened, and nothing happens to the channels of those that will be. -/
theorem withTimeline {t : Timeline} (hquiet : t.Quiet) (htidy : t.hub.Tidy)
    (hopened : t.hub.opened = a.hub.opened) (hsubscribed : ∀ location, t.hub.members location ⊆ a.opened)
    (hfresh : ∀ n, a.hub.opened ≤ n → t.hub.channel n = a.hub.channel n) :
    ({ a with timeline := t } : Audience).Sound where
  quiet := hquiet
  tidy := htidy
  numbers := by
    show a.opened.map Connection.channel = List.range t.hub.opened
    rw [hopened, hs.numbers]
  subscribed := hsubscribed
  fresh n hn := by
    show t.hub.channel n = _
    have hn : a.hub.opened ≤ n := hopened ▸ hn
    rw [hfresh n hn, hs.fresh n hn]

theorem lessened {f : Hub → Hub} (htidy : (f a.hub).Tidy) (h : a.hub.Lessened (f a.hub)) :
    ({ a with timeline := a.timeline.onHub f } : Audience).Sound := by
  refine hs.withTimeline (hs.quiet.onHub f) htidy h.opened ?_ ?_
  · intro location
    exact List.Subset.trans (h.members location) (hs.subscribed location)
  · intro n hn
    refine h.others n fun location c hc => ?_
    have hlt := hs.channel_lt (hs.subscribed location hc)
    omega

theorem modifyChannel {c : Connection} (hc : c ∈ a.opened) (f : Channel → Channel) :
    ({ a with timeline := a.timeline.onHub (·.modifyChannel c.channel f) } : Audience).Sound := by
  refine hs.withTimeline (hs.quiet.onHub _) (hs.tidy.of_rooms_eq rfl) rfl hs.subscribed ?_
  intro n hn
  have hlt := hs.channel_lt hc
  have hne : n ≠ c.channel := by omega
  show (a.hub.modifyChannel c.channel f).channel n = _
  rw [Hub.channel_modifyChannel, if_neg hne]

theorem takeFrames {c : Connection} (hc : c ∈ a.opened) (n : Nat) :
    ({ a with timeline := (a.timeline.takeFrames c.channel n).2 } : Audience).Sound := by
  rw [hs.quiet.takeFrames_eq]
  exact hs.modifyChannel hc _

theorem hangUp {c : Connection} (hc : c ∈ a.opened) :
    ({ a with timeline := a.timeline.hangUp c.channel } : Audience).Sound := by
  rw [hs.quiet.hangUp_eq]
  exact hs.modifyChannel hc _

theorem touch {c : Connection} {f : Timeline → Timeline}
    (hf : c ∈ a.opened → ({ a with timeline := f a.timeline } : Audience).Sound) : (a.touch c f).Sound := by
  rw [Audience.touch]
  split
  · next hc => exact hf hc
  · exact hs

theorem connect (id : String) (capacity : Nat) : (a.step (.connect id capacity)).Sound where
  quiet := hs.quiet.onHub fun h => (h.connect id capacity).2
  tidy := hs.tidy.of_rooms_eq rfl
  numbers := by
    show (a.opened ++ [(⟨id, a.hub.opened⟩ : Connection)]).map Connection.channel =
      List.range (a.hub.opened + 1)
    rw [List.map_append, hs.numbers, List.range_succ]
    rfl
  subscribed location := List.subset_append_of_subset_left _ (hs.subscribed location)
  fresh n hn := by
    have hlt : a.hub.opened + 1 ≤ n := hn
    have hne : n ≠ a.hub.opened := by omega
    show (a.hub.modifyChannel a.hub.opened fun _ => .create capacity).channel n = _
    rw [Hub.channel_modifyChannel, if_neg hne, hs.fresh n (by omega)]

theorem subscribe {c : Connection} (hc : c ∈ a.opened) (location : LocationId) :
    ({ a with timeline := a.timeline.onHub (·.subscribe c location) } : Audience).Sound := by
  refine hs.withTimeline (hs.quiet.onHub _) (hs.tidy.subscribe c location) rfl ?_ fun _ _ => rfl
  intro other member hmember
  have hmember : member ∈ (a.hub.subscribe c location).members other := hmember
  rw [Hub.members_subscribe] at hmember
  split at hmember
  · rcases List.mem_append.mp hmember with hearlier | hlast
    · exact hs.subscribed location (List.mem_of_mem_filter hearlier)
    · rwa [List.mem_singleton.mp hlast]
  · exact hs.subscribed other hmember

theorem hub_broadcast (location : LocationId) (text : String) (timeout : Nat) :
    (a.step (.broadcast location text timeout)).hub = (a.hub.broadcast location text).2 :=
  (hs.quiet.deliver location text timeout).2.1

theorem hub_take (c : Connection) (n : Nat) :
    (a.step (.take c n)).hub =
      if c ∈ a.opened then a.hub.modifyChannel c.channel (fun ch => (ch.take n).2) else a.hub := by
  refine (hub_touch a c _).trans ?_
  rw [hs.quiet.takeFrames_eq]
  rfl

theorem hub_hangUp (c : Connection) :
    (a.step (.hangUp c)).hub =
      if c ∈ a.opened then a.hub.modifyChannel c.channel Channel.hangUp else a.hub := by
  refine (hub_touch a c _).trans ?_
  rw [hs.quiet.hangUp_eq]
  rfl

theorem broadcast (location : LocationId) (text : String) (timeout : Nat) :
    (a.step (.broadcast location text timeout)).Sound := by
  have hhub : (a.timeline.deliver location text timeout).2.hub = (a.hub.broadcast location text).2 :=
    hs.hub_broadcast location text timeout
  have hquiet := (hs.quiet.deliver location text timeout).2.2
  have hnodup := hs.nodup_channels location
  refine hs.withTimeline hquiet ?_ ?_ ?_ ?_
  · rw [hhub]
    exact hs.tidy.broadcast location text
  · rw [hhub]
    exact ((Hub.lessened_prune _ _ _).opened).trans (Hub.opened_offerEach _ _ _)
  · intro other c hc
    rw [hhub, Hub.members_broadcast hnodup] at hc
    split at hc
    · exact hs.subscribed location (List.mem_of_mem_filter hc)
    · exact hs.subscribed other hc
  · intro n hn
    rw [hhub, Hub.channel_broadcast hnodup, if_neg]
    rintro ⟨c, hc, rfl⟩
    have hlt := hs.channel_lt (hs.subscribed location hc)
    omega

theorem step (e : Event) : (a.step e).Sound := by
  cases e with
  | connect id capacity => exact hs.connect id capacity
  | subscribe c location =>
    exact hs.touch (f := fun t => t.onHub (·.subscribe c location)) fun hc => hs.subscribe hc location
  | unsubscribe id location =>
    exact hs.lessened (hs.tidy.unsubscribe id location) (a.hub.lessened_unsubscribe id location)
  | broadcast location text timeout => exact hs.broadcast location text timeout
  | pingAll => exact hs.lessened hs.tidy.pingAll hs.tidy.lessened_pingAll
  | shutdownAll => exact hs.lessened (.of_rooms_eq_nil rfl) hs.tidy.lessened_shutdownAll
  | prune location dead =>
    exact hs.lessened (hs.tidy.prune location dead) (a.hub.lessened_prune location dead)
  | take c n => exact hs.touch (f := fun t => (t.takeFrames c.channel n).2) fun hc => hs.takeFrames hc n
  | hangUp c => exact hs.touch (f := fun t => t.hangUp c.channel) hs.hangUp
  | cancel c =>
    exact hs.touch (f := fun t => t.onHub (·.modifyChannel c.channel fun ch => { ch with evicted := true }))
      fun hc => hs.modifyChannel hc _

end Sound

/-- Whatever happens, an audience is sound. -/
theorem sound_after (events : List Event) : (after events).Sound := by
  induction events using List.reverseRecOn with
  | nil => exact .empty
  | append_singleton events e ih =>
    rw [after_concat]
    exact ih.step e

end Audience

end Waterway
