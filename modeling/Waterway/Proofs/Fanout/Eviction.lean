import Waterway.Proofs.Fanout.Directory
import Waterway.Proofs.Fanout.Heartbeat
import Waterway.Proofs.Fanout.StaleFailure

/-!
# Evictions

The operations on subscribers are performed one after the other, while receivers come and go, and each connection is
subscribed once. Then who is evicted has been removed by a broadcast, a heartbeat or the shutdown, and hears no more.

## Main definitions

- `Fanout.Orderly` — such a course of events
- `Fanout.Exclusive` — one broadcast at a time
- `Fanout.Regular` — what holds after all of them
- `Fanout.Fares` — what one event does to one connection
- `Fanout.Removed` — a broadcast, a heartbeat or the shutdown has removed a connection

## Main statements

- `Fanout.Regular.fares`, `Fanout.Regular.step` — one event
- `Fanout.regular_after` — what holds after an orderly course of events
- `Fanout.eviction_exact` — evictions are exact and final
-/

namespace Waterway

namespace Channel

@[simp]
theorem evicted_offer (c : Channel) (f : Frame) : (c.offer f).evicted = c.evicted := by
  rw [offer]
  split <;> rfl

theorem frames_evict (c : Channel) :
    c.evict.frames = if c.offerOutcome = .queued then c.frames ++ [.close] else c.frames := by
  rw [evict, offer]
  split <;> rfl

end Channel

namespace Fanout

variable {s : Fanout} {known : List Connection} {events : List Event} {e : Event} {location : LocationId}
  {c : Connection}

namespace Event

/-- The operations; a broadcast may also come in pieces. -/
def isOperation : Event → Bool
  | .meanwhile (.subscribe ..) | .meanwhile (.unsubscribe ..) | .meanwhile (.broadcast ..) | .meanwhile .pingAll
  | .meanwhile .shutdownAll | .start .. => true
  | _ => false

/-- What happens only in the course of an operation, or is done by others. -/
def isForeign : Event → Bool
  | .meanwhile (.prune ..) | .meanwhile (.cancel _) | .ping _ => true
  | _ => false

/-- What removes connections that failed, or all of them. -/
def isEvicting : Event → Bool
  | .meanwhile (.broadcast ..) | .meanwhile .pingAll | .meanwhile .shutdownAll | .finish _ => true
  | _ => false

def subscriber? : Event → Option Connection
  | .meanwhile (.subscribe c _) => some c
  | _ => none

end Event

/-- The connections that have been subscribed. -/
def subscribed (events : List Event) : List Connection :=
  events.filterMap Event.subscriber?

/-- An operation waits for the one before, and a connection is not subscribed again. -/
def InTurn (known : List Connection) (s : Fanout) (e : Event) : Prop :=
  e.isForeign = false ∧ (e.isOperation → s.rounds = []) ∧ ∀ c ∈ e.subscriber?, c ∉ known

instance (known : List Connection) (s : Fanout) (e : Event) : Decidable (InTurn known s e) :=
  inferInstanceAs (Decidable (_ ∧ _ ∧ _))

/-- Every event comes in turn. -/
def Orderly (events : List Event) : Prop :=
  ∀ i, ∀ _ : i < events.length, InTurn (subscribed (events.take i)) (after (events.take i)) events[i]

instance : DecidablePred Orderly := fun events =>
  inferInstanceAs (Decidable (∀ i, ∀ _ : i < events.length, _))

theorem orderly_concat : Orderly (events ++ [e]) ↔ Orderly events ∧ InTurn (subscribed events) (after events) e := by
  constructor
  · intro h
    constructor
    · intro i hi
      have hturn := h i (by simp; omega)
      rwa [List.take_append_of_le_length (Nat.le_of_lt hi), List.getElem_append_left hi] at hturn
    · have hturn := h events.length (by simp)
      rwa [List.take_left, List.getElem_concat_length rfl] at hturn
  · rintro ⟨h, hturn⟩ i hi
    by_cases hlt : i < events.length
    · rw [List.take_append_of_le_length (Nat.le_of_lt hlt), List.getElem_append_left hlt]
      exact h i hlt
    · obtain rfl : i = events.length := by
        rw [List.length_append, List.length_singleton] at hi
        omega
      rwa [List.take_left, List.getElem_concat_length rfl]

/-- Who has just been opened has not been evicted. -/
theorem mem_opened_step (hc : c ∈ (s.step e).audience.opened) :
    c ∈ s.audience.opened ∨ ((s.step e).hub.channelOf c).evicted = false := by
  have hstepped := s.stepped e
  generalize s.step e = s' at hstepped hc
  cases hstepped with
  | meanwhile e =>
    rcases s.audience.opened_step e with hsame | ⟨id, capacity, rfl⟩
    · exact .inl (hsame ▸ hc)
    · rcases List.mem_append.mp hc with hold | hnew
      · exact .inl hold
      · obtain rfl := List.mem_singleton.mp hnew
        refine .inr ?_
        show ((s.hub.modifyChannel s.hub.opened fun _ => .create capacity).channel s.hub.opened).evicted = false
        rw [Hub.channel_modifyChannel, if_pos rfl]
        rfl
  | _ => exact .inl hc

/-- Nobody becomes a member but by subscribing. -/
theorem Sound.mem_members_step (hs : s.Sound) (hmem : c ∈ (s.step e).hub.members location) :
    c ∈ s.hub.members location ∨ c ∈ s.audience.opened ∧ e = .meanwhile (.subscribe c location) := by
  have hstepped := s.stepped e
  generalize s.step e = s' at hstepped hmem
  cases hstepped with
  | idle | pinged | started | sent | failed => exact .inl hmem
  | @finished i r => exact .inl ((s.hub.lessened_prune r.location r.dead).members location hmem)
  | meanwhile e =>
    by_cases hspares : e.Spares location
    · exact .inl (hs.audience.members_step_of_spares hspares ▸ hmem)
    · cases e with
      | subscribe c' location' =>
        obtain rfl : location = location' := not_not.mp hspares
        have hmem : c ∈ (s.audience.touch c' _).hub.members location := hmem
        rw [Audience.hub_touch] at hmem
        split at hmem
        · next hopened =>
          have hmem : c ∈ (s.hub.subscribe c' location).members location := hmem
          rw [Hub.members_subscribe, if_pos rfl] at hmem
          rcases List.mem_append.mp hmem with hold | hnew
          · exact .inl (List.mem_of_mem_filter hold)
          · obtain rfl := List.mem_singleton.mp hnew
            exact .inr ⟨hopened, rfl⟩
        · exact .inl hmem
      | unsubscribe id location' => exact .inl ((s.hub.lessened_unsubscribe id location').members location hmem)
      | broadcast location' text timeout =>
        have hmem : c ∈ (s.audience.step (.broadcast location' text timeout)).hub.members location := hmem
        rw [hs.audience.hub_broadcast, Hub.members_broadcast (hs.audience.nodup_channels location')] at hmem
        split at hmem
        · next hlocation => exact .inl (hlocation ▸ List.mem_of_mem_filter hmem)
        · exact .inl hmem
      | pingAll => exact .inl (hs.audience.tidy.lessened_pingAll.members location hmem)
      | shutdownAll => exact .inl (hs.audience.tidy.lessened_shutdownAll.members location hmem)
      | prune location' dead => exact .inl ((s.hub.lessened_prune location' dead).members location hmem)
      | _ => exact absurd trivial hspares

/-- At most one broadcast is under way. -/
structure Exclusive (s : Fanout) : Prop where
  single : s.rounds.length ≤ 1
  /-- Whom it is for stays subscribed until it is over. -/
  targets : ∀ r ∈ s.rounds, r.targets ⊆ s.hub.members r.location

namespace Exclusive

variable {s' : Fanout}

theorem of_rounds_eq_nil (hrounds : s.rounds = []) : s.Exclusive := by
  constructor <;> simp [hrounds]

variable (hx : s.Exclusive)
include hx

theorem settle {i : Nat} {r : Round} (hr : s.rounds[i]? = some r) (hc : c ∈ r.pending) (failure : Option SendFailure)
    (hrooms : s'.hub.rooms = s.hub.rooms) (hrounds : s'.rounds = s.rounds.set i (r.settle c failure)) :
    s'.Exclusive := by
  constructor
  · rw [hrounds, List.length_set]
    exact hx.single
  · intro r' hr'
    rw [Hub.members_congr hrooms]
    rw [hrounds] at hr'
    rcases List.mem_or_eq_of_mem_set hr' with hold | rfl
    · exact hx.targets r' hold
    · intro c' hc'
      exact hx.targets r (List.mem_of_getElem? hr) ((Round.targets_settle hc failure).mem_iff.mp hc')

theorem step (hs : s.Sound) (hturn : InTurn known s e) : (s.step e).Exclusive := by
  have hspared {e : Audience.Event} (he : ∀ location, e.Spares location) : (s.step (.meanwhile e)).Exclusive := by
    refine ⟨hx.single, fun r hr => ?_⟩
    show r.targets ⊆ (s.audience.step e).hub.members r.location
    rw [hs.audience.members_step_of_spares (he r.location)]
    exact hx.targets r hr
  have hstepped := s.stepped e
  generalize s.step e = s' at hstepped
  cases hstepped with
  | idle => exact hx
  | meanwhile e =>
    cases e with
    | connect id capacity => exact hspared fun _ => trivial
    | take c n => exact hspared fun _ => trivial
    | hangUp c => exact hspared fun _ => trivial
    | prune location dead => cases hturn.1
    | cancel c => cases hturn.1
    | _ => exact .of_rounds_eq_nil (hturn.2.1 rfl)
  | pinged => cases hturn.1
  | started location text =>
    have hnone : s.rounds = [] := hturn.2.1 rfl
    rw [hnone, List.nil_append]
    refine ⟨Nat.le_refl 1, fun r hr => ?_⟩
    obtain rfl := List.mem_singleton.mp hr
    rw [Round.targets, List.map_nil, List.append_nil]
    exact List.Subset.refl _
  | sent hr hc => exact hx.settle hr hc none rfl rfl
  | @failed i c why r hr hc => exact hx.settle hr hc (some why) rfl rfl
  | finished hr =>
    -- it was the only one
    refine .of_rounds_eq_nil (List.eq_nil_of_length_eq_zero ?_)
    obtain ⟨hi, -⟩ := List.getElem?_eq_some_iff.mp hr
    have hsingle := hx.single
    rw [List.length_eraseIdx, if_pos hi]
    omega

end Exclusive

/-- What holds as long as every event comes in turn. -/
structure Regular (known : List Connection) (s : Fanout) : Prop where
  sound : s.Sound
  exclusive : s.Exclusive
  distinct : s.hub.Distinct
  unevicted : ∀ location, ∀ c ∈ s.hub.members location, (s.hub.channelOf c).evicted = false
  subscribed : ∀ location, s.hub.members location ⊆ known
  /-- Who has been evicted has been subscribed. -/
  evicted : ∀ c ∈ s.audience.opened, (s.hub.channelOf c).evicted → c ∈ known

/-- How a connection fares in an event: it stays what it is, or it is removed and evicted. -/
inductive Fares (c : Connection) (e : Event) (h h' : Hub) : Prop where
  | kept (evicted : (h'.channelOf c).evicted = (h.channelOf c).evicted)
      (frames : (∀ location, c ∉ h.members location) → (h'.channelOf c).frames <:+ (h.channelOf c).frames)
      (members : e.isEvicting → ∀ location, c ∈ h.members location → c ∈ h'.members location)
  | evicted (hevicting : e.isEvicting) {location : LocationId} (hc : c ∈ h.members location)
      (hgone : c ∉ h'.members location) (hchannel : h'.channelOf c = (h.channelOf c).evict)

namespace Fares

variable {h h' : Hub}

theorem refl : Fares c e h h :=
  .kept rfl (fun _ => List.suffix_rfl) fun _ _ hmember => hmember

theorem of_channelOf_eq (he : e.isEvicting = false) (hchannel : h'.channelOf c = h.channelOf c) : Fares c e h h' :=
  .kept (by rw [hchannel]) (fun _ => by rw [hchannel]) (by simp [he])

theorem modifyChannel (he : e.isEvicting = false) {n : Nat} {f : Channel → Channel}
    (hevicted : ∀ ch, (f ch).evicted = ch.evicted)
    (hframes : (∀ location, c ∉ h.members location) → c.channel = n → ∀ ch, (f ch).frames <:+ ch.frames) :
    Fares c e h (h.modifyChannel n f) := by
  have hchannel : (h.modifyChannel n f).channelOf c =
      if c.channel = n then f (h.channel n) else h.channelOf c :=
    Hub.channel_modifyChannel h n c.channel f
  by_cases hn : c.channel = n
  · subst hn
    rw [if_pos rfl] at hchannel
    refine .kept ?_ (fun habsent => ?_) (by simp [he])
    · rw [hchannel]
      exact hevicted _
    · rw [hchannel]
      exact hframes habsent rfl _
  · rw [if_neg hn] at hchannel
    exact .of_channelOf_eq he hchannel

/-- Of the members of some locations, some are removed and evicted. -/
theorem of_members (he : e.isEvicting) (hd : h.Distinct)
    (hmember : ∀ location, c ∈ h.members location →
      c ∈ h'.members location ∧ (h'.channelOf c).evicted = (h.channelOf c).evicted ∨
        c ∉ h'.members location ∧ h'.channelOf c = (h.channelOf c).evict)
    (hother : (∀ location, c ∉ h.members location) → h'.channelOf c = h.channelOf c) : Fares c e h h' := by
  by_cases hc : ∃ location, c ∈ h.members location
  · obtain ⟨location, hc⟩ := hc
    rcases hmember location hc with ⟨hstays, hevicted⟩ | ⟨hgone, hchannel⟩
    · refine .kept hevicted (fun habsent => absurd hc (habsent location)) ?_
      intro _ other hother
      exact (hd _ _ hother _ _ hc rfl).1 ▸ hstays
    · exact .evicted he hc hgone hchannel
  · have habsent : ∀ location, c ∉ h.members location := fun location hmem => hc ⟨location, hmem⟩
    have hchannel := hother habsent
    refine .kept (by rw [hchannel]) (fun _ => by rw [hchannel]) ?_
    intro _ location hmem
    exact absurd hmem (habsent location)

end Fares

namespace Regular

variable (hreg : Regular known s)
include hreg

section Opened

variable (hc : c ∈ s.audience.opened)
include hc

theorem channel_ne (habsent : c ∉ s.hub.members location) : ∀ c' ∈ s.hub.members location, c'.channel ≠ c.channel := by
  intro c' hc' hchannel
  obtain rfl := hreg.sound.audience.eq_of_channel_eq (hreg.sound.audience.subscribed location hc') hc hchannel
  exact habsent hc'

/-- Of the members of one location, some are removed and evicted. -/
theorem fares_of_location (location : LocationId) (he : e.isEvicting) {h' : Hub}
    (hmember : c ∈ s.hub.members location →
      c ∈ h'.members location ∧ (h'.channelOf c).evicted = (s.hub.channelOf c).evicted ∨
        c ∉ h'.members location ∧ h'.channelOf c = (s.hub.channelOf c).evict)
    (hmembers : ∀ other ≠ location, h'.members other = s.hub.members other)
    (hchannels : (∀ c' ∈ s.hub.members location, c'.channel ≠ c.channel) → h'.channelOf c = s.hub.channelOf c) :
    Fares c e s.hub h' := by
  refine .of_members he hreg.distinct (fun other hother => ?_) fun habsent => ?_
  · by_cases hsame : other = location
    · subst hsame
      exact hmember hother
    · -- it is subscribed elsewhere, and so not here
      have hchannel := hchannels fun c' hc' heq => hsame (hreg.distinct _ _ hc' _ _ hother heq).1.symm
      exact .inl ⟨hmembers other hsame ▸ hother, by rw [hchannel]⟩
  · exact hchannels (hreg.channel_ne hc (habsent location))

theorem fares_broadcast (location : LocationId) (text : String) (timeout : Nat) :
    Fares c (.meanwhile (.broadcast location text timeout)) s.hub
      (s.step (.meanwhile (.broadcast location text timeout))).hub := by
  have hnodup : ((s.hub.members location).map Connection.channel).Nodup :=
    hreg.sound.audience.nodup_channels location
  have hhub : (s.step (.meanwhile (.broadcast location text timeout))).hub = (s.hub.broadcast location text).2 :=
    hreg.sound.audience.hub_broadcast location text timeout
  rw [hhub]
  refine hreg.fares_of_location hc location rfl (fun hmember => ?_) (fun other hother => ?_) fun hne => ?_
  · have hchannel := Hub.channel_broadcast hnodup text c.channel
    rw [if_pos ⟨c, hmember, rfl⟩] at hchannel
    rw [Hub.members_broadcast hnodup, if_pos rfl, List.mem_filter]
    by_cases haccepts : (s.hub.channel c.channel).accepts
    · rw [if_pos haccepts] at hchannel
      refine .inl ⟨⟨hmember, haccepts⟩, ?_⟩
      rw [show (s.hub.broadcast location text).2.channelOf c = _ from hchannel]
      rfl
    · rw [if_neg haccepts] at hchannel
      exact .inr ⟨fun h => haccepts h.2, hchannel⟩
  · rw [Hub.members_broadcast hnodup, if_neg hother]
  · rw [Hub.channelOf, Hub.channel_broadcast hnodup, if_neg]
    · rfl
    · rintro ⟨c', hc', hchannel⟩
      exact hne c' hc' hchannel

theorem fares_pingAll : Fares c (.meanwhile .pingAll) s.hub s.hub.pingAll := by
  have ht : s.hub.Tidy := hreg.sound.audience.tidy
  refine .of_members rfl hreg.distinct (fun location hmember => ?_) fun habsent => ?_
  · have hchannel := ht.channelOf_pingAll hreg.distinct hmember
    rw [ht.members_pingAll, List.mem_filter]
    cases hreceiving : (s.hub.channelOf c).receiving with
    | true =>
      rw [hreceiving, if_pos rfl] at hchannel
      exact .inl ⟨⟨hmember, rfl⟩, by rw [hchannel, Channel.evicted_offer]⟩
    | false =>
      rw [hreceiving, if_neg Bool.false_ne_true] at hchannel
      exact .inr ⟨fun h => Bool.false_ne_true h.2, hchannel⟩
  · exact ht.lessened_pingAll.others c.channel fun location => hreg.channel_ne hc (habsent location)

theorem fares_shutdownAll : Fares c (.meanwhile .shutdownAll) s.hub s.hub.shutdownAll := by
  have ht : s.hub.Tidy := hreg.sound.audience.tidy
  refine .of_members rfl hreg.distinct (fun location hmember => ?_) fun habsent => ?_
  · exact .inr ⟨List.not_mem_nil, ht.channelOf_shutdownAll hreg.distinct hmember⟩
  · exact ht.lessened_shutdownAll.others c.channel fun location => hreg.channel_ne hc (habsent location)

theorem fares_prune (he : e.isEvicting) {r : Round} (hr : r ∈ s.rounds) :
    Fares c e s.hub (s.hub.prune r.location r.dead) := by
  have hdead : r.dead ⊆ s.audience.opened := List.Subset.trans r.dead_sublist.subset (hreg.sound.targets r hr)
  have hpruned := hreg.sound.pruned r.location hdead
  refine hreg.fares_of_location hc r.location he (fun hmember => ?_) hpruned.otherLocations fun hne => ?_
  · by_cases hfailed : ∃ d ∈ r.dead, d.channel = c.channel
    · refine .inr ⟨fun hstays => ?_, hpruned.evicted c hmember hfailed⟩
      obtain ⟨d, hd, hchannel⟩ := hfailed
      exact ((hpruned.mem_iff c).mp hstays).2 d hd hchannel
    · obtain ⟨hstays, hchannel⟩ := hpruned.stays hmember fun d hd heq => hfailed ⟨d, hd, heq⟩
      exact .inl ⟨hstays, by rw [hchannel]⟩
  · exact hpruned.otherChannels c.channel fun c' hc' heq => absurd heq (hne c' hc')

/-- What becomes of a connection in an event that comes in turn. -/
theorem fares (hturn : InTurn known s e) : Fares c e s.hub (s.step e).hub := by
  have hstepped := s.stepped e
  generalize s.step e = s' at hstepped
  cases hstepped with
  | idle => exact .refl
  | started location text => exact .of_channelOf_eq rfl rfl
  | failed => exact .of_channelOf_eq rfl rfl
  | pinged => cases hturn.1
  | finished hr => exact hreg.fares_prune hc rfl (List.mem_of_getElem? hr)
  | @sent _ c' r hr hpending =>
    show Fares c _ s.hub (s.hub.modifyChannel c'.channel (·.offer (.text r.text)))
    refine .modifyChannel rfl (fun ch => ch.evicted_offer _) fun habsent hchannel => ?_
    -- whoever gets the frame is subscribed
    have hmember : c' ∈ s.hub.members r.location :=
      hreg.exclusive.targets r (List.mem_of_getElem? hr) (List.mem_append_left _ hpending)
    exact absurd hchannel.symm (hreg.channel_ne hc (habsent r.location) c' hmember)
  | meanwhile e =>
    cases e with
    | connect id capacity =>
      have hlt := hreg.sound.audience.channel_lt hc
      have hne : c.channel ≠ s.hub.opened := Nat.ne_of_lt hlt
      refine .of_channelOf_eq rfl ?_
      show (s.hub.modifyChannel s.hub.opened fun _ => .create capacity).channel c.channel = _
      rw [Hub.channel_modifyChannel, if_neg hne]
      rfl
    | subscribe c' location =>
      refine .of_channelOf_eq rfl ?_
      show (s.audience.touch c' _).hub.channelOf c = _
      rw [Audience.hub_touch]
      split <;> rfl
    | unsubscribe id location => exact .of_channelOf_eq rfl rfl
    | broadcast location text timeout => exact hreg.fares_broadcast hc location text timeout
    | pingAll => exact hreg.fares_pingAll hc
    | shutdownAll => exact hreg.fares_shutdownAll hc
    | prune location dead => cases hturn.1
    | take c' n =>
      show Fares c _ s.hub (s.audience.step (.take c' n)).hub
      rw [hreg.sound.audience.hub_take]
      split
      · exact .modifyChannel rfl (fun _ => rfl) fun _ _ ch => List.drop_suffix n ch.frames
      · exact .refl
    | hangUp c' =>
      show Fares c _ s.hub (s.audience.step (.hangUp c')).hub
      rw [hreg.sound.audience.hub_hangUp]
      split
      · exact .modifyChannel rfl (fun _ => rfl) fun _ _ _ => List.nil_suffix
      · exact .refl
    | cancel c' => cases hturn.1

end Opened

/-- Who subscribes has not been known before, and so has not been evicted. -/
theorem unevicted_step (hturn : InTurn known s e) (hc : c ∈ (s.step e).hub.members location) :
    ((s.step e).hub.channelOf c).evicted = false := by
  rcases hreg.sound.mem_members_step hc with hmember | ⟨hopened, rfl⟩
  · cases hreg.fares (hreg.sound.audience.subscribed location hmember) hturn with
    | kept hevicted => exact hevicted.trans (hreg.unevicted location c hmember)
    | evicted _ hmember' hgone =>
      obtain ⟨rfl, -⟩ := hreg.distinct _ _ hmember' _ _ hmember rfl
      exact absurd hc hgone
  · cases hreg.fares hopened hturn with
    | kept hevicted =>
      rw [hevicted, ← Bool.not_eq_true]
      exact fun hevicted => hturn.2.2 c rfl (hreg.evicted c hopened hevicted)
    | evicted hevicting => cases hevicting

theorem distinct_step (hturn : InTurn known s e) : (s.step e).hub.Distinct := by
  intro location c hc location' c' hc' hchannel
  have hs' := (hreg.sound.step e).audience
  obtain rfl := hs'.eq_of_channel_eq (hs'.subscribed _ hc) (hs'.subscribed _ hc') hchannel
  refine ⟨?_, rfl⟩
  -- a connection that subscribes is not known, and so cannot be subscribed elsewhere already
  rcases hreg.sound.mem_members_step hc with hold | ⟨-, rfl⟩
  · rcases hreg.sound.mem_members_step hc' with hold' | ⟨-, rfl⟩
    · exact (hreg.distinct _ _ hold _ _ hold' rfl).1
    · exact absurd (hreg.subscribed _ hold) (hturn.2.2 c rfl)
  · rcases hreg.sound.mem_members_step hc' with hold' | ⟨-, heq⟩
    · exact absurd (hreg.subscribed _ hold') (hturn.2.2 c rfl)
    · cases heq
      rfl

theorem step (hturn : InTurn known s e) : Regular (known ++ e.subscriber?.toList) (s.step e) where
  sound := hreg.sound.step e
  exclusive := hreg.exclusive.step hreg.sound hturn
  distinct := hreg.distinct_step hturn
  unevicted location c hc := hreg.unevicted_step hturn hc
  subscribed location c hc := by
    rcases hreg.sound.mem_members_step hc with hold | ⟨-, rfl⟩
    · exact List.mem_append_left _ (hreg.subscribed location hold)
    · exact List.mem_append_right _ List.mem_cons_self
  evicted c hc hevicted := by
    refine List.mem_append_left _ ?_
    rcases mem_opened_step hc with hopened | hfresh
    · cases hreg.fares hopened hturn with
      | kept hsame => exact hreg.evicted c hopened (hsame ▸ hevicted)
      | evicted _ hmember => exact hreg.subscribed _ hmember
    · rw [hfresh] at hevicted
      cases hevicted

end Regular

theorem subscribed_concat (events : List Event) (e : Event) :
    subscribed (events ++ [e]) = subscribed events ++ e.subscriber?.toList := by
  rw [subscribed, List.filterMap_append]
  cases h : e.subscriber? <;> simp [subscribed, h]

theorem regular_after (h : Orderly events) : Regular (subscribed events) (after events) := by
  induction events using List.reverseRecOn with
  | nil =>
    refine ⟨sound_after [], .of_rounds_eq_nil rfl, ?_, ?_, ?_, ?_⟩
    · exact fun _ _ hc => absurd hc List.not_mem_nil
    · exact fun _ _ hc => absurd hc List.not_mem_nil
    · exact fun _ => List.nil_subset _
    · exact fun _ hc => absurd hc List.not_mem_nil
  | append_singleton events e ih =>
    obtain ⟨hbefore, hturn⟩ := orderly_concat.mp h
    rw [after_concat, subscribed_concat]
    exact (ih hbefore).step hturn

/-- A broadcast, a heartbeat or the shutdown has removed a connection from where it was subscribed. -/
def Removed (events : List Event) (c : Connection) : Prop :=
  ∃ before e later, events = before ++ e :: later ∧ e.isEvicting ∧
    ∃ location, c ∈ (after before).hub.members location ∧ c ∉ ((after before).step e).hub.members location

theorem removed_concat : Removed (events ++ [e]) c ↔ Removed events c ∨ e.isEvicting ∧
    ∃ location, c ∈ (after events).hub.members location ∧ c ∉ ((after events).step e).hub.members location := by
  constructor
  · rintro ⟨before, e', later, hevents, hremoved⟩
    rcases later.eq_nil_or_concat with rfl | ⟨later, last, rfl⟩
    · obtain ⟨rfl, heq⟩ := List.append_inj' hevents rfl
      cases heq
      exact .inr hremoved
    · rw [List.concat_eq_append, ← List.cons_append, ← List.append_assoc] at hevents
      exact .inl ⟨before, e', later, (List.append_inj' hevents rfl).1, hremoved⟩
  · rintro (⟨before, e', later, rfl, hremoved⟩ | hremoved)
    · exact ⟨before, e', later ++ [e], by simp, hremoved⟩
    · exact ⟨events, e, [], rfl, hremoved⟩

theorem Removed.mem_opened (h : Removed events c) : c ∈ (after events).audience.opened := by
  induction events using List.reverseRecOn with
  | nil =>
    obtain ⟨before, e, later, hevents, -⟩ := h
    simp at hevents
  | append_singleton events e ih =>
    rw [after_concat]
    refine ((after events).stepped e).opened_subset ?_
    rcases removed_concat.mp h with hearlier | ⟨-, location, hmember, -⟩
    · exact ih hearlier
    · exact (sound_after events).audience.subscribed location hmember

/-- Exactly those are evicted who have been removed. -/
theorem evicted_iff_removed (h : Orderly events) (hc : c ∈ (after events).audience.opened) :
    ((after events).hub.channelOf c).evicted ↔ Removed events c := by
  induction events using List.reverseRecOn with
  | nil => exact absurd hc List.not_mem_nil
  | append_singleton events e ih =>
    obtain ⟨hbefore, hturn⟩ := orderly_concat.mp h
    rw [after_concat] at hc ⊢
    rw [removed_concat]
    by_cases hopened : c ∈ (after events).audience.opened
    · rw [← ih hbefore hopened]
      cases (regular_after hbefore).fares hopened hturn with
      | kept hevicted _ hmembers =>
        rw [hevicted, or_iff_left]
        rintro ⟨hevicting, location, hmember, hgone⟩
        exact hgone (hmembers hevicting location hmember)
      | evicted hevicting hmember hgone hchannel =>
        rw [hchannel]
        exact iff_of_true rfl (.inr ⟨hevicting, _, hmember, hgone⟩)
    · -- who has just been opened has neither been evicted nor been subscribed
      rw [(mem_opened_step hc).resolve_left hopened]
      refine iff_of_false Bool.false_ne_true ?_
      rintro (hremoved | ⟨-, location, hmember, -⟩)
      · exact hopened hremoved.mem_opened
      · exact hopened ((sound_after events).audience.subscribed location hmember)

/-- Who has been evicted is never subscribed again, and nothing comes into its queue. -/
theorem evicted_run {later : List Event} (h : Orderly (events ++ later)) (hc : c ∈ (after events).audience.opened)
    (hevicted : ((after events).hub.channelOf c).evicted) :
    c ∈ (after (events ++ later)).audience.opened ∧
      ((after (events ++ later)).hub.channelOf c).evicted ∧
      ((after (events ++ later)).hub.channelOf c).frames <:+ ((after events).hub.channelOf c).frames := by
  induction later using List.reverseRecOn with
  | nil =>
    rw [List.append_nil]
    exact ⟨hc, hevicted, List.suffix_rfl⟩
  | append_singleton later e ih =>
    rw [← List.append_assoc] at h ⊢
    obtain ⟨hbefore, hturn⟩ := orderly_concat.mp h
    obtain ⟨hopened, hstill, hsuffix⟩ := ih hbefore
    have hreg := regular_after hbefore
    have habsent (location : LocationId) : c ∉ (after (events ++ later)).hub.members location := by
      intro hmember
      rw [hreg.unevicted location c hmember] at hstill
      cases hstill
    rw [after_concat]
    refine ⟨((after _).stepped e).opened_subset hopened, ?_⟩
    cases hreg.fares hopened hturn with
    | kept hsame hframes => exact ⟨hsame ▸ hstill, (hframes habsent).trans hsuffix⟩
    | evicted _ hmember => exact absurd hmember (habsent _)

/-- After any orderly course of events, exactly those connections are evicted that a broadcast, a heartbeat or the
shutdown has removed while they were subscribed, and none that still is. No other event evicts; subscribing,
unsubscribing and being replaced leave all channels alone. A connection that is evicted gets the request to close if its
queue takes it, and after that it is never subscribed again and nothing comes into its queue. -/
theorem eviction_exact (events : List Event) (h : Orderly events) :
    let s := after events
    (∀ c ∈ s.audience.opened, (s.hub.channelOf c).evicted ↔ Removed events c) ∧
      (∀ location, ∀ c ∈ s.hub.members location, (s.hub.channelOf c).evicted = false) ∧
      (∀ c c' location id, (s.step (.meanwhile (.subscribe c' location))).hub.channelOf c = s.hub.channelOf c ∧
        (s.step (.meanwhile (.unsubscribe id location))).hub.channelOf c = s.hub.channelOf c) ∧
      (∀ e, Orderly (events ++ [e]) → ∀ c ∈ s.audience.opened, (s.hub.channelOf c).evicted = false →
        ((s.step e).hub.channelOf c).evicted →
        e.isEvicting ∧ (∃ location, c ∈ s.hub.members location) ∧
          ((s.step e).hub.channelOf c).frames = if (s.hub.channelOf c).offerOutcome = .queued then
            (s.hub.channelOf c).frames ++ [.close] else (s.hub.channelOf c).frames) ∧
      ∀ c ∈ s.audience.opened, (s.hub.channelOf c).evicted → ∀ later, Orderly (events ++ later) →
        let s' := after (events ++ later)
        (s'.hub.channelOf c).evicted ∧ (∀ location, c ∉ s'.hub.members location) ∧
          (s'.hub.channelOf c).frames <:+ (s.hub.channelOf c).frames := by
  intro s
  have hreg : Regular (subscribed events) s := regular_after h
  refine ⟨fun c hc => evicted_iff_removed h hc, hreg.unevicted, fun c c' location id => ⟨?_, rfl⟩, ?_, ?_⟩
  · show (s.audience.touch c' _).hub.channelOf c = _
    rw [Audience.hub_touch]
    split <;> rfl
  · intro e he c hc hbefore hafter
    cases hreg.fares hc (orderly_concat.mp he).2 with
    | kept hsame =>
      rw [hsame, hbefore] at hafter
      cases hafter
    | evicted hevicting hmember _ hchannel =>
      refine ⟨hevicting, ⟨_, hmember⟩, ?_⟩
      rw [hchannel, Channel.frames_evict]
  · intro c hc hevicted later hlater
    obtain ⟨-, hstill, hsuffix⟩ := evicted_run hlater hc hevicted
    refine ⟨hstill, fun location hmember => ?_, hsuffix⟩
    rw [(regular_after hlater).unevicted location c hmember] at hstill
    cases hstill

/-- The second text finds a full queue, and during the broadcast the receiver makes room when it is too late. -/
def tooLate : List Event :=
  [.meanwhile (.connect "a" 1), .meanwhile (.subscribe ⟨"a", 0⟩ 7), .start 7 "rising", .send 0 ⟨"a", 0⟩, .finish 0,
    .start 7 "falling", .fail 0 ⟨"a", 0⟩ .timedOut, .meanwhile (.take ⟨"a", 0⟩ 1), .finish 0]

/-- The connection has been removed by the second broadcast, and what comes last is the request to close. -/
theorem eviction_exact_tooLate :
    Removed tooLate ⟨"a", 0⟩ ∧ ((after tooLate).hub.channelOf ⟨"a", 0⟩).frames = [.close] ∧
      ((after (tooLate ++ [.meanwhile .pingAll])).hub.channelOf ⟨"a", 0⟩).frames <:+ [.close] := by
  have hframes : ((after tooLate).hub.channelOf ⟨"a", 0⟩).frames = [.close] := by decide
  obtain ⟨hremoved, -, -, -, hfinal⟩ := eviction_exact tooLate (by decide)
  refine ⟨(hremoved ⟨"a", 0⟩ (by decide)).mp (by decide), hframes, hframes ▸ ?_⟩
  exact (hfinal ⟨"a", 0⟩ (by decide) (by decide) [.meanwhile .pingAll] (by decide)).2.2

end Fanout

end Waterway
