import Waterway.Fanout.Timeline
import Waterway.Proofs.Fanout.Eviction

/-!
# Who can still send

Frames come into a queue at its end, from those who are subscribed by way of it or from a delivery under way. When there
is neither, nothing comes any more, and nobody can become a sender again.

## Main definitions

- `Channel.Grows` — frames have been added to a queue, and an eviction has not been taken back
- `Hub.Lists`, `Delivery.Carries` — the two kinds of senders
- `Hub.Feeds`, `Timeline.Feeds` — a queue grows, and does so only while it has a sender
- `Timeline.Happens` — what can happen while a receiver does nothing

## Main statements

- `Timeline.feeds_takeFrames` — what waited for the room that a receiver makes comes in behind what it left
- `Timeline.Happens.feeds` — whatever else happens feeds the queue
-/

namespace Waterway

/-! ## Queues -/

/-- Frames have been added to a queue, and an eviction has not been taken back. -/
structure Channel.Grows (c c' : Channel) : Prop where
  frames : c.frames <+: c'.frames
  evicted : c.evicted → c'.evicted

namespace Channel.Grows

theorem refl (c : Channel) : c.Grows c :=
  ⟨List.prefix_rfl, id⟩

theorem trans {c c' c'' : Channel} (h : c.Grows c') (h' : c'.Grows c'') : c.Grows c'' :=
  ⟨h.frames.trans h'.frames, fun hevicted => h'.evicted (h.evicted hevicted)⟩

theorem offer (c : Channel) (f : Frame) : c.Grows (c.offer f) where
  frames := by
    rcases c.frames_offer f with hlost | hlast
    · rw [hlost]
    · rw [hlast]
      exact List.prefix_append _ _
  evicted h := by rwa [evicted_offer]

theorem evict (c : Channel) : c.Grows c.evict where
  frames := (offer c .close).frames
  evicted _ := rfl

end Channel.Grows

/-! ## Steps of the hub -/

namespace Hub

variable {n : Nat} {h h' h'' : Hub} {location : LocationId} {c : Connection}

/-- Somebody is subscribed by way of a channel. -/
def Lists (h : Hub) (n : Nat) : Prop :=
  ∃ subscription ∈ h.subscriptions, subscription.2.channel = n

/-- A queue grows, and does so only while somebody is subscribed by way of it; nobody new is. -/
structure Feeds (n : Nat) (h h' : Hub) : Prop where
  grows : (h.channel n).Grows (h'.channel n)
  lists : h'.Lists n → h.Lists n
  unlisted : ¬h.Lists n → (h'.channel n).frames = (h.channel n).frames

namespace Feeds

theorem refl (n : Nat) (h : Hub) : h.Feeds n h :=
  ⟨.refl _, id, fun _ => rfl⟩

theorem trans (hfirst : h.Feeds n h') (hsecond : h'.Feeds n h'') : h.Feeds n h'' where
  grows := hfirst.grows.trans hsecond.grows
  lists hlists := hfirst.lists (hsecond.lists hlists)
  unlisted hnone := (hsecond.unlisted fun hlists => hnone (hfirst.lists hlists)).trans (hfirst.unlisted hnone)

theorem foldl {α : Type} {act : Hub → α → Hub} (hact : ∀ (h : Hub) a, h.Feeds n (act h a)) (xs : List α) (h : Hub) :
    h.Feeds n (xs.foldl act h) :=
  List.foldlRecOn xs act (.refl n h) fun h' hfeeds a _ => hfeeds.trans (hact h' a)

end Feeds

theorem mem_subscriptions_of_mem (hc : c ∈ h.members location) : (location, c) ∈ h.subscriptions := by
  rw [members] at hc
  cases hlookup : h.rooms.lookup location with
  | none => simp [hlookup] at hc
  | some ms =>
    rw [hlookup] at hc
    obtain ⟨before, after, hrooms, -⟩ := List.lookup_eq_some_iff.mp hlookup
    refine List.mem_flatMap.mpr ⟨(location, ms), ?_, List.mem_map.mpr ⟨c, hc, rfl⟩⟩
    rw [hrooms]
    exact List.mem_append_right _ List.mem_cons_self

theorem mem_subscriptions_setMembers {ms : List Connection} {subscription : LocationId × Connection}
    (hmem : subscription ∈ (h.setMembers location ms).subscriptions) :
    subscription ∈ h.subscriptions ∨ subscription.2 ∈ ms := by
  obtain ⟨room, hroom, hsubscription⟩ := List.mem_flatMap.mp hmem
  rw [setMembers] at hroom
  dsimp only at hroom
  split at hroom
  · exact .inl (List.mem_flatMap.mpr ⟨room, List.mem_of_mem_filter hroom, hsubscription⟩)
  · rcases Keyed.eq_or_mem_of_mem_put hroom with rfl | hold
    · obtain ⟨c, hc, rfl⟩ := List.mem_map.mp hsubscription
      exact .inr hc
    · exact .inl (List.mem_flatMap.mpr ⟨room, hold, hsubscription⟩)

/-- The channel of somebody who is subscribed changes. -/
theorem feeds_modifyChannel (hc : (location, c) ∈ h.subscriptions) {f : Channel → Channel}
    (hf : ∀ ch : Channel, ch.Grows (f ch)) : h.Feeds n (h.modifyChannel c.channel f) where
  grows := by
    rw [channel_modifyChannel]
    split
    · next hn => exact hn ▸ hf _
    · exact .refl _
  lists := id
  unlisted hnone := by
    rw [channel_modifyChannel, if_neg]
    rintro rfl
    exact hnone ⟨_, hc, rfl⟩

theorem feeds_modifyChannel_of_ne {other : Nat} (hne : other ≠ n) (f : Channel → Channel) :
    h.Feeds n (h.modifyChannel other f) := by
  have hchannel : (h.modifyChannel other f).channel n = h.channel n := by
    rw [channel_modifyChannel, if_neg (Ne.symm hne)]
  exact ⟨hchannel ▸ .refl _, id, fun _ => by rw [hchannel]⟩

/-- A connection that is opened has a channel of its own. -/
theorem feeds_connect (hopened : n < h.opened) (id : String) (capacity : Nat) : h.Feeds n (h.connect id capacity).2 :=
  have hother := feeds_modifyChannel_of_ne (h := h) (Nat.ne_of_gt hopened) fun _ => .create capacity
  ⟨hother.grows, hother.lists, hother.unlisted⟩

theorem feeds_modifyEach {targets : List (LocationId × Connection)} (htargets : ∀ target ∈ targets,
    target ∈ h.subscriptions) {f : Channel → Channel} (hf : ∀ ch : Channel, ch.Grows (f ch)) :
    h.Feeds n (targets.foldl (fun h target => h.modifyChannel target.2.channel f) h) := by
  induction targets generalizing h with
  | nil => exact .refl n h
  | cons target targets ih =>
    refine (feeds_modifyChannel (htargets target List.mem_cons_self) hf).trans (ih fun other hother => ?_)
    exact htargets other (List.mem_cons_of_mem _ hother)

/-- Nobody but others is newly subscribed. -/
theorem feeds_setMembers {ms : List Connection} (hms : ∀ c ∈ ms, c ∈ h.members location ∨ c.channel ≠ n) :
    h.Feeds n (h.setMembers location ms) where
  grows := .refl _
  lists := by
    rintro ⟨subscription, hmem, hn⟩
    rcases mem_subscriptions_setMembers hmem with hold | hnew
    · exact ⟨subscription, hold, hn⟩
    · have hstays := (hms _ hnew).resolve_right (not_not.mpr hn)
      exact ⟨_, mem_subscriptions_of_mem hstays, hn⟩
  unlisted _ := rfl

theorem feeds_subscribe_of_ne (hc : c.channel ≠ n) (h : Hub) (location : LocationId) :
    h.Feeds n (h.subscribe c location) := by
  refine feeds_setMembers fun other hother => ?_
  rcases List.mem_append.mp hother with hold | hnew
  · exact .inl (List.mem_of_mem_filter hold)
  · exact .inr (List.mem_singleton.mp hnew ▸ hc)

theorem feeds_unsubscribe (h : Hub) (id : String) (location : LocationId) : h.Feeds n (h.unsubscribe id location) :=
  feeds_setMembers fun _ hc => .inl (List.mem_of_mem_filter hc)

theorem feeds_pruneOne (h : Hub) (location : LocationId) (dead : Connection) :
    h.Feeds n (h.pruneOne location dead) := by
  by_cases hdead : dead ∈ h.members location
  · have hevicted : h.Feeds n (h.modifyChannel dead.channel .evict) :=
      feeds_modifyChannel (mem_subscriptions_of_mem hdead) Channel.Grows.evict
    have hremoved : (h.modifyChannel dead.channel .evict).Feeds n ((h.modifyChannel dead.channel .evict).setMembers
        location ((h.members location).filter (· != dead))) :=
      feeds_setMembers fun _ hc => .inl (List.mem_of_mem_filter hc)
    rw [pruneOne, if_pos hdead]
    exact hevicted.trans hremoved
  · rw [pruneOne, if_neg hdead]
    exact .refl n h

theorem feeds_prune (h : Hub) (location : LocationId) (dead : List Connection) : h.Feeds n (h.prune location dead) :=
  .foldl (fun h c => h.feeds_pruneOne location c) dead h

theorem feeds_pingAll (h : Hub) : h.Feeds n h.pingAll := by
  rw [pingAll_eq]
  have hpinged := feeds_modifyEach (n := n) (fun _ (htarget : _ ∈ h.subscriptions) => htarget)
    fun ch => Channel.Grows.offer ch .ping
  exact hpinged.trans (.foldl (fun h (target : LocationId × Connection) => h.feeds_prune target.1 [target.2]) _ _)

/-- Everybody is asked to close, and nobody is subscribed any more. -/
theorem feeds_shutdownAll (h : Hub) : h.Feeds n h.shutdownAll := by
  have hclosed := feeds_modifyEach (n := n) (fun _ (htarget : _ ∈ h.subscriptions) => htarget) Channel.Grows.evict
  refine ⟨hclosed.grows, ?_, hclosed.unlisted⟩
  rintro ⟨_, hmem, -⟩
  cases hmem

theorem feeds_offerEach {cs : List Connection} (hcs : ∀ c ∈ cs, (location, c) ∈ h.subscriptions) (f : Frame) :
    h.Feeds n (offerEach f cs h).2 := by
  induction cs generalizing h with
  | nil => exact .refl n h
  | cons c cs ih =>
    have hfirst : h.Feeds n (h.offerTo f c) := by
      rw [offerTo]
      split
      · exact feeds_modifyChannel (hcs c List.mem_cons_self) fun ch => .offer ch f
      · exact .refl n h
    have hrooms : (h.offerTo f c).subscriptions = h.subscriptions := by
      rw [offerTo]
      split <;> rfl
    rw [offerEach_cons]
    exact hfirst.trans (ih fun other hother => hrooms ▸ hcs other (List.mem_cons_of_mem _ hother))

theorem mem_of_mem_offerEach {cs : List Connection} {f : Frame} {offer : Connection × Offer}
    (hmem : offer ∈ (offerEach f cs h).1) : offer.1 ∈ cs := by
  induction cs generalizing h with
  | nil => cases hmem
  | cons c cs ih =>
    rw [offerEach_cons] at hmem
    rcases List.mem_cons.mp hmem with rfl | hrest
    · exact List.mem_cons_self
    · exact List.mem_cons_of_mem _ (ih hrest)

end Hub

/-! ## Steps in time -/

/-- Some leg of a delivery goes to a channel. -/
def Delivery.Carries (d : Delivery) (n : Nat) : Prop :=
  ∃ leg ∈ d.legs, leg.connection.channel = n

/-- Legs that fare in another way go where they went. -/
theorem Delivery.carries_map {d : Delivery} {n : Nat} {f : Leg → Leg}
    (hf : ∀ leg, (f leg).connection = leg.connection) :
    ({ d with legs := d.legs.map f } : Delivery).Carries n ↔ d.Carries n := by
  simp [Carries, hf]

namespace Timeline

variable {n : Nat} {t t' t'' : Timeline}

theorem hasSender_iff :
    t.hasSender [] n ↔ t.hub.Lists n ∨ ∃ d ∈ t.underWay, d.Carries n := by
  simp [hasSender, Hub.Lists, Delivery.Carries]

/-- Some frames are taken out of a queue, and others come in behind what is left; they come only while somebody can
send, and nobody new can. -/
structure Feeds (n taken : Nat) (t t' : Timeline) : Prop where
  frames : (t.hub.channel n).frames.drop taken <+: (t'.hub.channel n).frames
  evicted : (t.hub.channel n).evicted → (t'.hub.channel n).evicted
  hasSender : t'.hasSender [] n → t.hasSender [] n
  unsent : t.hasSender [] n = false → (t'.hub.channel n).frames = (t.hub.channel n).frames.drop taken

namespace Feeds

theorem refl (n : Nat) (t : Timeline) : t.Feeds n 0 t :=
  ⟨List.prefix_rfl, id, id, fun _ => rfl⟩

theorem hasSender_eq_false {taken : Nat} (h : t.Feeds n taken t') (hnone : t.hasSender [] n = false) :
    t'.hasSender [] n = false := by
  rw [← Bool.not_eq_true] at hnone ⊢
  exact fun hsender => hnone (h.hasSender hsender)

theorem trans {taken : Nat} (hfirst : t.Feeds n taken t') (hsecond : t'.Feeds n 0 t'') : t.Feeds n taken t'' where
  frames := hfirst.frames.trans hsecond.frames
  evicted h := hsecond.evicted (hfirst.evicted h)
  hasSender h := hfirst.hasSender (hsecond.hasSender h)
  unsent hnone := (hsecond.unsent (hfirst.hasSender_eq_false hnone)).trans (hfirst.unsent hnone)

/-- The hub feeds a queue, and deliveries under way go nowhere else than they went. -/
theorem of_hub (hhub : t.hub.Feeds n t'.hub)
    (hcarries : ∀ d ∈ t'.underWay, d.Carries n → ∃ d ∈ t.underWay, d.Carries n) : t.Feeds n 0 t' where
  frames := hhub.grows.frames
  evicted := hhub.grows.evicted
  hasSender h := by
    rcases hasSender_iff.mp h with hlists | ⟨d, hd, hn⟩
    · exact hasSender_iff.mpr (.inl (hhub.lists hlists))
    · exact hasSender_iff.mpr (.inr (hcarries d hd hn))
  unsent hnone := by
    refine hhub.unlisted fun hlists => ?_
    rw [hasSender_iff.mpr (.inl hlists)] at hnone
    cases hnone

end Feeds

theorem feeds_onHub {f : Hub → Hub} (hf : t.hub.Feeds n (f t.hub)) : t.Feeds n 0 (t.onHub f) :=
  .of_hub hf fun d hd hn => ⟨d, hd, hn⟩

theorem feeds_conclude (t : Timeline) : t.Feeds n 0 t.conclude := by
  refine .of_hub (.foldl (fun h d => ?_) _ t.hub) fun d hd hn => ⟨d, ?_, hn⟩
  · cases d.location with
    | some location => exact h.feeds_prune location _
    | none => exact .refl n h
  · simp only [conclude, List.partition_eq_filter_filter] at hd
    exact List.mem_of_mem_filter hd

theorem feeds_expire (t : Timeline) : t.Feeds n 0 t.expire := by
  refine .of_hub (.refl n t.hub) fun d hd hn => ?_
  obtain ⟨before, hbefore, rfl⟩ := List.mem_map.mp hd
  refine ⟨before, hbefore, ?_⟩
  split at hn
  · exact (Delivery.carries_map fun leg => by split <;> rfl).mp hn
  · exact hn

/-- A delivery goes to connections that have a sender already. -/
theorem feeds_begin (location : Option LocationId) (frame : Frame) (timeout : Nat) {legs : List (Connection × Offer)}
    {hub : Hub} (hhub : t.hub.Feeds n hub) (hlegs : ∀ leg ∈ legs, leg.1.channel = n → t.hub.Lists n) :
    t.Feeds n 0 (t.begin location frame timeout legs hub).2 := by
  have hadded (d : Delivery) (hd : d.Carries n → t.hub.Lists n) (begun : Nat) :
      t.Feeds n 0 { t with hub, underWay := t.underWay ++ [d], begun } := by
    refine ⟨hhub.grows.frames, hhub.grows.evicted, fun h => ?_, fun hnone => hhub.unlisted fun hlists => ?_⟩
    · rcases hasSender_iff.mp h with hlists | ⟨other, hother, hn⟩
      · exact hasSender_iff.mpr (.inl (hhub.lists hlists))
      · rcases List.mem_append.mp hother with hold | hnew
        · exact hasSender_iff.mpr (.inr ⟨other, hold, hn⟩)
        · exact hasSender_iff.mpr (.inl (hd (List.mem_singleton.mp hnew ▸ hn)))
    · rw [hasSender_iff.mpr (.inl hlists)] at hnone
      cases hnone
  refine (hadded _ ?_ _).trans ((feeds_expire _).trans (feeds_conclude _))
  rintro ⟨leg, hleg, hchannel⟩
  obtain ⟨⟨c, offer⟩, hoffer, rfl⟩ := List.mem_map.mp hleg
  refine hlegs _ hoffer ?_
  cases offer <;> exact hchannel

theorem feeds_broadcast (t : Timeline) (location : LocationId) (text : String) (timeout : Nat) :
    t.Feeds n 0 (t.broadcast location text timeout).2 := by
  have hmembers (c : Connection) (hc : c ∈ t.hub.members location) : (location, c) ∈ t.hub.subscriptions :=
    Hub.mem_subscriptions_of_mem hc
  refine feeds_begin _ _ _ (Hub.feeds_offerEach hmembers _) fun leg hleg hn => ?_
  exact ⟨_, hmembers leg.1 (Hub.mem_of_mem_offerEach hleg), hn⟩

theorem feeds_beat (t : Timeline) : t.Feeds n 0 t.beat :=
  .of_hub (.foldl (fun h _ => h.feeds_pingAll) _ t.hub) fun d hd hn => ⟨d, hd, hn⟩

/-- Nothing but what has fallen due happens when time passes. -/
theorem feeds_advanceTo (t : Timeline) (time : Nat) : t.Feeds n 0 (t.advanceTo time) := by
  have hclock : t.Feeds n 0 { t with clock := time } := .of_hub (.refl n t.hub) fun d hd hn => ⟨d, hd, hn⟩
  exact ((hclock.trans (feeds_expire _)).trans (feeds_conclude _)).trans (feeds_beat _)

theorem feeds_startHeartbeat (t : Timeline) : t.Feeds n 0 t.startHeartbeat := by
  have hadded : t.Feeds n 0 { t with heartbeats := t.heartbeats ++ [t.clock] } :=
    .of_hub (.refl n t.hub) fun d hd hn => ⟨d, hd, hn⟩
  exact hadded.trans (feeds_beat _)

/-- A leg on a channel has got its frame, if there was one that waited. -/
theorem serveOne_cases (channel : Nat) (ds : List Delivery) (h : Hub) :
    serveOne channel ds h = (ds, h) ∨
      ∃ before d served after, ds = before ++ d :: after ∧ d.Carries channel ∧
        (∀ n, served.Carries n ↔ d.Carries n) ∧
        serveOne channel ds h = (before ++ served :: after, h.modifyChannel channel (·.offer d.frame)) := by
  induction ds with
  | nil => exact .inl rfl
  | cons d rest ih =>
    rw [serveOne]
    split
    case isTrue hwaits =>
      obtain ⟨-, hleg⟩ := Bool.and_eq_true_iff.mp hwaits
      obtain ⟨leg, hmem, hleg⟩ := List.any_eq_true.mp hleg
      obtain ⟨-, hchannel⟩ := Bool.and_eq_true_iff.mp hleg
      refine .inr ⟨[], d, _, rest, rfl, ⟨leg, hmem, beq_iff_eq.mp hchannel⟩, fun n => ?_, rfl⟩
      exact Delivery.carries_map fun leg => by split <;> rfl
    case isFalse =>
      rcases ih with hnone | ⟨before, served, d', after, rfl, hd, hserved, hrest⟩
      · exact .inl (by rw [hnone])
      · exact .inr ⟨d :: before, served, d', after, rfl, hd, hserved, by rw [hrest]; rfl⟩

theorem feeds_serveOne (t : Timeline) (channel : Nat) :
    t.Feeds n 0
      { t with underWay := (serveOne channel t.underWay t.hub).1, hub := (serveOne channel t.underWay t.hub).2 } := by
  rcases serveOne_cases channel t.underWay t.hub with hnone | ⟨before, d, served, after, hunderWay, hd, hserved, hone⟩
  · rw [hnone]
    exact .refl n t
  · have hgrows : (t.hub.channel n).Grows ((t.hub.modifyChannel channel (·.offer d.frame)).channel n) := by
      rw [Hub.channel_modifyChannel]
      split
      · next hn => exact hn ▸ .offer _ _
      · exact .refl _
    have hcarries (n : Nat) (hn : ∃ d ∈ before ++ served :: after, d.Carries n) : ∃ d ∈ t.underWay, d.Carries n := by
      rw [hunderWay]
      simp only [List.mem_append, List.mem_cons, or_and_right, exists_or, exists_eq_left, hserved] at hn ⊢
      exact hn
    rw [hone]
    refine ⟨hgrows.frames, hgrows.evicted, fun h => hasSender_iff.mpr ?_, fun hnone => ?_⟩
    · exact (hasSender_iff.mp h).imp_right (hcarries n)
    · have hne : n ≠ channel := by
        rintro rfl
        rw [hasSender_iff.mpr (.inr (hcarries n ⟨served, by simp, (hserved n).mpr hd⟩))] at hnone
        cases hnone
      show ((t.hub.modifyChannel channel (·.offer d.frame)).channel n).frames = _
      rw [Hub.channel_modifyChannel, if_neg hne]
      rfl

theorem feeds_serve (t : Timeline) (channel k : Nat) : t.Feeds n 0 (t.serve channel k) := by
  induction k generalizing t with
  | zero => exact .refl n t
  | succ k ih => exact (feeds_serveOne t channel).trans (ih _)

/-- What waited for the room that a receiver makes comes in behind what it left. -/
theorem feeds_takeFrames (t : Timeline) (k : Nat) : t.Feeds n k (t.takeFrames n k).2 := by
  have htaken : t.Feeds n k (t.onHub (·.modifyChannel n fun _ => ((t.hub.channel n).take k).2)) := by
    have hchannel : ((t.onHub (·.modifyChannel n fun _ => ((t.hub.channel n).take k).2)).hub.channel n) =
        ((t.hub.channel n).take k).2 :=
      (t.hub.channel_modifyChannel n n _).trans (if_pos rfl)
    refine ⟨?_, ?_, id, fun _ => congrArg Channel.frames hchannel⟩
    · rw [hchannel]
      exact List.prefix_rfl
    · rw [hchannel]
      exact id
  exact (htaken.trans (feeds_serve _ n _)).trans (feeds_conclude _)

/-- What another receiver takes is no affair of this queue, and what waited for its room goes there. -/
theorem feeds_takeFrames_of_ne {channel : Nat} (hne : channel ≠ n) (t : Timeline) (k : Nat) :
    t.Feeds n 0 (t.takeFrames channel k).2 :=
  ((feeds_onHub (Hub.feeds_modifyChannel_of_ne hne _)).trans (feeds_serve _ channel _)).trans (feeds_conclude _)

theorem feeds_hangUp_of_ne {channel : Nat} (hne : channel ≠ n) (t : Timeline) : t.Feeds n 0 (t.hangUp channel) := by
  refine Feeds.trans (.of_hub (Hub.feeds_modifyChannel_of_ne hne _) fun d hd hn => ?_) (feeds_conclude _)
  obtain ⟨before, hbefore, rfl⟩ := List.mem_map.mp hd
  exact ⟨before, hbefore, (Delivery.carries_map fun leg => by split <;> rfl).mp hn⟩

/-- What can happen while a receiver does nothing: all that the program does, and what other receivers do. -/
inductive Happens (n : Nat) (t : Timeline) : Timeline → Prop where
  | connected (id : String) (capacity : Nat) (hopened : n < t.hub.opened) :
    Happens n t (t.onHub fun h => (h.connect id capacity).2)
  | subscribed {c : Connection} (hc : c.channel ≠ n) (location : LocationId) :
    Happens n t (t.onHub (·.subscribe c location))
  | unsubscribed (id : String) (location : LocationId) : Happens n t (t.onHub (·.unsubscribe id location))
  | broadcast (location : LocationId) (text : String) (timeout : Nat) :
    Happens n t (t.broadcast location text timeout).2
  | pruned (location : LocationId) (dead : List Connection) : Happens n t (t.onHub (·.prune location dead))
  | shutDown : Happens n t (t.onHub Hub.shutdownAll)
  | started : Happens n t t.startHeartbeat
  | advanced (time : Nat) : Happens n t (t.advanceTo time)
  | received {channel : Nat} (hne : channel ≠ n) (k : Nat) : Happens n t (t.takeFrames channel k).2
  | hungUp {channel : Nat} (hne : channel ≠ n) : Happens n t (t.hangUp channel)

/-- Whatever happens, a queue is only added to, by those who could send. -/
theorem Happens.feeds (h : Happens n t t') : t.Feeds n 0 t' := by
  cases h with
  | connected id capacity hopened => exact feeds_onHub (Hub.feeds_connect hopened id capacity)
  | subscribed hc location => exact feeds_onHub (Hub.feeds_subscribe_of_ne hc _ location)
  | unsubscribed id location => exact feeds_onHub (Hub.feeds_unsubscribe _ id location)
  | broadcast location text timeout => exact feeds_broadcast t location text timeout
  | pruned location dead => exact feeds_onHub (Hub.feeds_prune _ location dead)
  | shutDown => exact feeds_onHub (Hub.feeds_shutdownAll _)
  | started => exact feeds_startHeartbeat t
  | advanced time => exact feeds_advanceTo t time
  | received hne k => exact feeds_takeFrames_of_ne hne t k
  | hungUp hne => exact feeds_hangUp_of_ne hne t

end Timeline

end Waterway
