import Waterway.Proofs.Fanout.Eviction

/-!
# What happens to others

A connection that is left alone keeps its texts and its place, unless it is evicted, whatever happens to the other
connections.

## Main definitions

- `Audience.Event.Leaves` — nothing happens that is up to the holder of a connection
- `Hub.Holds`, `Hub.Spares` — a connection keeps its place unless it is evicted, and its texts

## Main statements

- `Audience.Sound.spares` — what leaves a connection alone spares it
-/

namespace Waterway

/-- Whether nothing happens that is up to the holder of a connection, or that is done in its name. Broadcasts are left
out, since they are no affair of others. -/
def Audience.Event.Leaves (c : Connection) : Audience.Event → Prop
  | .subscribe other _ => other.id ≠ c.id
  | .unsubscribe id _ => id ≠ c.id
  | .take other _ | .hangUp other => other.channel ≠ c.channel
  | .broadcast .. => False
  | _ => True

instance (c : Connection) (e : Audience.Event) : Decidable (e.Leaves c) := by
  cases e <;> unfold Audience.Event.Leaves <;> infer_instance

namespace Hub

variable {h h' h'' : Hub} {c : Connection}

/-- A connection keeps its place, unless it is evicted. -/
structure Holds (c : Connection) (h h' : Hub) : Prop where
  receiving : (h'.channelOf c).receiving = (h.channelOf c).receiving
  evicted : (h.channelOf c).evicted → (h'.channelOf c).evicted
  members : ∀ location, c ∈ h'.members location → c ∈ h.members location
  stays : ∀ location, (h.channelOf c).receiving → c ∈ h.members location →
    c ∈ h'.members location ∨ (h'.channelOf c).evicted

namespace Holds

theorem of_eq (hchannel : h'.channelOf c = h.channelOf c)
    (hmembers : ∀ location, c ∈ h'.members location ↔ c ∈ h.members location) : h.Holds c h' where
  receiving := by rw [hchannel]
  evicted hevicted := by rwa [hchannel]
  members location := (hmembers location).mp
  stays location _ hc := .inl ((hmembers location).mpr hc)

theorem trans (hfirst : h.Holds c h') (hsecond : h'.Holds c h'') : h.Holds c h'' where
  receiving := hsecond.receiving.trans hfirst.receiving
  evicted hevicted := hsecond.evicted (hfirst.evicted hevicted)
  members location hc := hfirst.members location (hsecond.members location hc)
  stays location hreceiving hc := by
    rcases hfirst.stays location hreceiving hc with hstays | hevicted
    · exact hsecond.stays location (hfirst.receiving.trans hreceiving) hstays
    · exact .inr (hsecond.evicted hevicted)

theorem modifyChannel {f : Channel → Channel} (hreceiving : ∀ ch : Channel, (f ch).receiving = ch.receiving)
    (hevicted : ∀ ch : Channel, ch.evicted → (f ch).evicted) (h : Hub) (n : Nat) :
    h.Holds c (h.modifyChannel n f) where
  receiving := by
    rw [channelOf, channelOf, channel_modifyChannel]
    split
    · next hn => exact hn ▸ hreceiving _
    · rfl
  evicted h := by
    rw [channelOf, channel_modifyChannel]
    split
    · next hn => exact hevicted _ (hn ▸ h)
    · exact h
  members _ := id
  stays _ _ := .inl

end Holds

/-- A connection keeps its texts, and its place unless it is evicted. -/
structure Spares (c : Connection) (h h' : Hub) : Prop extends Holds c h h' where
  texts : Frame.texts (h'.channelOf c).frames = Frame.texts (h.channelOf c).frames

namespace Spares

theorem of_eq (hchannel : h'.channelOf c = h.channelOf c)
    (hmembers : ∀ location, c ∈ h'.members location ↔ c ∈ h.members location) : h.Spares c h' :=
  ⟨.of_eq hchannel hmembers, by rw [hchannel]⟩

theorem refl (c : Connection) (h : Hub) : h.Spares c h :=
  .of_eq rfl fun _ => .rfl

theorem trans (hfirst : h.Spares c h') (hsecond : h'.Spares c h'') : h.Spares c h'' :=
  ⟨hfirst.toHolds.trans hsecond.toHolds, hsecond.texts.trans hfirst.texts⟩

theorem foldl {α : Type} {act : Hub → α → Hub} (hact : ∀ (h : Hub) a, h.Spares c (act h a)) (xs : List α) (h : Hub) :
    h.Spares c (xs.foldl act h) :=
  List.foldlRecOn xs act (.refl c h) fun h' hspares a _ => hspares.trans (hact h' a)

theorem modifyChannel {f : Channel → Channel} (hchannel : ∀ ch : Channel, ch.Undisturbed (f ch))
    (hevicted : ∀ ch : Channel, ch.evicted → (f ch).evicted) (h : Hub) (n : Nat) :
    h.Spares c (h.modifyChannel n f) := by
  refine ⟨.modifyChannel (fun ch => (hchannel ch).receiving) hevicted h n, ?_⟩
  rw [channelOf, channelOf, channel_modifyChannel]
  split
  · next hn => exact hn ▸ (hchannel _).texts
  · rfl

theorem modifyChannel_of_ne {n : Nat} (hn : n ≠ c.channel) (f : Channel → Channel) :
    h.Spares c (h.modifyChannel n f) := by
  refine .of_eq ?_ fun _ => .rfl
  rw [channelOf, channel_modifyChannel, if_neg (Ne.symm hn)]
  rfl

theorem setMembers {location : LocationId} {ms : List Connection} (hms : c ∈ ms ↔ c ∈ h.members location) :
    h.Spares c (h.setMembers location ms) := by
  refine .of_eq rfl fun other => ?_
  rw [members_setMembers]
  split
  · next hother => rw [hother, hms]
  · exact .rfl

end Spares

theorem spares_offer {f : Frame} (hf : Frame.texts [f] = []) (h : Hub) (n : Nat) :
    h.Spares c (h.modifyChannel n (·.offer f)) :=
  .modifyChannel (fun ch => .offer ch hf) (fun ch hevicted => by rwa [Channel.evicted_offer]) h n

theorem spares_evict (h : Hub) (n : Nat) : h.Spares c (h.modifyChannel n .evict) :=
  .modifyChannel Channel.Undisturbed.evict (fun _ _ => rfl) h n

/-- Who is pruned is evicted, and the others stay. -/
theorem spares_pruneOne (h : Hub) (location : LocationId) (dead : Connection) :
    h.Spares c (h.pruneOne location dead) := by
  rw [pruneOne]
  split
  · by_cases hdead : c = dead
    · subst hdead
      have hevicted : (((h.setMembers location ((h.members location).filter (· != c))).modifyChannel c.channel
          .evict).channelOf c) = (h.channelOf c).evict := by
        rw [channelOf, channel_modifyChannel, if_pos rfl]
        rfl
      have hundisturbed := Channel.Undisturbed.evict (h.channelOf c)
      refine ⟨⟨?_, ?_, ?_, ?_⟩, ?_⟩
      · rw [hevicted, hundisturbed.receiving]
      · intro _
        rw [hevicted]
        rfl
      · intro other hc
        exact (Lessened.setMembers (List.filter_subset_self _)).members other hc
      · intro _ _ _
        rw [hevicted]
        exact .inr rfl
      · rw [hevicted, hundisturbed.texts]
    · refine Spares.trans (.setMembers ?_) (spares_evict _ _)
      simp [hdead]
  · exact .refl c h

theorem spares_prune (h : Hub) (location : LocationId) (dead : List Connection) :
    h.Spares c (h.prune location dead) :=
  .foldl (fun h d => h.spares_pruneOne location d) dead h

theorem spares_pingAll (h : Hub) : h.Spares c h.pingAll := by
  rw [pingAll_eq]
  have hpinged := Spares.foldl (c := c) (fun h (target : LocationId × Connection) =>
    spares_offer (f := .ping) rfl h target.2.channel) h.subscriptions h
  exact hpinged.trans (.foldl (fun h (target : LocationId × Connection) => h.spares_prune target.1 [target.2]) _ _)

theorem evicted_modifyEach {targets : List (LocationId × Connection)} {target : LocationId × Connection}
    (hmem : target ∈ targets) : ((targets.foldl (fun h target => h.modifyChannel target.2.channel .evict) h).channelOf
      target.2).evicted := by
  induction targets using List.reverseRecOn with
  | nil => exact absurd hmem List.not_mem_nil
  | append_singleton targets last ih =>
    rw [List.foldl_concat]
    rcases List.mem_append.mp hmem with hearlier | hlast
    · exact (spares_evict _ _).evicted (ih hearlier)
    · rw [List.mem_singleton.mp hlast, channelOf, channel_modifyChannel, if_pos rfl]
      rfl

theorem Tidy.spares_shutdownAll (ht : h.Tidy) : h.Spares c h.shutdownAll := by
  have hclosed : h.Spares c (h.subscriptions.foldl (fun h target => h.modifyChannel target.2.channel .evict) h) :=
    .foldl (fun h (target : LocationId × Connection) => spares_evict h target.2.channel) _ h
  have hevicted (location : LocationId) (hc : c ∈ h.members location) : (h.shutdownAll.channelOf c).evicted :=
    evicted_modifyEach (ht.mem_subscriptions.mpr hc)
  exact ⟨⟨hclosed.receiving, hclosed.evicted, fun _ hc => absurd hc List.not_mem_nil,
    fun location _ hc => .inr (hevicted location hc)⟩, hclosed.texts⟩

end Hub

namespace Audience

variable {a : Audience} {c : Connection}

theorem spares_touch {other : Connection} {f : Timeline → Timeline} (hf : a.hub.Spares c (f a.timeline).hub) :
    a.hub.Spares c (a.touch other f).hub := by
  rw [hub_touch]
  split
  · exact hf
  · exact .refl c a.hub

/-- What leaves a connection alone spares it. -/
theorem Sound.spares (hs : a.Sound) (hc : c ∈ a.opened) {e : Event} (he : e.Leaves c) :
    a.hub.Spares c (a.step e).hub := by
  cases e with
  | connect id capacity =>
    have hlt := hs.channel_lt hc
    have hne : a.hub.opened ≠ c.channel := by omega
    have hother := Hub.Spares.modifyChannel_of_ne (h := a.hub) hne fun _ => .create capacity
    exact ⟨⟨hother.receiving, hother.evicted, hother.members, hother.stays⟩, hother.texts⟩
  | subscribe other location =>
    refine spares_touch (f := fun t => t.onHub (·.subscribe other location)) (Hub.Spares.setMembers (h := a.hub) ?_)
    have hid : c.id ≠ other.id := Ne.symm he
    have hne : c ≠ other := fun heq => hid (congrArg Connection.id heq)
    simp [hid, hne, hub]
  | unsubscribe id location =>
    refine Hub.Spares.setMembers (h := a.hub) ?_
    have hid : c.id ≠ id := Ne.symm he
    simp [hid, hub]
  | broadcast => exact he.elim
  | pingAll => exact a.hub.spares_pingAll
  | shutdownAll => exact hs.tidy.spares_shutdownAll
  | prune location dead => exact a.hub.spares_prune location dead
  | take other n =>
    rw [hs.hub_take]
    split
    · exact .modifyChannel_of_ne he _
    · exact .refl c a.hub
  | hangUp other =>
    rw [hs.hub_hangUp]
    split
    · exact .modifyChannel_of_ne he _
    · exact .refl c a.hub
  | cancel other =>
    have hcancelled := Hub.Spares.modifyChannel (c := c) (f := fun ch => { ch with evicted := true })
      (fun _ => ⟨rfl, rfl⟩) (fun _ _ => rfl) a.hub other.channel
    exact spares_touch (f := fun t => t.onHub (·.modifyChannel other.channel fun ch => { ch with evicted := true }))
      hcancelled

end Audience

end Waterway
