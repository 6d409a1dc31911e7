import Waterway.Proofs.Fanout.Members

/-!
# What reaches a channel

A broadcast reaches the channels of the members that accept it and no other; the members that do not are
evicted. All else that the hub puts into a channel is a ping or a request to close.

## Main definitions

- `Channel.accepts` — somebody receives, has not been evicted, and there is room
- `Channel.Undisturbed` — a channel has neither got nor lost a text
- `Hub.Lessened` — some members have gone, and no channel has got or lost a text

## Main statements

- `Hub.channel_prune` — who is pruned is evicted, and nobody else
- `Hub.members_broadcast`, `Hub.channel_broadcast`, `Hub.report_broadcast` — the outcome of a broadcast
- `Hub.lessened_prune`, `Hub.Tidy.lessened_pingAll`, `Hub.Tidy.lessened_shutdownAll` — pings and requests to
  close are no texts
-/

namespace Waterway

/-- The texts among some frames. -/
def Frame.texts (frames : List Frame) : List String :=
  frames.filterMap fun
    | .text s => some s
    | _ => none

@[simp]
theorem Frame.texts_append (frames more : List Frame) : texts (frames ++ more) = texts frames ++ texts more :=
  List.filterMap_append

namespace Channel

/-- Somebody receives, has not been evicted, and there is room. -/
def accepts (c : Channel) : Bool :=
  c.isOpen && c.hasRoom

theorem offer_of_accepts {c : Channel} (h : c.accepts) (f : Frame) :
    c.offer f = { c with frames := c.frames ++ [f] } := by
  simp only [accepts, isOpen, Bool.and_eq_true] at h
  obtain ⟨⟨hreceiving, -⟩, hroom⟩ := h
  simp [offer, offerOutcome, hreceiving, hroom]

/-- A frame that is offered comes last, or is lost. -/
theorem frames_offer (c : Channel) (f : Frame) :
    (c.offer f).frames = c.frames ∨ (c.offer f).frames = c.frames ++ [f] := by
  rw [offer]
  split
  · exact .inr rfl
  · exact .inl rfl

@[simp]
theorem receiving_offer (c : Channel) (f : Frame) : (c.offer f).receiving = c.receiving := by
  rw [offer]
  split <;> rfl

/-- A channel has neither got nor lost a text. -/
structure Undisturbed (c c' : Channel) : Prop where
  receiving : c'.receiving = c.receiving
  texts : Frame.texts c'.frames = Frame.texts c.frames

namespace Undisturbed

theorem refl (c : Channel) : c.Undisturbed c :=
  ⟨rfl, rfl⟩

theorem trans {c c' c'' : Channel} (h : c.Undisturbed c') (h' : c'.Undisturbed c'') : c.Undisturbed c'' :=
  ⟨h'.receiving.trans h.receiving, h'.texts.trans h.texts⟩

theorem offer (c : Channel) {f : Frame} (hf : Frame.texts [f] = []) : c.Undisturbed (c.offer f) := by
  constructor
  · exact c.receiving_offer f
  · rcases c.frames_offer f with hsame | hadded
    · rw [hsame]
    · rw [hadded, Frame.texts_append, hf, List.append_nil]

theorem evict (c : Channel) : c.Undisturbed c.evict :=
  ⟨(offer c rfl).receiving, (offer c rfl).texts⟩

end Undisturbed

end Channel

namespace Hub

variable {h h' : Hub} {location : LocationId}

theorem channel_setMembers (h : Hub) (location : LocationId) (ms : List Connection) (n : Nat) :
    (h.setMembers location ms).channel n = h.channel n :=
  rfl

theorem channel_pruneOne (h : Hub) (location : LocationId) (dead : Connection) (n : Nat) :
    (h.pruneOne location dead).channel n =
      if dead ∈ h.members location ∧ dead.channel = n then (h.channel n).evict else h.channel n := by
  by_cases hdead : dead ∈ h.members location
  · rw [pruneOne, if_pos hdead, channel_modifyChannel]
    by_cases hn : n = dead.channel
    · subst hn
      simp [hdead, channel_setMembers]
    · simp [hn, Ne.symm hn, channel_setMembers]
  · simp [pruneOne, hdead]

/-- Who is pruned is evicted, and nobody else. -/
theorem channel_prune (hnodup : ((h.members location).map Connection.channel).Nodup)
    (dead : List Connection) (n : Nat) :
    (h.prune location dead).channel n =
      if ∃ c ∈ h.members location, c ∈ dead ∧ c.channel = n then (h.channel n).evict else h.channel n := by
  induction dead generalizing h with
  | nil => simp [prune]
  | cons d dead ih =>
    have hleft : (h.pruneOne location d).members location = (h.members location).filter (· != d) := by
      rw [members_pruneOne, if_pos rfl]
    have hnodup' : (((h.pruneOne location d).members location).map Connection.channel).Nodup := by
      rw [hleft]
      exact (List.filter_sublist.map _).nodup hnodup
    change ((h.pruneOne location d).prune location dead).channel n = _
    rw [ih hnodup', hleft, channel_pruneOne]
    by_cases hd : d ∈ h.members location ∧ d.channel = n
    · -- the channel of the first is not evicted once more, as nobody else has it
      have hgone : ¬∃ c ∈ (h.members location).filter (· != d), c ∈ dead ∧ c.channel = n := by
        rintro ⟨c, hc, -, hn⟩
        obtain ⟨hmem, hne⟩ := List.mem_filter.mp hc
        rw [List.inj_on_of_nodup_map hnodup hmem hd.1 (hn.trans hd.2.symm)] at hne
        simp at hne
      rw [if_neg hgone, if_pos hd, if_pos ⟨d, hd.1, List.mem_cons_self, hd.2⟩]
    · have hrest : (∃ c ∈ (h.members location).filter (· != d), c ∈ dead ∧ c.channel = n) ↔
          ∃ c ∈ h.members location, c ∈ d :: dead ∧ c.channel = n := by
        constructor
        · rintro ⟨c, hc, hdead, hn⟩
          exact ⟨c, List.mem_of_mem_filter hc, List.mem_cons_of_mem _ hdead, hn⟩
        · rintro ⟨c, hc, hdead, hn⟩
          have hne : c ≠ d := by
            rintro rfl
            exact hd ⟨hc, hn⟩
          have hstays : c ∈ (h.members location).filter (· != d) :=
            List.mem_filter.mpr ⟨hc, by simpa using hne⟩
          exact ⟨c, hstays, (List.mem_cons.mp hdead).resolve_left hne, hn⟩
      rw [if_neg hd, if_congr hrest rfl rfl]

theorem offerOutcome_eq_queued_iff (h : Hub) (c : Connection) :
    h.offerOutcome c = .queued ↔ (h.channelOf c).accepts := by
  rw [offerOutcome]
  generalize h.channelOf c = ch
  obtain ⟨capacity, frames, receiving, evicted⟩ := ch
  simp only [Channel.accepts, Channel.offerOutcome, Channel.isOpen]
  by_cases hroom : Channel.hasRoom ⟨capacity, frames, receiving, evicted⟩ <;>
    cases receiving <;> cases evicted <;> simp [hroom]

theorem offerOutcome_congr {c : Connection} (hsame : h'.channelOf c = h.channelOf c) :
    h'.offerOutcome c = h.offerOutcome c := by
  rw [offerOutcome, offerOutcome, hsame]

theorem isSome_failureOf (h : Hub) (c : Connection) :
    (failureOf (h.offerOutcome c)).isSome = !(h.channelOf c).accepts := by
  rw [Bool.eq_iff_iff, Bool.not_eq_true', ← Bool.not_eq_true, ← offerOutcome_eq_queued_iff]
  cases h.offerOutcome c <;> simp [failureOf]

theorem channel_offerTo (h : Hub) (f : Frame) (c : Connection) (n : Nat) :
    (h.offerTo f c).channel n =
      if c.channel = n ∧ (h.channel n).accepts then
        { h.channel n with frames := (h.channel n).frames ++ [f] }
      else h.channel n := by
  by_cases haccepts : (h.channelOf c).accepts
  · rw [offerTo, if_pos ((offerOutcome_eq_queued_iff h c).mpr haccepts), channel_modifyChannel]
    by_cases hn : n = c.channel
    · subst hn
      rw [channelOf] at haccepts
      rw [if_pos rfl, Channel.offer_of_accepts haccepts, if_pos ⟨rfl, haccepts⟩]
    · rw [if_neg hn, if_neg fun h => hn h.1.symm]
  · rw [offerTo, if_neg (mt (offerOutcome_eq_queued_iff h c).mp haccepts), if_neg]
    rintro ⟨rfl, hcontra⟩
    exact haccepts hcontra

/-- Connections with channels of their own have no influence on one another. -/
theorem outcomes_offerEach (f : Frame) {cs : List Connection} (hnodup : (cs.map Connection.channel).Nodup)
    (h : Hub) : (offerEach f cs h).1 = cs.map fun c => (c, h.offerOutcome c) := by
  induction cs generalizing h with
  | nil => rfl
  | cons c cs ih =>
    obtain ⟨hc, hcs⟩ := List.nodup_cons.mp hnodup
    rw [offerEach_cons, List.map_cons, ih hcs]
    refine congrArg _ (List.map_congr_left ?_)
    intro other hother
    have hne : c.channel ≠ other.channel := fun heq => hc (heq ▸ List.mem_map_of_mem hother)
    have hsame : (h.offerTo f c).channelOf other = h.channelOf other := by
      rw [channelOf, channel_offerTo, if_neg fun h => hne h.1]
      rfl
    rw [offerOutcome_congr hsame]

theorem channel_offerEach (f : Frame) {cs : List Connection} (hnodup : (cs.map Connection.channel).Nodup)
    (h : Hub) (n : Nat) :
    (offerEach f cs h).2.channel n =
      if ∃ c ∈ cs, c.channel = n ∧ (h.channel n).accepts then
        { h.channel n with frames := (h.channel n).frames ++ [f] }
      else h.channel n := by
  induction cs generalizing h with
  | nil => simp [offerEach]
  | cons c cs ih =>
    obtain ⟨hc, hcs⟩ := List.nodup_cons.mp hnodup
    rw [offerEach_cons, ih hcs, channel_offerTo]
    by_cases hn : c.channel = n
    · -- the frame gets into the channel now or not at all
      have hothers : ∀ P : Prop, ¬∃ other ∈ cs, other.channel = n ∧ P := by
        rintro P ⟨other, hother, heq, -⟩
        exact hc ((hn.trans heq.symm) ▸ List.mem_map_of_mem hother)
      rw [if_neg (hothers _)]
      simp [hn, hothers]
    · simp [hn]

theorem opened_offerEach (f : Frame) (cs : List Connection) (h : Hub) :
    (offerEach f cs h).2.opened = h.opened := by
  induction cs generalizing h with
  | nil => rfl
  | cons c cs ih =>
    rw [offerEach_cons, ih, offerTo]
    split <;> rfl

section Broadcast

variable (hnodup : ((h.members location).map Connection.channel).Nodup)
include hnodup

/-- Those are pruned who do not accept the text. -/
theorem broadcast_eq (text : String) :
    let offered := (offerEach (.text text) (h.members location) h).2
    let dead := (h.members location).filter fun c => !(h.channelOf c).accepts
    h.broadcast location text =
      (⟨(h.members location).length - dead.length, dead.length⟩, offered.prune location dead) := by
  intro offered dead
  simp only [broadcast, finish, outcomes_offerEach _ hnodup, List.map_map, List.filter_map, List.length_map,
    Function.comp_def, isSome_failureOf, List.map_id']
  rfl

/-- Who accepts a text stays a member, and nobody else at the location. -/
theorem members_broadcast (text : String) (other : LocationId) :
    (h.broadcast location text).2.members other =
      if other = location then (h.members location).filter fun c => (h.channelOf c).accepts
      else h.members other := by
  rw [broadcast_eq hnodup, members_prune]
  simp only [members_congr (rooms_offerEach _ _ h)]
  split
  · apply List.filter_congr
    intro c hc
    by_cases haccepts : (h.channelOf c).accepts <;> simp [hc, haccepts]
  · rfl

/-- Who accepts a text gets it as the last frame, and the other members are evicted. -/
theorem channel_broadcast (text : String) (n : Nat) :
    (h.broadcast location text).2.channel n =
      if ∃ c ∈ h.members location, c.channel = n then
        if (h.channel n).accepts then { h.channel n with frames := (h.channel n).frames ++ [.text text] }
        else (h.channel n).evict
      else h.channel n := by
  have hmembers := members_congr (rooms_offerEach (.text text) (h.members location) h) location
  rw [broadcast_eq hnodup, channel_prune (by rwa [hmembers]), channel_offerEach _ hnodup, hmembers]
  by_cases hmember : ∃ c ∈ h.members location, c.channel = n
  · have hpos := hmember
    obtain ⟨c, hc, rfl⟩ := hmember
    by_cases haccepts : (h.channel c.channel).accepts
    · have hdead : ¬∃ d ∈ h.members location,
          d ∈ (h.members location).filter (fun d => !(h.channelOf d).accepts) ∧ d.channel = c.channel := by
        rintro ⟨d, -, hdead, heq⟩
        have hrefuses := (List.mem_filter.mp hdead).2
        rw [channelOf, heq, haccepts] at hrefuses
        cases hrefuses
      rw [if_neg hdead, if_pos ⟨c, hc, rfl, haccepts⟩, if_pos hpos, if_pos haccepts]
    · have hdead : ∃ d ∈ h.members location,
          d ∈ (h.members location).filter (fun d => !(h.channelOf d).accepts) ∧ d.channel = c.channel :=
        ⟨c, hc, List.mem_filter.mpr ⟨hc, by simpa [channelOf] using haccepts⟩, rfl⟩
      rw [if_pos hdead, if_pos hpos, if_neg haccepts, if_neg]
      rintro ⟨_, -, -, hcontra⟩
      exact haccepts hcontra
  · have hundead : ¬∃ d ∈ h.members location,
        d ∈ (h.members location).filter (fun d => !(h.channelOf d).accepts) ∧ d.channel = n := by
      rintro ⟨d, hd, -, hn⟩
      exact hmember ⟨d, hd, hn⟩
    rw [if_neg hundead, if_neg hmember, if_neg]
    rintro ⟨c, hc, hn, -⟩
    exact hmember ⟨c, hc, hn⟩

/-- All members are counted, on one side or the other. -/
theorem report_broadcast (text : String) :
    (h.broadcast location text).1.delivered + (h.broadcast location text).1.pruned =
        h.subscriberCount location ∧
      (h.broadcast location text).1.delivered = (h.broadcast location text).2.subscriberCount location := by
  have hsplit := List.length_eq_length_filter_add (l := h.members location) fun c => (h.channelOf c).accepts
  rw [subscriberCount, subscriberCount, members_broadcast hnodup, if_pos rfl, broadcast_eq hnodup]
  simp only
  omega

end Broadcast

/-- Some members have gone, and no channel has got or lost a text. -/
structure Lessened (h h' : Hub) : Prop where
  opened : h'.opened = h.opened
  members : ∀ location, h'.members location ⊆ h.members location
  channels : ∀ n, (h.channel n).Undisturbed (h'.channel n)
  /-- Only the channels of members have been touched. -/
  others : ∀ n, (∀ location, ∀ c ∈ h.members location, c.channel ≠ n) → h'.channel n = h.channel n

namespace Lessened

theorem refl (h : Hub) : h.Lessened h :=
  ⟨rfl, fun _ => List.Subset.refl _, fun _ => .refl _, fun _ _ => rfl⟩

theorem trans {h'' : Hub} (hfirst : h.Lessened h') (hsecond : h'.Lessened h'') : h.Lessened h'' where
  opened := hsecond.opened.trans hfirst.opened
  members location := List.Subset.trans (hsecond.members location) (hfirst.members location)
  channels n := (hfirst.channels n).trans (hsecond.channels n)
  others n hn := by
    have hleft : ∀ location, ∀ c ∈ h'.members location, c.channel ≠ n :=
      fun location c hc => hn location c (hfirst.members location hc)
    rw [hsecond.others n hleft, hfirst.others n hn]

theorem foldl {α : Type} {act : Hub → α → Hub} {xs : List α}
    (hact : ∀ a ∈ xs, ∀ h'', h.Lessened h'' → h''.Lessened (act h'' a)) :
    h.Lessened (xs.foldl act h) :=
  List.foldlRecOn xs act (.refl h) fun h'' hlessened a ha => hlessened.trans (hact a ha h'' hlessened)

theorem setMembers {ms : List Connection} (hms : ms ⊆ h.members location) :
    h.Lessened (h.setMembers location ms) where
  opened := rfl
  members other := by
    rw [members_setMembers]
    split
    · next hother => exact hother ▸ hms
    · exact List.Subset.refl _
  channels _ := .refl _
  others _ _ := rfl

theorem modifyChannel {c : Connection} (hc : c ∈ h.members location) {f : Channel → Channel}
    (hf : ∀ ch : Channel, ch.Undisturbed (f ch)) : h.Lessened (h.modifyChannel c.channel f) where
  opened := rfl
  members _ := List.Subset.refl _
  channels n := by
    rw [channel_modifyChannel]
    split
    · next hn => exact hn ▸ hf _
    · exact .refl _
  others n hn := by
    rw [channel_modifyChannel, if_neg (Ne.symm (hn location c hc))]

/-- The channels of some members change. -/
theorem modifyEach {targets : List (LocationId × Connection)}
    (htargets : ∀ target ∈ targets, ∃ location, target.2 ∈ h.members location) {f : Channel → Channel}
    (hf : ∀ ch : Channel, ch.Undisturbed (f ch)) :
    h.Lessened (targets.foldl (fun h target => h.modifyChannel target.2.channel f) h) := by
  induction targets generalizing h with
  | nil => exact refl h
  | cons target targets ih =>
    obtain ⟨location, hmem⟩ := htargets target List.mem_cons_self
    refine (modifyChannel hmem hf).trans (ih ?_)
    intro other hother
    exact htargets other (List.mem_cons_of_mem _ hother)

end Lessened

theorem lessened_unsubscribe (h : Hub) (id : String) (location : LocationId) :
    h.Lessened (h.unsubscribe id location) :=
  .setMembers (List.filter_subset_self _)

theorem lessened_pruneOne (h : Hub) (location : LocationId) (dead : Connection) :
    h.Lessened (h.pruneOne location dead) := by
  by_cases hdead : dead ∈ h.members location
  · -- the channel goes before the member does
    have hcommute : h.pruneOne location dead = (h.modifyChannel dead.channel .evict).setMembers location
        ((h.members location).filter (· != dead)) := by
      rw [pruneOne, if_pos hdead]
      rfl
    rw [hcommute]
    exact (Lessened.modifyChannel hdead Channel.Undisturbed.evict).trans
      (.setMembers (List.filter_subset_self _))
  · rw [pruneOne, if_neg hdead]
    exact .refl h

theorem lessened_prune (h : Hub) (location : LocationId) (dead : List Connection) :
    h.Lessened (h.prune location dead) :=
  .foldl fun d _ h'' _ => h''.lessened_pruneOne location d

theorem Tidy.mem_members (ht : h.Tidy) {subscription : LocationId × Connection}
    (hmem : subscription ∈ h.subscriptions) : subscription.2 ∈ h.members subscription.1 := by
  obtain ⟨⟨location, ms⟩, hroom, hmap⟩ := List.mem_flatMap.mp hmem
  obtain ⟨c, hc, rfl⟩ := List.mem_map.mp hmap
  exact ht.members_of_mem hroom ▸ hc

theorem pingMembers_eq_foldl (cs : List Connection) (h : Hub) :
    pingMembers cs h = cs.foldl (fun h c => h.modifyChannel c.channel (·.offer .ping)) h := by
  induction cs generalizing h with
  | nil => rfl
  | cons c cs ih => exact ih _

/-- Pings are no texts, and who is pruned afterwards has hung up. -/
theorem Tidy.lessened_pingAll (ht : h.Tidy) : h.Lessened h.pingAll := by
  have hpinged : h.Lessened (pingMembers (h.subscriptions.map (·.2)) h) := by
    rw [pingMembers_eq_foldl, List.foldl_map]
    exact .modifyEach (fun _ hmem => ⟨_, ht.mem_members hmem⟩) fun ch => .offer ch rfl
  exact hpinged.trans (.foldl fun gone _ h'' _ => h''.lessened_prune gone.1 [gone.2])

theorem Tidy.lessened_shutdownAll (ht : h.Tidy) : h.Lessened h.shutdownAll := by
  have hclosed := Lessened.modifyEach (h := h) (fun _ hmem => ⟨_, ht.mem_members hmem⟩)
    Channel.Undisturbed.evict
  exact ⟨hclosed.opened, fun _ => List.nil_subset _, hclosed.channels, hclosed.others⟩

end Hub

end Waterway
