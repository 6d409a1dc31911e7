import Waterway.Proofs.Fanout.Eviction
import Waterway.Proofs.Relay.Board

/-!
# The order of announcements in the queues

When an announcement is over, all its connections that are still subscribed have its text. So whoever gets an
announcement that begins later at the same location has got the earlier one before.

## Main definitions

- `Board.Carried` — what went into a queue has been received or waits
- `Board.Sound` — what holds after all courses of events
- `Board.Leads` — whoever both announcements are for gets them in this order, or not the second

## Main statements

- `Board.Sound.fanout_step` — a step of the board is a step of the broadcasts under way, or none
- `Board.Sound.step` — whatever happens, the record is right
- `Board.Sound.leads_begin` — an announcement that is over leads all that begin later at its location
- `Board.Leads.step`, `Board.Leads.not_mem_postedTo` — so it stays, and whom it missed the later ones miss

## Design notes

A broadcast ends by removing the connections that failed. One of them could be subscribed again, and would then get
later announcements without the earlier one; hence the condition that nobody is subscribed a second time.
-/

namespace Waterway

namespace Board

variable {b b' : Board} {e : Event} {j k : Nat} {c : Connection} {a : Announcement} {location : LocationId}

/-- What went into the queue of a connection has been received or waits, until the receiver goes away. -/
structure Carried (b : Board) (c : Connection) : Prop where
  receiving : (b.hub.channelOf c).receiving →
    Frame.texts (b.heardBy c) ++ Frame.texts (b.hub.channelOf c).frames = b.textsTo c
  gone : (b.hub.channelOf c).receiving = false →
    Frame.texts (b.hub.channelOf c).frames = [] ∧ Frame.texts (b.heardBy c) <+: b.textsTo c

theorem Carried.heard_prefix (h : b.Carried c) : Frame.texts (b.heardBy c) <+: b.textsTo c := by
  cases hreceiving : (b.hub.channelOf c).receiving with
  | true => exact ⟨_, h.receiving hreceiving⟩
  | false => exact (h.gone hreceiving).2

/-- The record is right, and removals have been made. -/
structure Sound (b : Board) : Prop where
  fanout : b.fanout.Sound
  regular : ∀ (k : Nat) (a : Announcement), b.announcements[k]? = some a → a.Regular b.audience.opened
  members : ∀ location, b.hub.members location ⊆ b.subscribers location
  targets : ∀ (k : Nat) a, b.announcements[k]? = some a → a.round.targets ⊆ b.subscribers (Round.location a.round)
  /-- What is noted as sent are the deliveries that went well. -/
  posted : ∀ c k, k ∈ b.postedTo c ↔ (c, none) ∈ b.outcomes k
  heard : ∀ entry ∈ b.heard, entry.1 ∈ b.audience.opened
  carried : ∀ c ∈ b.audience.opened, b.Carried c
  /-- Who has been subscribed once, and still is after an announcement, has its text. -/
  cleared : ∀ location, (b.subscribers location).Nodup → ∀ (k : Nat) (a : Announcement),
    b.announcements[k]? = some a → a.isOver → a.round.location = location →
      ∀ c ∈ a.round.targets, c ∈ b.hub.members location → (c, none) ∈ a.round.settled

theorem sound_empty : ({} : Board).Sound where
  fanout := Fanout.sound_after []
  regular _ _ h := nomatch h
  members location := List.nil_subset _
  targets _ _ h := nomatch h
  posted c k := by simp [postedTo, Keyed.under, outcomes]
  heard _ h := nomatch h
  carried _ h := nomatch h
  cleared _ _ _ _ h := nomatch h

namespace Sound

variable (hs : b.Sound)
include hs

theorem audience : b.audience.Sound :=
  hs.fanout.audience

theorem isOver_of_pending (ha : b.announcements[k]? = some a) (hc : c ∈ a.round.pending) : a.isOver = false := by
  by_contra hover
  rw [(hs.regular k a ha).settled (by simpa using hover)] at hc
  exact absurd hc List.not_mem_nil

/-- A step of the board is a step of the broadcasts under way, or none. -/
theorem fanout_step (e : Event) : ∃ events, (b.step e).fanout = b.fanout.run events := by
  have hstepped := b.stepped e
  generalize b.step e = b' at hstepped
  have hproceed {k : Nat} {a : Announcement} (ha : b.announcements[k]? = some a) (hopen : a.isOver = false) :
      ∃ i, (∀ act, b.fanout.proceed i act = act a.round) ∧
        (∀ r, underWay (b.announcements.set k { a with round := r }) = b.fanout.rounds.set i r) ∧
        underWay (b.announcements.set k { a with isOver := true }) = b.fanout.rounds.eraseIdx i := by
    obtain ⟨i, hi, hset, herase⟩ := exists_rank ha hopen
    refine ⟨i, fun act => ?_, hset, herase⟩
    have hround : b.fanout.rounds[i]? = some a.round := hi
    rw [Fanout.proceed, hround]
  cases hstepped with
  | idle => exact ⟨[], rfl⟩
  | begun location text =>
    let begun : Announcement := { round := { location, text, pending := b.hub.members location } }
    have hadded : underWay (b.announcements ++ [begun]) = underWay b.announcements ++ [begun.round] := by
      simp [underWay, begun]
    exact ⟨[.start location text], congrArg (Fanout.mk b.audience) hadded⟩
  | @sent k c a ha hc hqueued =>
    obtain ⟨i, hact, hset, -⟩ := hproceed ha (hs.isOver_of_pending ha hc)
    refine ⟨[.send i c], ?_⟩
    show _ = b.fanout.proceed i (b.fanout.send i c)
    rw [hact, Fanout.send, if_pos ⟨hc, hqueued⟩, ← hset]
    rfl
  | @failed k c why a ha hc =>
    obtain ⟨i, hact, hset, -⟩ := hproceed ha (hs.isOver_of_pending ha hc)
    refine ⟨[.fail i c why], ?_⟩
    show _ = b.fanout.proceed i (b.fanout.fail i c why)
    rw [hact, Fanout.fail, if_pos hc, ← hset]
    rfl
  | @finished k a ha hdone hopen =>
    obtain ⟨i, hact, -, herase⟩ := hproceed ha hopen
    refine ⟨[.finish i], ?_⟩
    show _ = b.fanout.proceed i (b.fanout.finish i)
    rw [hact, Fanout.finish, if_pos hdone, ← herase]
    rfl
  | @meanwhile e => exact ⟨[.meanwhile e], rfl⟩

theorem fanout_sound_step (e : Event) : (b.step e).fanout.Sound := by
  obtain ⟨events, heq⟩ := hs.fanout_step e
  rw [heq]
  exact List.foldlRecOn events _ hs.fanout fun _ hfanout e _ => hfanout.step e

variable (h : Stepped b e b')
include h

theorem regular_stepped (ha : b'.announcements[k]? = some a) : a.Regular b'.audience.opened :=
  (Announcement.Advance.regular hs.audience h.advance hs.regular ha).mono h.opened_subset

/-- Nobody becomes a member but by subscribing. -/
theorem mem_members_stepped (hc : c ∈ b'.hub.members location) :
    c ∈ b.hub.members location ∨ b'.announcements = b.announcements ∧
      b'.subscribers location = b.subscribers location ++ [c] := by
  cases h with
  | idle | begun | sent | failed => exact .inl hc
  | @finished k a => exact .inl ((b.hub.lessened_prune a.round.location a.round.dead).members location hc)
  | @meanwhile e =>
    have hquiet : ({ audience := b.audience } : Fanout).Sound := ⟨hs.audience, fun _ h => nomatch h⟩
    rcases hquiet.mem_members_step (e := .meanwhile e) hc with hold | ⟨hopened, he⟩
    · exact .inl hold
    · cases he
      refine .inr ⟨rfl, ?_⟩
      rw [subscribers, withAudience, Audience.subscription, if_pos hopened, Keyed.under_concat_self]
      rfl

theorem members_stepped (location : LocationId) : b'.hub.members location ⊆ b'.subscribers location := by
  intro c hc
  rcases hs.mem_members_stepped h hc with hold | ⟨-, hadded⟩
  · exact (h.subscribers_prefix location).subset (hs.members location hold)
  · rw [hadded]
    exact List.mem_concat_self

theorem targets_stepped (ha : b'.announcements[k]? = some a) :
    a.round.targets ⊆ b'.subscribers a.round.location := by
  have hbegins := (h.subscribers_prefix a.round.location).subset
  rcases h.advance.before ha with ⟨before, hbefore, hcontinues⟩ | ⟨location, text, rfl⟩
  · intro c hc
    have hold := hs.targets k before hbefore (hcontinues.targets_perm.subset hc)
    exact hbegins (hcontinues.location_eq ▸ hold)
  · intro c hc
    rw [Round.targets, List.map_nil, List.append_nil] at hc
    exact hbegins (hs.members location hc)

theorem posted_stepped (c : Connection) (k : Nat) :
    k ∈ b'.postedTo c ↔ (c, none) ∈ b'.outcomes k := by
  have hkept := hs.posted c k
  rw [postedTo, Keyed.mem_under] at hkept ⊢
  cases h with
  | idle | meanwhile => exact hkept
  | begun location text => rw [outcomes_begin, ← hkept, begin]
  | @sent j c' a ha =>
    rw [outcomes_set ha rfl, List.mem_append, List.mem_singleton, Prod.mk.injEq, hkept]
    split
    · next hk =>
      subst hk
      simp [outcomes, ha, Round.settle]
    · next hk => simp [hk]
  | @failed j c' why a ha =>
    rw [outcomes_set ha rfl, hkept]
    split
    · next hk =>
      subst hk
      simp [outcomes, ha, Round.settle]
    · rfl
  | @finished j a ha =>
    rw [outcomes_set ha rfl]
    refine hkept.trans ?_
    split
    · next hk =>
      subst hk
      simp [outcomes, ha]
    · rfl

/-- Who has been subscribed once, and still is after an announcement, has its text. -/
theorem cleared_stepped (honce : (b'.subscribers location).Nodup) (ha : b'.announcements[k]? = some a)
    (hover : a.isOver) (hlocation : a.round.location = location) (hc : c ∈ a.round.targets)
    (hmember : c ∈ b'.hub.members location) : (c, none) ∈ a.round.settled := by
  have honce' := (h.subscribers_prefix location).sublist.nodup honce
  rcases hs.mem_members_stepped h hmember with hold | ⟨hsame, hadded⟩
  · have hkept (ha : b.announcements[k]? = some a) := hs.cleared location honce' k a ha hover hlocation c hc hold
    cases h with
    | idle | meanwhile => exact hkept ha
    | begun =>
      rcases getElem?_concat_eq_some ha with ⟨-, rfl⟩ | ⟨-, ha⟩
      · cases hover
      · exact hkept ha
    | sent hbefore hpending | failed hbefore hpending =>
      rcases getElem?_set_eq_some ha with ⟨-, rfl⟩ | ⟨-, ha⟩
      · rw [hs.isOver_of_pending hbefore hpending] at hover
        cases hover
      · exact hkept ha
    | @finished j before hbefore hdone =>
      rcases getElem?_set_eq_some ha with ⟨-, rfl⟩ | ⟨-, ha⟩
      · -- it is over now, and whoever failed is not a member any more
        have hmember : c ∈ (b.hub.prune before.round.location before.round.dead).members location := hmember
        rw [Hub.members_prune, if_pos hlocation.symm] at hmember
        have halive : c ∉ before.round.dead := by simpa using (List.mem_filter.mp hmember).2
        rw [Round.targets, hdone, List.nil_append] at hc
        obtain ⟨⟨c, failure⟩, hsettled, rfl⟩ := List.mem_map.mp hc
        cases failure with
        | none => exact hsettled
        | some why => exact absurd (List.mem_map_of_mem (List.mem_filter.mpr ⟨hsettled, rfl⟩)) halive
      · exact hkept ha
  · -- it has just been subscribed, and no announcement can have been for it
    rw [hadded] at honce
    rw [hsame] at ha
    have hknown := hs.targets k a ha hc
    rw [hlocation] at hknown
    exact absurd rfl (List.nodup_append.mp honce |>.2.2 c hknown c (List.mem_singleton_self c))

theorem heard_stepped {entry : Connection × Frame} (hentry : entry ∈ b'.heard) : entry.1 ∈ b'.audience.opened := by
  refine h.opened_subset ?_
  cases h with
  | meanwhile =>
    rcases List.mem_append.mp hentry with hold | hnew
    · exact hs.heard entry hold
    · exact Audience.opened_of_mem_taken hnew
  | _ => exact hs.heard entry hentry

omit h in
theorem lt_of_mem_postedTo (hk : k ∈ b.postedTo c) : k < b.announcements.length := by
  have hsent := (hs.posted c k).mp hk
  by_contra hlt
  rw [outcomes, List.getElem?_eq_none (Nat.le_of_not_lt hlt)] at hsent
  exact absurd hsent List.not_mem_nil

omit h in
theorem opened_of_mem_postedTo (hk : k ∈ b.postedTo c) : c ∈ b.audience.opened := by
  have hsent := (hs.posted c k).mp hk
  have ha := List.getElem?_eq_getElem (hs.lt_of_mem_postedTo hk)
  rw [outcomes, ha] at hsent
  exact (hs.regular k _ ha).targets (List.mem_append_right _ (List.mem_map_of_mem hsent))

omit h in
theorem opened_of_mem_targets (hc : c ∈ b.targets k) : c ∈ b.audience.opened := by
  cases ha : b.announcements[k]? with
  | none =>
    rw [Board.targets, ha] at hc
    exact absurd hc List.not_mem_nil
  | some a =>
    rw [Board.targets, ha] at hc
    exact (hs.regular k a ha).targets hc

/-- Texts do not change. -/
theorem filterMap_text?_eq (c : Connection) : (b.postedTo c).filterMap b'.text? = b.textsTo c := by
  refine List.filterMap_congr fun k hk => ?_
  exact h.text?_eq (List.getElem?_eq_getElem (hs.lt_of_mem_postedTo hk))

theorem carried_of_undisturbed (hc : b.Carried c) (hposted : b'.postedTo c = b.postedTo c)
    (hheard : b'.heardBy c = b.heardBy c) (hchannel : (b.hub.channelOf c).Undisturbed (b'.hub.channelOf c)) :
    b'.Carried c := by
  have htexts : b'.textsTo c = b.textsTo c := by rw [textsTo, hposted, hs.filterMap_text?_eq h]
  constructor <;> rw [hchannel.receiving, hchannel.texts, hheard, htexts]
  · exact hc.receiving
  · exact hc.gone

/-- Nothing has come into a queue that has just been opened. -/
theorem carried_of_new (hc : c ∈ b'.audience.opened) (hnew : c ∉ b.audience.opened) : b'.Carried c := by
  have htexts : b.textsTo c = [] := by
    rw [textsTo, List.eq_nil_iff_forall_not_mem.mpr fun k hk => hnew (hs.opened_of_mem_postedTo hk)]
    rfl
  have hheard : b.heardBy c = [] :=
    List.eq_nil_iff_forall_not_mem.mpr fun frame hframe => hnew (hs.heard _ (Keyed.mem_under.mp hframe))
  cases h with
  | @meanwhile e =>
    rcases b.audience.opened_step e with hsame | ⟨id, capacity, rfl⟩
    · exact absurd (hsame ▸ hc) hnew
    · obtain rfl := List.mem_singleton.mp ((List.mem_append.mp hc).resolve_left hnew)
      have hchannel : (b.hub.modifyChannel b.hub.opened fun _ => .create capacity).channel b.hub.opened =
          .create capacity := by
        rw [Hub.channel_modifyChannel, if_pos rfl]
      have hheard' : (b.withAudience (.connect id capacity)).heardBy ⟨id, b.hub.opened⟩ = [] :=
        (congrArg (Keyed.under _) (List.append_nil b.heard)).trans hheard
      refine ⟨fun _ => ?_, fun hgone => ?_⟩
      · refine Eq.trans ?_ htexts.symm
        show Frame.texts ((b.withAudience (.connect id capacity)).heardBy ⟨id, b.hub.opened⟩) ++
          Frame.texts ((b.hub.modifyChannel b.hub.opened fun _ => .create capacity).channel b.hub.opened).frames = []
        rw [hheard', hchannel]
        rfl
      · have hreceiving : ((b.hub.modifyChannel b.hub.opened fun _ => .create capacity).channel
            b.hub.opened).receiving = false := hgone
        rw [hchannel] at hreceiving
        cases hreceiving
  | _ => exact absurd hc hnew

/-- A text that is sent comes into its queue, as the last. -/
theorem carried_sent (ha : b.announcements[k]? = some a) (hqueued : (b.hub.channelOf c).offerOutcome = .queued)
    (hcarried : b.Carried c) (hchannel : b'.hub.channelOf c = (b.hub.channelOf c).offer (.text a.round.text))
    (hposted : b'.posted = b.posted ++ [(c, k)]) (hheard : b'.heardBy c = b.heardBy c) : b'.Carried c := by
  have hreceiving : (b.hub.channelOf c).receiving := by
    by_contra hgone
    simp [Channel.offerOutcome, Bool.eq_false_of_not_eq_true hgone] at hqueued
  have htexts : b'.textsTo c = b.textsTo c ++ [a.round.text] := by
    have htext : b'.text? k = some a.round.text := by
      rw [h.text?_eq ha, text?, ha]
      rfl
    have hposted : b'.postedTo c = b.postedTo c ++ [k] := by
      rw [postedTo, hposted, Keyed.under_concat_self]
      rfl
    rw [textsTo, hposted, List.filterMap_append, hs.filterMap_text?_eq h]
    simp [htext]
  rw [Channel.offer, if_pos hqueued] at hchannel
  refine ⟨fun _ => ?_, fun hgone => ?_⟩
  · rw [hheard, hchannel, htexts, ← hcarried.receiving hreceiving, List.append_assoc, Frame.texts_append]
    rfl
  · rw [hchannel] at hgone
    exact absurd hreceiving (by simpa using hgone)

omit h in
/-- Nothing else brings a text into a queue. -/
theorem carried_meanwhile {e : Audience.Event} (h : Stepped b (.meanwhile e) (b.withAudience e))
    (hpieces : ∀ location text timeout, e ≠ .broadcast location text timeout) (hc : c ∈ b.audience.opened) :
    (b.withAudience e).Carried c := by
  have hcarried := hs.carried c hc
  have hheard : (b.withAudience e).heardBy c = b.heardBy c ++ Audience.received c.channel b.audience e := by
    rw [heardBy, withAudience, Keyed.under_append, hs.audience.under_taken hc]
    rfl
  have htexts : (b.withAudience e).textsTo c = b.textsTo c := hs.filterMap_text?_eq h c
  rcases hs.audience.breaks_or_carries c.channel e with hbreaks | hcarries
  · refine ⟨fun hreceiving => ?_, fun _ => ?_⟩
    · exact absurd hreceiving (Bool.eq_false_iff.mp hbreaks.receiving)
    · rw [hheard, hbreaks.received, List.append_nil, htexts]
      exact ⟨congrArg Frame.texts hbreaks.frames, hcarried.heard_prefix⟩
  · have hcontinued : Frame.texts (Audience.received c.channel b.audience e) ++
        Frame.texts ((b.withAudience e).hub.channelOf c).frames = Frame.texts (b.hub.channelOf c).frames := by
      have hnothing : Audience.delivered c.channel b.audience e = [] := by
        cases e with
        | broadcast location text timeout => exact absurd rfl (hpieces location text timeout)
        | _ => rfl
      refine hcarries.texts.trans ?_
      rw [hnothing, List.map_nil, List.append_nil]
      rfl
    constructor <;> rw [hheard, htexts, Frame.texts_append]
    · intro hreceiving
      rw [List.append_assoc, hcontinued]
      exact hcarried.receiving (hcarries.receiving.symm.trans hreceiving)
    · intro hgone
      obtain ⟨hempty, hbegins⟩ := hcarried.gone (hcarries.receiving.symm.trans hgone)
      rw [hempty, List.append_eq_nil_iff] at hcontinued
      rw [hcontinued.1, List.append_nil]
      exact ⟨hcontinued.2, hbegins⟩

theorem carried_stepped (hc : c ∈ b'.audience.opened) : b'.Carried c := by
  by_cases hold : c ∈ b.audience.opened
  case neg => exact hs.carried_of_new h hc hold
  have hcarried := hs.carried c hold
  have hstepped := h
  cases h with
  | idle => exact hcarried
  | begun | failed => exact hs.carried_of_undisturbed hstepped hcarried rfl rfl (.refl _)
  | @sent k c' a ha hpending hqueued =>
    have hchannel := Hub.channel_modifyChannel b.hub c'.channel c.channel (·.offer (.text a.round.text))
    by_cases hsame : c = c'
    · subst hsame
      exact hs.carried_sent hstepped ha hqueued hcarried (hchannel.trans (if_pos rfl)) rfl rfl
    · have hopened := (hs.regular k a ha).targets (List.mem_append_left _ hpending)
      have hne : c.channel ≠ c'.channel := fun heq => hsame (hs.audience.eq_of_channel_eq hold hopened heq)
      rw [if_neg hne] at hchannel
      exact hs.carried_of_undisturbed hstepped hcarried (Keyed.under_concat_of_ne (Ne.symm hsame) _ _) rfl
        ⟨congrArg Channel.receiving hchannel, congrArg (Frame.texts ∘ Channel.frames) hchannel⟩
  | @finished k a =>
    exact hs.carried_of_undisturbed hstepped hcarried rfl rfl ((b.hub.lessened_prune _ _).channels c.channel)
  | @meanwhile e hpieces => exact hs.carried_meanwhile hstepped hpieces hold

omit h in
theorem step (e : Event) : (b.step e).Sound where
  fanout := hs.fanout_sound_step e
  regular _ _ ha := hs.regular_stepped (b.stepped e) ha
  members location := hs.members_stepped (b.stepped e) location
  targets _ _ ha := hs.targets_stepped (b.stepped e) ha
  posted c k := hs.posted_stepped (b.stepped e) c k
  heard _ hentry := hs.heard_stepped (b.stepped e) hentry
  carried _ hc := hs.carried_stepped (b.stepped e) hc
  cleared _ honce _ _ ha hover hlocation _ hc hmember :=
    hs.cleared_stepped (b.stepped e) honce ha hover hlocation hc hmember

end Sound

/-! ### The order of two announcements -/

/-- Whoever both announcements are for gets them in this order, or not the second. -/
structure Leads (b : Board) (j k : Nat) : Prop where
  earlier : j < k
  begun : k < b.announcements.length
  reached : ∀ c ∈ b.targets j, c ∈ b.targets k → j ∈ b.postedTo c
  ordered : ∀ c ∈ b.targets j, ∀ before later, b.postedTo c = before ++ k :: later → j ∈ before

/-- An announcement that is over leads all that begin later at its location. -/
theorem Sound.leads_begin (hs : b.Sound) (honce : (b.subscribers location).Nodup) {told : String}
    (hj : b.Announces j location told) (hover : b.isOver j) (text : String) :
    (b.begin location text).Leads j b.announcements.length := by
  obtain ⟨a, ha, hlocation, -⟩ := hj
  rw [isOver, ha, Option.any_some] at hover
  have hlt := (List.getElem?_eq_some_iff.mp ha).1
  refine ⟨hlt, by simp [begin], fun c hcj hck => ?_, fun c _ before later hsplit => ?_⟩
  · have hcj : c ∈ a.round.targets := by
      rw [Board.targets, begin, List.getElem?_append_left hlt, ha] at hcj
      exact hcj
    rw [targets_begin] at hck
    have hsent := hs.cleared location honce j a ha hover hlocation c hcj hck
    refine (hs.posted c j).mpr ?_
    rw [outcomes, ha]
    exact hsent
  · have hsent : b.announcements.length ∈ b.postedTo c := by
      refine hsplit.symm ▸ ?_
      simp
    exact absurd (hs.lt_of_mem_postedTo hsent) (Nat.lt_irrefl _)

/-- What goes into a queue goes in behind all that has been put in. -/
theorem Stepped.postedTo_eq (h : Stepped b e b') (c : Connection) :
    b'.postedTo c = b.postedTo c ∨ ∃ k, b'.postedTo c = b.postedTo c ++ [k] ∧ c ∈ b.targets k := by
  cases h with
  | @sent k c' a ha hc =>
    by_cases hsame : c' = c
    · subst hsame
      refine .inr ⟨k, Keyed.under_concat_self _ _ _, ?_⟩
      rw [targets, ha]
      exact List.mem_append_left _ hc
    · exact .inl (Keyed.under_concat_of_ne hsame _ _)
  | _ => exact .inl rfl

/-- The order of two announcements is never lost. -/
theorem Leads.step (h : b.Leads j k) (e : Event) : (b.step e).Leads j k := by
  have hstepped := b.stepped e
  generalize b.step e = b' at hstepped
  have hj {c : Connection} (hc : c ∈ b'.targets j) : c ∈ b.targets j :=
    (hstepped.targets_perm (Nat.lt_trans h.earlier h.begun)).subset hc
  have hk {c : Connection} (hc : c ∈ b'.targets k) : c ∈ b.targets k :=
    (hstepped.targets_perm h.begun).subset hc
  refine ⟨h.earlier, ?_, fun c hcj hck => ?_, fun c hcj before later hsplit => ?_⟩
  · obtain ⟨a, ha, -⟩ := hstepped.advance.after (List.getElem?_eq_getElem h.begun)
    exact (List.getElem?_eq_some_iff.mp ha).1
  · have hsent := h.reached c (hj hcj) (hk hck)
    rcases hstepped.postedTo_eq c with heq | ⟨i, heq, -⟩ <;> rw [heq]
    · exact hsent
    · exact List.mem_append_left _ hsent
  · rcases hstepped.postedTo_eq c with heq | ⟨i, heq, hi⟩ <;> rw [heq] at hsplit
    · exact h.ordered c (hj hcj) before later hsplit
    · rcases List.eq_nil_or_concat later with rfl | ⟨later, last, rfl⟩
      · -- the second has just been put in
        obtain ⟨rfl, hlast⟩ := List.append_inj' hsplit rfl
        cases hlast
        exact h.reached c (hj hcj) hi
      · rw [List.concat_eq_append, ← List.cons_append, ← List.append_assoc] at hsplit
        exact h.ordered c (hj hcj) before later (List.append_inj' hsplit rfl).1

/-- Whom the first announcement did not reach, the second does not reach either. -/
theorem Leads.not_mem_postedTo (h : b.Leads j k) (hs : b.Sound) {why : SendFailure}
    (hlost : (c, some why) ∈ b.outcomes j) : k ∉ b.postedTo c := by
  intro hk
  have ha := List.getElem?_eq_getElem (Nat.lt_trans h.earlier h.begun)
  have hsettled : (b.outcomes j).map Prod.fst ⊆ b.targets j := by
    rw [outcomes, targets, ha]
    exact List.subset_append_right _ _
  obtain ⟨before, later, hsplit⟩ := List.append_of_mem hk
  have hfirst := h.ordered c (hsettled (List.mem_map_of_mem hlost)) before later hsplit
  have hreached : (c, none) ∈ b.outcomes j := by
    refine (hs.posted c j).mp ?_
    rw [hsplit]
    exact List.mem_append_left _ hfirst
  -- each connection is dealt with once
  have hnodup : ((b.outcomes j).map Prod.fst).Nodup := by
    rw [outcomes, ha]
    exact (List.nodup_append.mp (hs.regular j _ ha).nodup).2.1
  have heq := List.inj_on_of_nodup_map hnodup hlost hreached rfl
  cases heq

end Board

end Waterway
