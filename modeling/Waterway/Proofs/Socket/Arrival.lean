import Waterway.Proofs.Socket.Scene

/-!
# A subscriber that misses nothing

A session is subscribed before it asks for what is stored, and a report is stored before it is announced. So whatever
is announced has been stored when the session asked, or reaches its queue, and in the queue it waits until the snapshot
has been written.

## Main definitions

- `Scene.Reached` — an announcement has been put into the queue of a connection
- `Scene.Concerns` — what a step is to the subscriber of the session
- `Scene.Attends` — the subscriber receives, and is subscribed to its location unless it is evicted
- `Scene.Hears` — what has come into its queue
- `Scene.Informed` — it is announced what is stored after it has come
- `Scene.Served` — all of these, as long as the session goes on

## Main statements

- `Scene.served_after` — whatever happens, the session is served until it ends
- `Scene.nothing_missed` — what is announced is in the snapshot or in the queue
-/

namespace Waterway

namespace Scene

variable {s s' : Scene} {e : Event} {c : Connection} {location : LocationId} {session : Session}
  {forwarded : List Frame} {sent : List Nat} {since : Nat}

/-- An announcement has been put into the queue of a connection. -/
def Reached (s : Scene) (c : Connection) (k : Nat) : Prop :=
  ∃ a, s.announcements[k]? = some a ∧ (c, none) ∈ a.round.settled

/-- What is announced. -/
def textOf (s : Scene) (k : Nat) : Option String :=
  s.announcements[k]?.map (·.round.text)

theorem reached_set {k j : Nat} {a a' : Announcement} (ha : s.announcements[k]? = some a)
    (hset : s'.announcements = s.announcements.set k a') :
    s'.Reached c j ↔ if j = k then (c, none) ∈ a'.round.settled else s.Reached c j := by
  obtain ⟨hk, -⟩ := List.getElem?_eq_some_iff.mp ha
  rw [Reached, hset]
  split
  · next hj =>
    subst hj
    rw [List.getElem?_set_self hk]
    exact ⟨fun ⟨_, heq, hmem⟩ => Option.some.inj heq ▸ hmem, fun hmem => ⟨a', rfl, hmem⟩⟩
  · next hj =>
    rw [List.getElem?_set_ne (Ne.symm hj)]
    exact .rfl

/-- Nobody is reached by a step that settles nothing with success. -/
theorem reached_set_of_iff {k j : Nat} {a a' : Announcement} (ha : s.announcements[k]? = some a)
    (hset : s'.announcements = s.announcements.set k a')
    (hsettled : (c, none) ∈ a'.round.settled ↔ (c, none) ∈ a.round.settled) : s'.Reached c j ↔ s.Reached c j := by
  rw [reached_set ha hset]
  split
  · next hj =>
    subst hj
    rw [hsettled]
    exact ⟨fun hmem => ⟨a, ha, hmem⟩, fun ⟨_, hb, hmem⟩ => Option.some.inj (ha.symm.trans hb) ▸ hmem⟩
  · exact .rfl

theorem reached_begin (s : Scene) (location : LocationId) (text : String) (j : Nat) :
    (s.begin location text).Reached c j ↔ s.Reached c j := by
  constructor
  · rintro ⟨a, ha, hmem⟩
    rcases getElem?_concat_eq_some ha with ⟨-, rfl⟩ | ⟨-, hold⟩
    · cases hmem
    · exact ⟨a, hold, hmem⟩
  · rintro ⟨a, ha, hmem⟩
    obtain ⟨hj, -⟩ := List.getElem?_eq_some_iff.mp ha
    exact ⟨a, (List.getElem?_append_left hj).trans ha, hmem⟩

theorem Stepped.textOf_eq (h : Stepped s e s') {k : Nat} (hk : s.Reached c k) : s'.textOf k = s.textOf k := by
  obtain ⟨a, ha, -⟩ := hk
  obtain ⟨a', ha', hcontinues⟩ := h.announcement_after ha
  rw [textOf, textOf, ha, ha', Option.map_some, Option.map_some, hcontinues.text_eq]

/-- What a step is to the subscriber of the session. -/
inductive Concerns (s : Scene) (session : Session) (s' : Scene) : Prop where
  /-- Nothing gets into its queue or out of it, and the session does nothing. -/
  | spared (hspares : s.hub.Spares session.connection s'.hub)
      (hreached : ∀ k, s'.Reached session.connection k ↔ s.Reached session.connection k)
      (hsession : s'.session = some session) (hlooks : s'.looks = s.looks)
  | reached {k : Nat} {a : Announcement} (ha : s.announcements[k]? = some a) (hc : session.connection ∈ a.round.pending)
      (hqueued : (s.hub.channelOf session.connection).offerOutcome = .queued)
      (heq : s' = { s.onHub (·.modifyChannel session.connection.channel (·.offer (.text a.round.text))) with
        announcements := s.announcements.set k { a with round := a.round.settle session.connection none } })
  | acted {next : Session} {engine : Engine Database} (hstep : session.Stepped s.engine next engine)
      (heq : s' = { s with
        engine
        session := some next
        looks := s.looks ++ (session.look? s.engine s.entries.length).toList })

/-- There is nothing else that a step can be to it. -/
theorem Stepped.concerns (h : Stepped s e s') (hs : s.Sound) (hsession : s.session = some session) :
    Concerns s session s' := by
  have hopened := hs.session session hsession
  cases h with
  | joined hnone =>
    rw [hnone] at hsession
    cases hsession
  | acted hbefore hstep =>
    rw [hsession] at hbefore
    cases hbefore
    exact .acted hstep rfl
  | announced => exact .spared (.refl _ _) (s.reached_begin _ _) hsession rfl
  | published => exact .spared (.refl _ _) (s.reached_begin _ _) hsession rfl
  | @sent k other a ha hc hqueued =>
    by_cases hother : other = session.connection
    · subst hother
      exact .reached ha hc hqueued rfl
    · have hmember : other ∈ s.opened := (hs.announcements k a ha).targets (List.mem_append_left _ hc)
      have hchannel : other.channel ≠ session.connection.channel := fun heq =>
        hother (hs.audience.eq_of_channel_eq hmember hopened heq)
      refine .spared (.modifyChannel_of_ne hchannel _) (fun _ => reached_set_of_iff ha rfl ?_) hsession rfl
      simp [Round.settle, Ne.symm hother]
  | failed ha =>
    refine .spared (.refl _ _) (fun _ => reached_set_of_iff ha rfl ?_) hsession rfl
    simp [Round.settle]
  | @finished k a ha =>
    exact .spared (s.hub.spares_prune a.round.location a.round.dead) (fun _ => reached_set_of_iff ha rfl .rfl)
      hsession rfl
  | meanwhile hleaves =>
    exact .spared (hs.audience.spares hopened (hleaves session hsession)) (fun _ => .rfl) hsession rfl
  | _ => exact .spared (.refl _ _) (fun _ => .rfl) hsession rfl

/-- The subscriber receives, and is subscribed to its location unless it is evicted. -/
structure Attends (s : Scene) (c : Connection) (location : LocationId) : Prop where
  receiving : (s.hub.channelOf c).receiving
  subscribed : c ∈ s.hub.members location ∨ (s.hub.channelOf c).evicted
  elsewhere : ∀ other, c ∈ s.hub.members other → other = location
  targets : ∀ (k : Nat) a, s.announcements[k]? = some a → c ∈ a.round.targets → a.round.location = location
  /-- Who has failed is evicted in the end. -/
  failed : ∀ (k : Nat) a, s.announcements[k]? = some a → a.isOver → c ∈ a.round.dead → (s.hub.channelOf c).evicted

/-- What has come into the queue of the subscriber: the announcements that reached it, each once. -/
structure Hears (s : Scene) (c : Connection) (forwarded : List Frame) (sent : List Nat) : Prop where
  nodup : sent.Nodup
  mem_iff : ∀ k, k ∈ sent ↔ s.Reached c k
  texts : (Frame.texts (forwarded ++ (s.hub.channelOf c).frames)).map some = sent.map s.textOf

/-- It is announced what is stored after the subscriber has come. -/
structure Informed (s : Scene) (c : Connection) (location : LocationId) (since : Nat) : Prop where
  since_le : since ≤ s.entries.length
  looks : ∀ look ∈ s.looks, since ≤ look.stored
  announced : ∀ (i : Nat) entry k a, s.entries[i]? = some entry → since ≤ i → entry.location = location →
    entry.announcement = some k → s.announcements[k]? = some a →
    c ∈ a.round.targets ∨ (s.hub.channelOf c).evicted

theorem Attends.stepped (h : s.Attends c location) (hs : s.Sound) (hstep : Stepped s e s')
    (hholds : s.hub.Holds c s'.hub) : s'.Attends c location where
  receiving := hholds.receiving.trans h.receiving
  subscribed := h.subscribed.elim (hholds.stays location h.receiving) fun hevicted => .inr (hholds.evicted hevicted)
  elsewhere other hc := h.elsewhere other (hholds.members other hc)
  targets k a' ha' hc := by
    rcases hstep.announcement_before ha' with ⟨a, ha, hcontinues⟩ | ⟨location', text, rfl⟩
    · rw [hcontinues.location_eq]
      exact h.targets k a ha (hcontinues.targets_perm.mem_iff.mp hc)
    · refine h.elsewhere location' ?_
      simpa [Round.targets] using hc
  failed k a' ha' hover hdead := by
    have hkept {a : Announcement} (ha : s.announcements[k]? = some a) (hover : a.isOver) (hdead : c ∈ a.round.dead) :
        (s'.hub.channelOf c).evicted :=
      hholds.evicted (h.failed k a ha hover hdead)
    -- a broadcast that is over is not gone on with
    have hsettled {a : Announcement} {other : Connection} (ha : s.announcements[k]? = some a) (hover : a.isOver)
        (hc : other ∈ a.round.pending) : False := by
      rw [(hs.announcements k a ha).settled hover] at hc
      cases hc
    cases hstep with
    | announced | published =>
      rcases getElem?_concat_eq_some ha' with ⟨-, rfl⟩ | ⟨-, hold⟩
      · cases hover
      · exact hkept hold hover hdead
    | sent ha hc | failed ha hc =>
      rcases getElem?_set_eq_some ha' with ⟨rfl, rfl⟩ | ⟨-, hold⟩
      · exact (hsettled ha hover hc).elim
      · exact hkept hold hover hdead
    | @finished k a ha =>
      rcases getElem?_set_eq_some ha' with ⟨rfl, rfl⟩ | ⟨-, hold⟩
      · rcases h.subscribed with hmember | hevicted
        · obtain rfl := h.targets k a ha (a.round.dead_sublist.subset hdead)
          show ((s.hub.prune a.round.location a.round.dead).channel c.channel).evicted
          rw [Hub.channel_prune (hs.nodup_channels a.round.location), if_pos ⟨c, hmember, hdead, rfl⟩]
          rfl
        · exact hholds.evicted hevicted
      · exact hkept hold hover hdead
    | _ => exact hkept ha' hover hdead

theorem Informed.stepped (h : s.Informed c location since) (hattends : s.Attends c location) (hs : s.Sound)
    (hstep : Stepped s e s') (hholds : s.hub.Holds c s'.hub) : s'.Informed c location since where
  since_le := Nat.le_trans h.since_le hstep.length_entries_le
  looks look hlook := by
    rcases hstep.mem_looks hlook with hold | ⟨⟨hstored, -⟩, -⟩
    · exact h.looks look hold
    · exact hstored ▸ h.since_le
  announced i entry k a' hentry hi hlocation hk ha' := by
    cases hstep.comes hentry with
    | kept hbefore =>
      obtain ⟨a, ha, -⟩ := hs.announced i entry k hbefore hk
      obtain ⟨next, hnext, hcontinues⟩ := hstep.announcement_after ha
      obtain rfl := Option.some.inj (ha'.symm.trans hnext)
      rcases h.announced i entry k a hbefore hi hlocation hk ha with htarget | hevicted
      · exact .inl (hcontinues.targets_perm.mem_iff.mpr htarget)
      · exact .inr (hholds.evicted hevicted)
    | announced _ _ heq hadded =>
      subst heq
      cases hk
      rw [hadded, List.getElem?_concat_length] at ha'
      cases ha'
      rcases hattends.subscribed with hmember | hevicted
      · refine .inl ?_
        rw [Round.targets, List.map_nil, List.append_nil]
        exact hlocation ▸ hmember
      · exact .inr (hholds.evicted hevicted)
    | stored _ hnone =>
      rw [hnone] at hk
      cases hk

/-- Nothing gets into the queue, and what gets out of it has been forwarded. -/
theorem Hears.stepped (h : s.Hears c forwarded sent) (hstep : Stepped s e s')
    (hreached : ∀ k, s'.Reached c k ↔ s.Reached c k) (taken : List Frame)
    (htexts : Frame.texts (taken ++ (s'.hub.channelOf c).frames) = Frame.texts (s.hub.channelOf c).frames) :
    s'.Hears c (forwarded ++ taken) sent where
  nodup := h.nodup
  mem_iff k := (h.mem_iff k).trans (hreached k).symm
  texts := by
    have hsame : sent.map s'.textOf = sent.map s.textOf :=
      List.map_congr_left fun k hk => hstep.textOf_eq ((h.mem_iff k).mp hk)
    rw [hsame, ← h.texts, List.append_assoc, Frame.texts_append, htexts, ← Frame.texts_append]

/-- An announcement gets into the queue, which it has not reached before. -/
theorem Hears.reached (h : s.Hears c forwarded sent) (hs : s.Sound) {k : Nat} {a : Announcement}
    (ha : s.announcements[k]? = some a) (hc : c ∈ a.round.pending)
    (hqueued : (s.hub.channelOf c).offerOutcome = .queued) (hstep : Stepped s e s')
    (heq : s' = { s.onHub (·.modifyChannel c.channel (·.offer (.text a.round.text))) with
      announcements := s.announcements.set k { a with round := a.round.settle c none } }) :
    s'.Hears c forwarded (sent ++ [k]) := by
  have hfresh : ¬s.Reached c k := by
    rintro ⟨a', ha', hmem⟩
    obtain rfl := Option.some.inj (ha.symm.trans ha')
    exact (List.nodup_append.mp (hs.announcements k a ha).nodup).2.2 c hc c (List.mem_map_of_mem hmem) rfl
  have hreached (j : Nat) : s'.Reached c j ↔ j = k ∨ s.Reached c j := by
    rw [reached_set ha (congrArg announcements heq)]
    split
    · next hj => simp [Round.settle, hj]
    · next hj => simp [hj]
  constructor
  · rw [← List.concat_eq_append]
    exact h.nodup.concat fun hk => hfresh ((h.mem_iff k).mp hk)
  · intro j
    rw [List.mem_append, List.mem_singleton, h.mem_iff j, hreached j, or_comm]
  · have hsame : sent.map s'.textOf = sent.map s.textOf :=
      List.map_congr_left fun j hj => hstep.textOf_eq ((h.mem_iff j).mp hj)
    have hframes : (s'.hub.channelOf c).frames = (s.hub.channelOf c).frames ++ [.text a.round.text] := by
      subst heq
      show ((s.hub.modifyChannel c.channel _).channel c.channel).frames = _
      rw [Hub.channel_modifyChannel, if_pos rfl]
      exact congrArg Channel.frames (if_pos hqueued)
    have hadded : s'.textOf k = some a.round.text := by
      rw [textOf, congrArg announcements heq, List.getElem?_set_self (List.getElem?_eq_some_iff.mp ha).1]
      rfl
    rw [hframes, ← List.append_assoc, Frame.texts_append, List.map_append, h.texts, List.map_append, hsame,
      List.map_singleton, hadded]
    rfl

/-- The subscriber receives and is told everything, and the session is as far as what has been asked and written. -/
structure Served (s : Scene) (session : Session) (forwarded : List Frame) (sent : List Nat) (since : Nat) : Prop where
  attends : s.Attends session.connection session.location
  hears : s.Hears session.connection forwarded sent
  informed : s.Informed session.connection session.location since
  progress : session.Progress s.looks forwarded

/-- A frame that is taken out of the queue was the first of it, and nothing else changes. -/
theorem holds_of_takes {engine engine' : Engine Database} (hquiet : engine.timeline.Quiet) {taken : List Frame}
    (h : Session.Takes c engine taken engine') : engine.timeline.hub.Holds c engine'.timeline.hub ∧
      taken ++ (engine'.timeline.hub.channelOf c).frames = (engine.timeline.hub.channelOf c).frames := by
  cases h with
  | nothing => exact ⟨(Hub.Spares.refl c _).toHolds, rfl⟩
  | @frame f rest woken hframes =>
    have hhub : (engine.timeline.takeFrames c.channel 1).2.hub =
        engine.timeline.hub.modifyChannel c.channel fun ch => (ch.take 1).2 := by
      rw [hquiet.takeFrames_eq]
      rfl
    show engine.timeline.hub.Holds c (engine.timeline.takeFrames c.channel 1).2.hub ∧
      [f] ++ ((engine.timeline.takeFrames c.channel 1).2.hub.channelOf c).frames = _
    rw [hhub]
    refine ⟨.modifyChannel (f := fun ch => (ch.take 1).2) (fun _ => rfl) (fun _ hevicted => hevicted) _ _, ?_⟩
    rw [Hub.channelOf, Hub.channel_modifyChannel, if_pos rfl]
    show [f] ++ (engine.timeline.hub.channelOf c).frames.drop 1 = _
    rw [hframes]
    rfl

namespace Served

variable (h : s.Served session forwarded sent since) (hs : s.Sound)
include h hs

/-- The session goes on, perhaps with a frame out of the queue. -/
theorem acted {next : Session} {engine : Engine Database} (hstep : session.Stepped s.engine next engine)
    (hscene : Stepped s e { s with
      engine
      session := some next
      looks := s.looks ++ (session.look? s.engine s.entries.length).toList }) :
    next.stage = .ended ∨ ∃ taken, Served { s with
      engine
      session := some next
      looks := s.looks ++ (session.look? s.engine s.entries.length).toList } next (forwarded ++ taken) sent since := by
  rcases h.progress.stepped hstep s.entries.length with hended | ⟨taken, htakes, hprogress⟩
  · exact .inl hended
  · refine .inr ⟨taken, ?_⟩
    obtain ⟨hholds, hframes⟩ := holds_of_takes hs.audience.quiet htakes
    have hhears := h.hears.stepped hscene (fun _ => .rfl) taken (congrArg Frame.texts hframes)
    refine ⟨?_, ?_, ?_, hprogress⟩
    · rw [hstep.connection_eq, hstep.location_eq]
      exact h.attends.stepped hs hscene hholds
    · rw [hstep.connection_eq]
      exact hhears
    · rw [hstep.connection_eq, hstep.location_eq]
      exact h.informed.stepped h.attends hs hscene hholds

/-- A session that has not ended is still served after a step, or it has ended. -/
theorem stepped (hsession : s.session = some session) (hstep : Stepped s e s') :
    ∃ next, s'.session = some next ∧
      (next.stage = .ended ∨ ∃ forwarded sent, s'.Served next forwarded sent since) := by
  cases hstep.concerns hs hsession with
  | spared hspares hreached hsession' hlooks =>
    refine ⟨session, hsession', .inr ⟨forwarded, sent, ?_⟩⟩
    have hhears := h.hears.stepped hstep hreached [] hspares.texts
    rw [List.append_nil] at hhears
    exact ⟨h.attends.stepped hs hstep hspares.toHolds, hhears,
      h.informed.stepped h.attends hs hstep hspares.toHolds, hlooks ▸ h.progress⟩
  | @reached k a ha hc hqueued heq =>
    have hhears := h.hears.reached hs ha hc hqueued hstep heq
    have hholds : s.hub.Holds session.connection s'.hub := by
      subst heq
      exact .modifyChannel (fun ch => ch.receiving_offer _)
        (fun ch hevicted => (ch.evicted_offer _).trans hevicted) s.hub _
    refine ⟨session, by rw [heq]; exact hsession, .inr ⟨forwarded, sent ++ [k], ?_⟩⟩
    exact ⟨h.attends.stepped hs hstep hholds, hhears, h.informed.stepped h.attends hs hstep hholds, heq ▸ h.progress⟩
  | @acted next engine hacted heq =>
    subst heq
    refine ⟨next, rfl, ?_⟩
    rcases h.acted hs hacted hstep with hended | ⟨taken, hserved⟩
    · exact .inl hended
    · exact .inr ⟨forwarded ++ taken, sent, hserved⟩

end Served

/-- A subscriber that has just come is new to everything. -/
theorem Sound.served_join (hs : s.Sound) (hnone : s.session = none) (name : String) (location : LocationId)
    (capacity : Nat) : (s.join name location capacity).Served { connection := ⟨name, s.hub.opened⟩, location } [] []
      s.entries.length := by
  have hnew : (⟨name, s.hub.opened⟩ : Connection) ∉ s.opened := fun hmem =>
    absurd (hs.audience.channel_lt hmem) (Nat.lt_irrefl s.hub.opened)
  have hchannel : (s.join name location capacity).hub.channelOf ⟨name, s.hub.opened⟩ = .create capacity := by
    show (s.hub.modifyChannel s.hub.opened fun _ => .create capacity).channel s.hub.opened = _
    rw [Hub.channel_modifyChannel, if_pos rfl]
  have hmembers (other : LocationId) := Hub.members_subscribe (s.hub.connect name capacity).2 ⟨name, s.hub.opened⟩
    location other
  have htargets {k : Nat} {a : Announcement} (ha : s.announcements[k]? = some a) :
      (⟨name, s.hub.opened⟩ : Connection) ∉ a.round.targets :=
    fun hc => hnew ((hs.announcements k a ha).targets hc)
  refine ⟨⟨?_, .inl ?_, ?_, ?_, ?_⟩, ⟨List.nodup_nil, ?_, ?_⟩, ⟨Nat.le_refl _, ?_, ?_⟩, ?_⟩
  · rw [hchannel]
    rfl
  · show _ ∈ ((s.hub.connect name capacity).2.subscribe ⟨name, s.hub.opened⟩ location).members location
    rw [hmembers, if_pos rfl]
    exact List.mem_concat_self
  · intro other hc
    have hc : _ ∈ ((s.hub.connect name capacity).2.subscribe ⟨name, s.hub.opened⟩ location).members other := hc
    rw [hmembers] at hc
    split at hc
    · next hother => exact hother
    · exact absurd (hs.audience.subscribed other hc) hnew
  · intro k a ha hc
    exact absurd hc (htargets ha)
  · intro k a ha _ hdead
    exact absurd (a.round.dead_sublist.subset hdead) (htargets ha)
  · intro k
    refine iff_of_false List.not_mem_nil ?_
    rintro ⟨a, ha, hmem⟩
    exact htargets ha (List.mem_append_right _ (List.mem_map_of_mem hmem))
  · rw [hchannel]
    rfl
  · intro look hlook
    rw [show (s.join name location capacity).looks = [] from hs.unasked hnone] at hlook
    cases hlook
  · intro i entry k a hentry hi
    have hlt : i < s.entries.length := (List.getElem?_eq_some_iff.mp hentry).1
    omega
  · exact ⟨hs.unasked hnone, rfl, rfl⟩

/-- The session, if there is one, has ended or is served. -/
def Attended (s : Scene) : Prop :=
  ∀ session, s.session = some session →
    session.stage = .ended ∨ ∃ forwarded sent since, s.Served session forwarded sent since

theorem Attended.stepped (h : s.Attended) (hs : s.Sound) (hstep : Stepped s e s') : s'.Attended := by
  intro next hnext
  cases hsession : s.session with
  | none =>
    cases hstep with
    | joined =>
      cases hnext
      exact .inr ⟨[], [], s.entries.length, hs.served_join hsession _ _ _⟩
    | acted hbefore =>
      rw [hsession] at hbefore
      cases hbefore
    | _ =>
      have hnone : s.session = some next := hnext
      rw [hsession] at hnone
      cases hnone
  | some session =>
    rcases h session hsession with hended | ⟨forwarded, sent, since, hserved⟩
    · refine .inl ?_
      cases hstep.concerns hs hsession with
      | spared _ _ hsame =>
        rw [hsame] at hnext
        cases hnext
        exact hended
      | reached _ _ _ heq =>
        rw [heq] at hnext
        rw [show s.session = some next from hnext] at hsession
        cases hsession
        exact hended
      | acted hacted heq =>
        rw [heq] at hnext
        cases hnext
        exact hacted.ended hended
    · obtain ⟨session', hsession', hnow⟩ := hserved.stepped hs hsession hstep
      rw [hnext] at hsession'
      cases hsession'
      exact hnow.imp_right fun ⟨forwarded, sent, hserved⟩ => ⟨forwarded, sent, since, hserved⟩

/-- Whatever happens, the session is served until it ends. -/
theorem attended_after (registry : Registry) (database : Database) (events : List Event) :
    ((start registry database).run events).Attended := by
  induction events using List.reverseRecOn with
  | nil =>
    intro session hsession
    cases hsession
  | append_singleton events e ih =>
    rw [run_concat]
    exact ih.stepped (sound_after registry database events) (stepped _ e)

/-- An announcement of a report, with all that belongs to it done. -/
def Announced (s : Scene) (i : Nat) (entry : Entry) (k : Nat) : Prop :=
  s.entries[i]? = some entry ∧ entry.announcement = some k ∧ ∃ a, s.announcements[k]? = some a ∧ a.isOver

/-- A subscriber that has got the snapshot, and then what came out of its queue, has missed nothing. -/
structure UpToDate (s : Scene) (session : Session) (forwarded : List Frame) (sent : List Nat) : Prop where
  /-- The snapshot comes first. -/
  written : session.outlet.written = s.looks.map Look.frame ++ forwarded
  /-- It has one envelope for each feed. -/
  sources : s.looks.map (·.source) = Source.all
  /-- What has come into the queue is announcements. -/
  texts : (Frame.texts (forwarded ++ (s.hub.channelOf session.connection).frames)).map some = sent.map s.textOf
  /-- None of them has come twice. -/
  nodup : sent.Nodup
  /-- None of them is about another location. -/
  location : ∀ k ∈ sent, ∃ a, s.announcements[k]? = some a ∧ a.round.location = session.location
  /-- A report announces its own status, and no other report does so with it. -/
  own : ∀ (i : Nat) entry k, s.entries[i]? = some entry → entry.announcement = some k →
    s.textOf k = some entry.text ∧ ∀ (j : Nat) other, s.entries[j]? = some other → other.announcement = some k → j = i
  /-- What has been announced had been stored when the store was asked, or it has come into the queue. -/
  told : ∀ i entry k, s.Announced i entry k → entry.location = session.location →
    (∃ look ∈ s.looks, look.source = entry.source ∧ i < look.stored) ∨ k ∈ sent
  /-- What had been stored was among the rows of which the answer is the latest. -/
  counted : ∀ look ∈ s.looks, ∀ (i : Nat) entry, i < look.stored → s.entries[i]? = some entry →
    look.source = entry.source →
    entry.receipt.IsIn look.database ∧ ∀ answer, look.devices.key look.source = some entry.key →
      look.answer = .ok answer → ∃ o, answer = some o ∧ ¬o.observedAt.before entry.observedAt

theorem Recorded.counted (hr : s.Recorded) {look : Look} (hlook : look ∈ s.looks) {i : Nat} {entry : Entry}
    (hi : i < look.stored) (hentry : s.entries[i]? = some entry) (hsource : look.source = entry.source)
    {answer : Option (Observation Float)} (hkey : look.devices.key look.source = some entry.key)
    (hanswer : look.answer = .ok answer) : ∃ o, answer = some o ∧ ¬o.observedAt.before entry.observedAt := by
  have hmem := (hr.seen look hlook i entry hi hentry).time_mem
  have hlatest := DatabaseSource.isLatest_of_latest hkey hanswer
  rw [hsource] at hlatest
  cases answer with
  | none =>
    rw [show look.database.times entry.receipt.source entry.receipt.key = [] from hlatest] at hmem
    cases hmem
  | some o =>
    refine ⟨o, rfl, ?_⟩
    rw [hr.observedAt i entry hentry]
    exact hlatest.not_before _ hmem

theorem Served.upToDate (h : s.Served session forwarded sent since) (hs : s.Sound) (hr : s.Recorded)
    (hstage : session.stage = .forwarding) (hevicted : (s.hub.channelOf session.connection).evicted = false) :
    s.UpToDate session forwarded sent := by
  have hprogress := h.progress
  rw [Session.Progress, hstage] at hprogress
  obtain ⟨hsources, hwritten⟩ := hprogress
  refine ⟨hwritten, hsources, h.hears.texts, h.hears.nodup, ?_, ?_, ?_, ?_⟩
  · intro k hk
    obtain ⟨a, ha, hmem⟩ := (h.hears.mem_iff k).mp hk
    exact ⟨a, ha, h.attends.targets k a ha (List.mem_append_right _ (List.mem_map_of_mem hmem))⟩
  · intro i entry k hentry hk
    obtain ⟨a, ha, -, htext⟩ := hs.announced i entry k hentry hk
    refine ⟨?_, fun j other hother hk' => hs.distinct j i other entry k hother hentry hk' hk⟩
    rw [textOf, ha, Option.map_some, htext]
  · rintro i entry k ⟨hentry, hk, a, ha, hover⟩ hlocation
    by_cases hi : i < since
    · -- the session was not there yet, and all that it has asked it has asked later
      refine .inl ?_
      have hsource : entry.source ∈ s.looks.map (·.source) := by
        rw [hsources]
        cases entry.source <;> decide
      obtain ⟨look, hlook, hsame⟩ := List.mem_map.mp hsource
      exact ⟨look, hlook, hsame, Nat.lt_of_lt_of_le hi (h.informed.looks look hlook)⟩
    · refine .inr ((h.hears.mem_iff k).mpr ⟨a, ha, ?_⟩)
      rcases h.informed.announced i entry k a hentry (Nat.le_of_not_lt hi) hlocation hk ha with htarget | hcontra
      · rw [Round.targets, (hs.announcements k a ha).settled hover, List.nil_append] at htarget
        obtain ⟨⟨c, failure⟩, hmem, rfl⟩ := List.mem_map.mp htarget
        cases failure with
        | none => exact hmem
        | some why =>
          -- who has failed is evicted when the announcement is over
          have hdead : session.connection ∈ a.round.dead := List.mem_map.mpr ⟨_, List.mem_filter.mpr ⟨hmem, rfl⟩, rfl⟩
          rw [h.attends.failed k a ha hover hdead] at hevicted
          cases hevicted
      · rw [hcontra] at hevicted
        cases hevicted
  · intro look hlook i entry hi hentry hsource
    exact ⟨hr.seen look hlook i entry hi hentry, fun _ hkey hanswer =>
      hr.counted hlook hi hentry hsource hkey hanswer⟩

theorem Attended.exists_upToDate (h : s.Attended) (hs : s.Sound) (hr : s.Recorded) (hsession : s.session = some session)
    (hstage : session.stage = .forwarding) (hevicted : (s.hub.channelOf session.connection).evicted = false) :
    ∃ forwarded sent, s.UpToDate session forwarded sent := by
  rcases h session hsession with hended | ⟨forwarded, sent, since, hserved⟩
  · rw [hstage] at hended
    cases hended
  · exact ⟨forwarded, sent, hserved.upToDate hs hr hstage hevicted⟩

/-- Whatever happens, a session that has written its snapshot and goes on has missed nothing: the snapshot was written
before anything else, what came into its queue since it subscribed follows in order, no announcement twice and none of
another location, and a report that has been stored and announced was either stored before the session asked for its
feed, or has come into the queue. If it was stored before, it was among the rows of which the store gives the latest:
where the location has a device for the feed and the store answered, the answer is a reading that was observed no
earlier. -/
theorem nothing_missed (registry : Registry) (database : Database) (events : List Event) (session : Session) :
    let s := (start registry database).run events
    s.session = some session → session.stage = .forwarding →
      (s.hub.channelOf session.connection).evicted = false →
      ∃ forwarded sent, s.UpToDate session forwarded sent :=
  (attended_after registry database events).exists_upToDate (sound_after registry database events)
    (recorded_after registry database events)

/-- The weir, with its devices. -/
def weirRegistry : Registry :=
  ({} : Registry).register ⟨7, "Weir", some 1, some 2⟩ .empty

/-- The camera at the weir reports some seconds after the start of the year 2000. -/
def sighting (second : Nat) : Event :=
  .store (Instant.year2000.addSeconds second) 7 (.blockage ⟨.clear, 0.5, "weir.jpg", none⟩)

/-- The camera reports before a subscriber comes, and again when the session has asked and not yet written. -/
def between : List Event :=
  [sighting 0, .announce 0, .finish 0, .join "s" 7 4] ++ List.replicate 5 (.proceed .year2000 true) ++
    [sighting 60, .announce 1, .send 1 ⟨"s", 0⟩, .finish 1] ++ List.replicate 5 (.proceed .year2000 true)

/-- The second report has come into the queue, and the first was taken into account. -/
theorem nothing_missed_between :
    let s := (start weirRegistry (weir [])).run between
    ∃ session forwarded sent, s.session = some session ∧ s.UpToDate session forwarded sent ∧ 1 ∈ sent ∧
      ∃ look ∈ s.looks, ∃ entry, s.entries[0]? = some entry ∧ look.source = entry.source ∧
        ∃ o, look.answer = .ok (some o) ∧ ¬o.observedAt.before entry.observedAt := by
  intro s
  have hready : s.session.map (fun session =>
      (session.stage.isForwarding, (s.hub.channelOf session.connection).evicted, session.location)) =
      some (true, false, 7) := by
    decide +kernel
  obtain ⟨session, hsession, hready⟩ := Option.map_eq_some_iff.mp hready
  simp only [Prod.mk.injEq] at hready
  obtain ⟨hstage, hevicted, hlocation⟩ := hready
  obtain ⟨forwarded, sent, h⟩ := nothing_missed weirRegistry (weir []) between session hsession
    (Stage.isForwarding_iff.mp hstage) hevicted
  have hannounced : (s.entries[1]?.map fun entry => (entry.location, entry.announcement)) = some (7, some 1) ∧
      s.announcements[1]?.map Announcement.isOver = some true := by
    decide +kernel
  obtain ⟨entry, hentry, hplace⟩ := Option.map_eq_some_iff.mp hannounced.1
  obtain ⟨a, ha, hover⟩ := Option.map_eq_some_iff.mp hannounced.2
  have hlooks : ∀ look ∈ s.looks, look.stored = 1 := by
    have hall : s.looks.all (·.stored == 1) := by decide +kernel
    simpa using hall
  -- the session asked about the camera when the first report had been stored
  have hasked : s.looks[1]?.bind (fun look => s.entries[0]?.map fun entry =>
      (decide (look.source = entry.source), decide (look.devices.key look.source = some entry.key),
        look.answer.isOk)) = some (true, true, true) := by
    decide +kernel
  obtain ⟨look, hlook, hasked⟩ := Option.bind_eq_some_iff.mp hasked
  obtain ⟨first, hfirst, hasked⟩ := Option.map_eq_some_iff.mp hasked
  simp only [Prod.mk.injEq, decide_eq_true_eq] at hasked
  obtain ⟨hsource, hkey, hanswered⟩ := hasked
  obtain ⟨answer, hanswer⟩ : ∃ answer, look.answer = .ok answer := by
    cases hanswer : look.answer with
    | error e => rw [hanswer] at hanswered; cases hanswered
    | ok answer => exact ⟨answer, rfl⟩
  have hlook := List.mem_of_getElem? hlook
  have hstored : 0 < look.stored := by rw [hlooks look hlook]; exact Nat.one_pos
  refine ⟨session, forwarded, sent, hsession, h, ?_, look, hlook, first, hfirst, hsource, ?_⟩
  · have htold := h.told 1 entry 1 ⟨hentry, congrArg Prod.snd hplace, a, ha, hover⟩
      ((congrArg Prod.fst hplace).trans hlocation.symm)
    refine htold.resolve_left ?_
    rintro ⟨look, hlook, -, hstored⟩
    rw [hlooks look hlook] at hstored
    exact absurd hstored (Nat.lt_irrefl 1)
  · obtain ⟨o, rfl, hlater⟩ := (h.counted look hlook 0 first hstored hfirst hsource).2 answer hkey hanswer
    exact ⟨o, hanswer, hlater⟩

end Scene

end Waterway
