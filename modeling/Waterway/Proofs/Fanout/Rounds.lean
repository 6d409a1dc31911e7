import Waterway.Proofs.Fanout.Audience

/-!
# Broadcasts in pieces

A broadcast notes who is subscribed, deals with these connections one by one, and then removes those that failed.
Between the pieces anything else may happen, other broadcasts included.

## Main definitions

- `Round` — a broadcast under way
- `Fanout` — an audience and the broadcasts under way
- `Fanout.Event` — what can happen, piece by piece
- `Fanout.Stepped` — the ways in which an event can go
- `Fanout.Sound` — what holds after all courses of events

## Main statements

- `Fanout.sound_after` — whatever happens in between, the audience stays sound
- `Fanout.begunIn_of_mem_rounds` — a broadcast is for those who were subscribed at its start
- `Fanout.run_uninterrupted` — the pieces without anything in between make up a broadcast

## Design notes

A connection may fail at any time and for any reason, so that no bound on the wait for a full queue is taken for
granted. A frame may be sent whenever there is room for it and somebody receives, even after an eviction.
-/

namespace Waterway

/-- A broadcast under way. -/
structure Round where
  location : LocationId
  text : String
  /-- Who has not been dealt with. -/
  pending : List Connection
  /-- How it went for the others. -/
  settled : List (Connection × Option SendFailure) := []
deriving Repr, DecidableEq

namespace Round

variable {r : Round} {c : Connection}

/-- Whom the broadcast is for. -/
def targets (r : Round) : List Connection :=
  r.pending ++ r.settled.map Prod.fst

def dead (r : Round) : List Connection :=
  (r.settled.filter (·.2.isSome)).map (·.1)

/-- One connection has been dealt with. -/
def settle (r : Round) (c : Connection) (failure : Option SendFailure) : Round :=
  { r with pending := r.pending.erase c, settled := r.settled ++ [(c, failure)] }

theorem dead_sublist (r : Round) : r.dead.Sublist r.targets :=
  (List.filter_sublist.map _).trans (List.sublist_append_right _ _)

theorem targets_settle (hc : c ∈ r.pending) (failure : Option SendFailure) :
    (r.settle c failure).targets.Perm r.targets := by
  have hmoved : (r.pending.erase c ++ [c]).Perm r.pending :=
    List.perm_append_comm.trans (List.perm_cons_erase hc).symm
  have hsettled : (r.settle c failure).targets.Perm (r.pending.erase c ++ [c] ++ r.settled.map Prod.fst) := by
    simp only [targets, settle, List.map_append, List.map_singleton, List.append_assoc]
    exact List.perm_append_comm.append_left _
  exact hsettled.trans (hmoved.append_right _)

end Round

namespace Audience

theorem opened_touch (a : Audience) (c : Connection) (f : Timeline → Timeline) : (a.touch c f).opened = a.opened := by
  rw [touch]
  split <;> rfl

/-- Only those that connect are opened. -/
theorem opened_step (a : Audience) (e : Event) :
    (a.step e).opened = a.opened ∨ ∃ id capacity, e = .connect id capacity := by
  cases e with
  | connect id capacity => exact .inr ⟨id, capacity, rfl⟩
  | subscribe c location => exact .inl (a.opened_touch c _)
  | take c n => exact .inl (a.opened_touch c _)
  | hangUp c => exact .inl (a.opened_touch c _)
  | cancel c => exact .inl (a.opened_touch c _)
  | _ => exact .inl rfl

theorem opened_subset_step (a : Audience) (e : Event) : a.opened ⊆ (a.step e).opened := by
  rcases a.opened_step e with hsame | ⟨id, capacity, rfl⟩
  · rw [hsame]
    exact List.Subset.refl _
  · exact List.subset_append_left _ _

end Audience

/-- An audience and the broadcasts under way. -/
structure Fanout where
  audience : Audience := {}
  rounds : List Round := []

namespace Fanout

/-- What can happen. The broadcasts under way are counted from the oldest. -/
inductive Event where
  /-- Something happens between the pieces, in one go. -/
  | meanwhile (e : Audience.Event)
  /-- A heartbeat reaches one connection. -/
  | ping (c : Connection)
  /-- A broadcast begins by noting who is subscribed. -/
  | start (location : LocationId) (text : String)
  | send (i : Nat) (c : Connection)
  | fail (i : Nat) (c : Connection) (why : SendFailure)
  /-- A broadcast that has dealt with everybody removes those that failed. -/
  | finish (i : Nat)

variable {s : Fanout} {events : List Event} {r : Round}

def hub (s : Fanout) : Hub :=
  s.audience.hub

def onHub (s : Fanout) (f : Hub → Hub) : Fanout :=
  { s with audience := { s.audience with timeline := s.audience.timeline.onHub f } }

/-- Goes on with a broadcast, if there is one. -/
def proceed (s : Fanout) (i : Nat) (act : Round → Fanout) : Fanout :=
  match s.rounds[i]? with
  | some r => act r
  | none => s

def send (s : Fanout) (i : Nat) (c : Connection) (r : Round) : Fanout :=
  if c ∈ r.pending ∧ (s.hub.channelOf c).offerOutcome = .queued then
    { s.onHub (·.modifyChannel c.channel (·.offer (.text r.text))) with rounds := s.rounds.set i (r.settle c none) }
  else s

def fail (s : Fanout) (i : Nat) (c : Connection) (why : SendFailure) (r : Round) : Fanout :=
  if c ∈ r.pending then { s with rounds := s.rounds.set i (r.settle c (some why)) } else s

def finish (s : Fanout) (i : Nat) (r : Round) : Fanout :=
  if r.pending = [] then
    { s.onHub fun h => (h.finish r.location r.settled).2 with rounds := s.rounds.eraseIdx i }
  else s

def step (s : Fanout) : Event → Fanout
  | .meanwhile e => { s with audience := s.audience.step e }
  | .ping c => if c ∈ s.audience.opened then s.onHub (·.modifyChannel c.channel (·.offer .ping)) else s
  | .start location text =>
    { s with rounds := s.rounds ++ [{ location, text, pending := s.hub.members location }] }
  | .send i c => s.proceed i (s.send i c)
  | .fail i c why => s.proceed i (s.fail i c why)
  | .finish i => s.proceed i (s.finish i)

def run (s : Fanout) (events : List Event) : Fanout :=
  events.foldl step s

/-- What a course of events comes to from the start. -/
def after (events : List Event) : Fanout :=
  ({} : Fanout).run events

theorem run_append (s : Fanout) (events later : List Event) : s.run (events ++ later) = (s.run events).run later :=
  List.foldl_append

theorem after_concat (events : List Event) (e : Event) : after (events ++ [e]) = (after events).step e :=
  run_append {} events [e]

/-- The ways in which an event can go. -/
inductive Stepped (s : Fanout) : Event → Fanout → Prop where
  /-- There is no such broadcast or connection, or it is not at that point. -/
  | idle (e : Event) : Stepped s e s
  | meanwhile (e : Audience.Event) : Stepped s (.meanwhile e) { s with audience := s.audience.step e }
  | pinged {c : Connection} (hc : c ∈ s.audience.opened) :
      Stepped s (.ping c) (s.onHub (·.modifyChannel c.channel (·.offer .ping)))
  | started (location : LocationId) (text : String) :
      Stepped s (.start location text)
        { s with rounds := s.rounds ++ [{ location, text, pending := s.hub.members location }] }
  | sent {i : Nat} {c : Connection} {r : Round} (hr : s.rounds[i]? = some r) (hc : c ∈ r.pending)
      (hqueued : (s.hub.channelOf c).offerOutcome = .queued) :
      Stepped s (.send i c) { s.onHub (·.modifyChannel c.channel (·.offer (.text r.text))) with
        rounds := s.rounds.set i (r.settle c none) }
  | failed {i : Nat} {c : Connection} {why : SendFailure} {r : Round} (hr : s.rounds[i]? = some r)
      (hc : c ∈ r.pending) :
      Stepped s (.fail i c why) { s with rounds := s.rounds.set i (r.settle c (some why)) }
  | finished {i : Nat} {r : Round} (hr : s.rounds[i]? = some r) (hdone : r.pending = []) :
      Stepped s (.finish i) { s.onHub (·.prune r.location r.dead) with rounds := s.rounds.eraseIdx i }

theorem stepped_proceed {i : Nat} {act : Round → Fanout} {e : Event}
    (h : ∀ r, s.rounds[i]? = some r → Stepped s e (act r)) : Stepped s e (s.proceed i act) := by
  rw [proceed]
  split
  · next r hr => exact h r hr
  · exact .idle e

theorem stepped (s : Fanout) (e : Event) : Stepped s e (s.step e) := by
  cases e with
  | meanwhile e => exact .meanwhile e
  | ping c =>
    rw [step]
    split
    · next hc => exact .pinged hc
    · exact .idle _
  | start location text => exact .started location text
  | send i c =>
    refine stepped_proceed fun r hr => ?_
    rw [send]
    split
    · next h => exact .sent hr h.1 h.2
    · exact .idle _
  | fail i c why =>
    refine stepped_proceed fun r hr => ?_
    rw [fail]
    split
    · next hc => exact .failed hr hc
    · exact .idle _
  | finish i =>
    refine stepped_proceed fun r hr => ?_
    rw [finish]
    split
    · next hdone => exact .finished hr hdone
    · exact .idle _

namespace Stepped

variable {e : Event} {s' : Fanout} (h : Stepped s e s')
include h

/-- The broadcasts under way are those that were, one of them perhaps further on, and one that begins. -/
theorem mem_rounds (hr : r ∈ s'.rounds) :
    r ∈ s.rounds ∨ (∃ r' ∈ s.rounds, ∃ c ∈ r'.pending, ∃ failure, r = r'.settle c failure) ∨
      ∃ location text, e = .start location text ∧ r = { location, text, pending := s.hub.members location } := by
  have hset {i : Nat} {c : Connection} {failure : Option SendFailure} {r' : Round} (hr' : s.rounds[i]? = some r')
      (hc : c ∈ r'.pending) (hmem : r ∈ s.rounds.set i (r'.settle c failure)) :
      r ∈ s.rounds ∨ ∃ r' ∈ s.rounds, ∃ c ∈ r'.pending, ∃ failure, r = r'.settle c failure := by
    rcases List.mem_or_eq_of_mem_set hmem with hold | rfl
    · exact .inl hold
    · exact .inr ⟨r', List.mem_of_getElem? hr', c, hc, failure, rfl⟩
  rw [← or_assoc]
  cases h with
  | idle | meanwhile | pinged => exact .inl (.inl hr)
  | started location text =>
    rcases List.mem_append.mp hr with hold | hnew
    · exact .inl (.inl hold)
    · exact .inr ⟨location, text, rfl, List.mem_singleton.mp hnew⟩
  | sent hr' hc => exact .inl (hset hr' hc hr)
  | failed hr' hc => exact .inl (hset hr' hc hr)
  | finished => exact .inl (.inl (List.mem_of_mem_eraseIdx hr))

theorem opened_subset : s.audience.opened ⊆ s'.audience.opened := by
  cases h with
  | meanwhile e => exact s.audience.opened_subset_step e
  | _ => exact List.Subset.refl _

end Stepped

/-- A sound audience, and broadcasts for connections that have been opened. -/
structure Sound (s : Fanout) : Prop where
  audience : s.audience.Sound
  targets : ∀ r ∈ s.rounds, r.targets ⊆ s.audience.opened

namespace Sound

variable (hs : s.Sound)
include hs

theorem audience_stepped {e : Event} {s' : Fanout} (h : Stepped s e s') : s'.audience.Sound := by
  cases h with
  | idle | started | failed => exact hs.audience
  | meanwhile e => exact hs.audience.step e
  | pinged hc => exact hs.audience.modifyChannel hc _
  | sent hr hc => exact hs.audience.modifyChannel (hs.targets _ (List.mem_of_getElem? hr) (List.mem_append_left _ hc)) _
  | @finished i r => exact hs.audience.lessened (hs.audience.tidy.prune r.location r.dead) (Hub.lessened_prune _ _ _)

theorem step (e : Event) : (s.step e).Sound := by
  have hstepped := s.stepped e
  refine ⟨hs.audience_stepped hstepped, fun r hr => List.Subset.trans ?_ hstepped.opened_subset⟩
  rcases hstepped.mem_rounds hr with hold | ⟨r', hr', c, hc, failure, rfl⟩ | ⟨location, text, -, rfl⟩
  · exact hs.targets r hold
  · intro c' hc'
    exact hs.targets r' hr' ((Round.targets_settle hc failure).mem_iff.mp hc')
  · rw [Round.targets, List.map_nil, List.append_nil]
    exact hs.audience.subscribed location

end Sound

/-- Whatever happens between the pieces of broadcasts, the audience stays sound. -/
theorem sound_after (events : List Event) : (after events).Sound := by
  induction events using List.reverseRecOn with
  | nil => exact ⟨.empty, fun _ h => absurd h List.not_mem_nil⟩
  | append_singleton events e ih =>
    rw [after_concat]
    exact ih.step e

/-- A broadcast has begun in a course of events, and is for those who were subscribed then. -/
def BegunIn (events : List Event) (r : Round) : Prop :=
  ∃ before later, events = before ++ .start r.location r.text :: later ∧
    r.targets.Perm ((after before).hub.members r.location)

/-- Every broadcast under way has begun at some time. -/
theorem begunIn_of_mem_rounds (hr : r ∈ (after events).rounds) : BegunIn events r := by
  induction events using List.reverseRecOn generalizing r with
  | nil => exact absurd hr List.not_mem_nil
  | append_singleton events e ih =>
    rw [after_concat] at hr
    have hstepped := (after events).stepped e
    rcases hstepped.mem_rounds hr with hold | ⟨r', hr', c, hc, failure, rfl⟩ | ⟨location, text, rfl, rfl⟩
    · obtain ⟨before, later, heq, hperm⟩ := ih hold
      exact ⟨before, later ++ [e], by simp [heq], hperm⟩
    · obtain ⟨before, later, heq, hperm⟩ := ih hr'
      exact ⟨before, later ++ [e], by simp [heq, Round.settle], (Round.targets_settle hc failure).trans hperm⟩
    · exact ⟨events, [], rfl, by simp [Round.targets]⟩

/-- The pieces in which a broadcast deals with its connections, if nobody makes room in a full queue. -/
def settling (i : Nat) (offers : List (Connection × Offer)) : List Event :=
  offers.map fun
    | (c, .queued) => .send i c
    | (c, .full) => .fail i c .timedOut
    | (c, .closed) => .fail i c .closed

theorem step_settling {i : Nat} {c : Connection} (hr : s.rounds[i]? = some r) (hc : c ∈ r.pending) :
    s.run (settling i [(c, s.hub.offerOutcome c)]) = { s.onHub (·.offerTo (.text r.text) c) with
      rounds := s.rounds.set i (r.settle c (Hub.failureOf (s.hub.offerOutcome c))) } := by
  have hstep (e : Event) (act : Round → Fanout) (he : s.step e = s.proceed i act) : s.step e = act r := by
    rw [he, proceed, hr]
  -- whoever does not take the text is left as it is
  have hidle (h : s.hub.offerOutcome c ≠ .queued) : s.onHub (·.offerTo (.text r.text) c) = s := by
    have hhub : s.hub.offerTo (.text r.text) c = s.hub := if_neg h
    exact congrArg (fun hub => s.onHub fun _ => hub) hhub
  cases houtcome : s.hub.offerOutcome c with
  | queued =>
    have hroom : (s.hub.channelOf c).offerOutcome = .queued := by
      rw [Hub.offerOutcome] at houtcome
      split at houtcome
      · exact houtcome
      · cases houtcome
    have hhub : s.hub.offerTo (.text r.text) c = s.hub.modifyChannel c.channel (·.offer (.text r.text)) :=
      if_pos houtcome
    refine (hstep (.send i c) _ rfl).trans ?_
    rw [send, if_pos ⟨hc, hroom⟩]
    exact congrArg (fun hub => { s.onHub fun _ => hub with rounds := s.rounds.set i (r.settle c none) }) hhub.symm
  | full =>
    rw [hidle (by simp [houtcome])]
    exact (hstep (.fail i c .timedOut) _ rfl).trans (if_pos hc)
  | closed =>
    rw [hidle (by simp [houtcome])]
    exact (hstep (.fail i c .closed) _ rfl).trans (if_pos hc)

theorem run_settling (cs : List Connection) {i : Nat} (hr : s.rounds[i]? = some r) (hpending : r.pending = cs) :
    let offers := (Hub.offerEach (.text r.text) cs s.hub).1
    s.run (settling i offers) = { s.onHub fun h => (Hub.offerEach (.text r.text) cs h).2 with
      rounds := s.rounds.set i { r with
        pending := []
        settled := r.settled ++ offers.map fun (c, o) => (c, Hub.failureOf o) } } := by
  induction cs generalizing s r with
  | nil =>
    obtain ⟨hi, hget⟩ := List.getElem?_eq_some_iff.mp hr
    have hsame : { r with pending := [], settled := r.settled ++ [] } = r := by
      rw [← hpending, List.append_nil]
    have hrounds : s.rounds.set i r = s.rounds := hget ▸ List.set_getElem_self hi
    intro offers
    show s = { s with rounds := s.rounds.set i { r with pending := [], settled := r.settled ++ [] } }
    rw [hsame, hrounds]
  | cons c cs ih =>
    obtain ⟨hi, -⟩ := List.getElem?_eq_some_iff.mp hr
    have hstep := step_settling hr (hpending ▸ List.mem_cons_self)
    have hnext : (s.run (settling i [(c, s.hub.offerOutcome c)])).rounds[i]? =
        some (r.settle c (Hub.failureOf (s.hub.offerOutcome c))) := by
      rw [hstep]
      exact List.getElem?_set_self hi
    have hrest : (r.settle c (Hub.failureOf (s.hub.offerOutcome c))).pending = cs := by
      rw [Round.settle, hpending, List.erase_cons_head]
    intro offers
    show (s.run (settling i [(c, s.hub.offerOutcome c)])).run
      (settling i (Hub.offerEach (.text r.text) cs (s.hub.offerTo (.text r.text) c)).1) = _
    refine Eq.trans ?_ ((ih hnext hrest).trans ?_)
    · rw [hstep]
      rfl
    · rw [hstep]
      simp only [List.set_set, Round.settle, List.append_assoc]
      rfl

/-- The pieces of a broadcast, with nothing in between, come to the broadcast. -/
theorem run_uninterrupted (location : LocationId) (text : String) :
    let i := s.rounds.length
    let offers := (Hub.offerEach (.text text) (s.hub.members location) s.hub).1
    s.run (.start location text :: settling i offers ++ [.finish i]) =
      s.onHub fun h => (h.broadcast location text).2 := by
  intro i offers
  let settled := offers.map fun (c, o) => (c, Hub.failureOf o)
  let swept : Fanout := { s.onHub fun h => (Hub.offerEach (.text text) (h.members location) h).2 with
    rounds := s.rounds ++ [{ location, text, pending := [], settled }] }
  have hstart : (s.step (.start location text)).rounds[i]? =
      some { location, text, pending := s.hub.members location } :=
    List.getElem?_concat_length
  -- the broadcast stands behind those already under way, which it leaves alone
  have hset (r r' : Round) : (s.rounds ++ [r]).set i r' = s.rounds ++ [r'] := by
    rw [List.set_append_right _ _ (Nat.le_refl i), Nat.sub_self, List.set_cons_zero]
  have hswept : (s.step (.start location text)).run (settling i offers) = swept :=
    (run_settling (s.hub.members location) hstart rfl).trans
      (congrArg (fun rounds => { swept with rounds }) (hset _ _))
  have hfinish : swept.step (.finish i) = swept.finish i { location, text, pending := [], settled } := by
    rw [step, proceed, show swept.rounds[i]? = _ from List.getElem?_concat_length]
  have hrounds : swept.rounds.eraseIdx i = s.rounds := by
    rw [List.eraseIdx_append_of_length_le (Nat.le_refl i), Nat.sub_self]
    exact List.append_nil _
  rw [run_append]
  show ((s.step (.start location text)).run (settling i offers)).step (.finish i) = _
  rw [hswept, hfinish, finish, if_pos rfl, hrounds]
  rfl

end Fanout

end Waterway
