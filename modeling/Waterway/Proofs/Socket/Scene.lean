import Waterway.Proofs.Fanout.Bystanders
import Waterway.Proofs.Ingest.Storing
import Waterway.Proofs.Socket.Sessions

/-!
# A session while reports come in

A subscriber arrives, asks for what is stored and then forwards its queue, while reports are stored and announced, one
step of anybody at a time, and other subscribers come and go.

## Main definitions

- `Entry` — a report that has been stored
- `Announcement` — a broadcast that has begun, and perhaps ended
- `Scene` — the engine, the reports, the broadcasts, and the session with what it has asked
- `Scene.Event` — what can happen
- `Scene.Stepped` — the ways in which an event can go
- `Scene.Sound`, `Scene.Recorded` — what holds after all courses of events

## Main statements

- `Scene.stepped` — there are no other ways
- `Scene.sound_after`, `Scene.recorded_after` — whatever happens, subscribers and tables are in order

## Design notes

Storing a report is one step, and announcing it goes on in pieces: it is noted who is subscribed, each of them gets the
text or fails, and those that failed are removed. The session takes its own steps. It has a name that nobody else uses,
and nobody else does anything in its name. The registry may change in any way at any time, and so may the clock of the
database and the statements that fail.
-/

namespace Waterway

/-- A report that has been stored. -/
structure Entry where
  location : LocationId
  receipt : Receipt
  /-- How many readings of its device, or of its location, had been stored before. -/
  position : Nat
  /-- The number of its announcement, once that has begun. -/
  announcement : Option Nat := none

namespace Entry

def source (entry : Entry) : Source :=
  entry.receipt.source

def key (entry : Entry) : RowId :=
  entry.receipt.key

def observedAt (entry : Entry) : Instant :=
  entry.receipt.observation.observedAt

/-- What subscribers are sent. -/
def text (entry : Entry) : String :=
  (Envelope.ofObservation entry.receipt.observation).text

end Entry

/-- A broadcast that has begun. -/
structure Announcement where
  round : Round
  /-- Those that failed have been removed. -/
  isOver : Bool := false

namespace Announcement

/-- An announcement is for connections that have been opened, each of which is dealt with once. -/
structure Regular (opened : List Connection) (a : Announcement) : Prop where
  targets : a.round.targets ⊆ opened
  nodup : a.round.targets.Nodup
  settled : a.isOver → a.round.pending = []

theorem Regular.mono {opened opened' : List Connection} {a : Announcement} (h : a.Regular opened)
    (hopened : opened ⊆ opened') : a.Regular opened' :=
  ⟨List.Subset.trans h.targets hopened, h.nodup, h.settled⟩

/-- What one step can make of an announcement. -/
inductive Continues (a : Announcement) : Announcement → Prop where
  | refl : a.Continues a
  | settled {c : Connection} (hc : c ∈ a.round.pending) (failure : Option SendFailure) :
      a.Continues { a with round := a.round.settle c failure }
  | finished (hdone : a.round.pending = []) : a.Continues { a with isOver := true }

namespace Continues

variable {a a' : Announcement} (h : a.Continues a')
include h

theorem location_eq : a'.round.location = a.round.location := by
  cases h <;> rfl

theorem text_eq : a'.round.text = a.round.text := by
  cases h <;> rfl

theorem targets_perm : a'.round.targets.Perm a.round.targets := by
  cases h with
  | refl | finished => exact .refl _
  | settled hc failure => exact Round.targets_settle hc failure

/-- An announcement that is over is not gone on with. -/
theorem regular {opened : List Connection} (ha : a.Regular opened) : a'.Regular opened where
  targets := List.Subset.trans h.targets_perm.subset ha.targets
  nodup := h.targets_perm.nodup_iff.mpr ha.nodup
  settled hover := by
    cases h with
    | refl => exact ha.settled hover
    | settled hc => exact absurd hc (by simp [ha.settled hover])
    | finished hdone => exact hdone

end Continues

/-- What one step can make of the announcements: they are those that were, one of them perhaps further on, and one that
begins. -/
inductive Advance (h : Hub) (as : List Announcement) : List Announcement → Prop where
  | same : Advance h as as
  | continued {k : Nat} {a a' : Announcement} (ha : as[k]? = some a) (hnext : a.Continues a') :
      Advance h as (as.set k a')
  | begun (location : LocationId) (text : String) :
      Advance h as (as ++ [{ round := { location, text, pending := h.members location } }])

namespace Advance

variable {hub : Hub} {as as' : List Announcement} (h : Advance hub as as') {k : Nat} {a a' : Announcement}
include h

/-- An announcement has been going on, or it begins. -/
theorem before (ha' : as'[k]? = some a') :
    (∃ a, as[k]? = some a ∧ a.Continues a') ∨
      ∃ location text, a' = { round := { location, text, pending := hub.members location } } := by
  cases h with
  | same => exact .inl ⟨a', ha', .refl⟩
  | @continued j a next ha hnext =>
    rcases getElem?_set_eq_some ha' with ⟨rfl, rfl⟩ | ⟨-, hold⟩
    · exact .inl ⟨a, ha, hnext⟩
    · exact .inl ⟨a', hold, .refl⟩
  | begun location text =>
    rcases getElem?_concat_eq_some ha' with ⟨-, rfl⟩ | ⟨-, hold⟩
    · exact .inr ⟨location, text, rfl⟩
    · exact .inl ⟨a', hold, .refl⟩

/-- No announcement is forgotten. -/
theorem after (ha : as[k]? = some a) : ∃ a', as'[k]? = some a' ∧ a.Continues a' := by
  obtain ⟨hk, -⟩ := List.getElem?_eq_some_iff.mp ha
  cases h with
  | same => exact ⟨a, ha, .refl⟩
  | @continued j before next hbefore hnext =>
    by_cases hj : j = k
    · subst hj
      rw [ha] at hbefore
      cases hbefore
      exact ⟨next, List.getElem?_set_self hk, hnext⟩
    · exact ⟨a, (List.getElem?_set_ne hj).trans ha, .refl⟩
  | begun location text => exact ⟨a, (List.getElem?_append_left hk).trans ha, .refl⟩

theorem length_le : as.length ≤ as'.length := by
  cases h with
  | same => exact Nat.le_refl _
  | continued => exact Nat.le_of_eq List.length_set.symm
  | begun => exact (List.prefix_append _ _).length_le

omit h in
/-- All announcements are in order if those were that were there before. -/
theorem regular {audience : Audience} (haudience : audience.Sound) (h : Advance audience.hub as as')
    (hregular : ∀ (k : Nat) a, as[k]? = some a → a.Regular audience.opened) (ha' : as'[k]? = some a') :
    a'.Regular audience.opened := by
  rcases h.before ha' with ⟨before, hbefore, hcontinues⟩ | ⟨location, text, rfl⟩
  · exact hcontinues.regular (hregular k before hbefore)
  · refine ⟨?_, ?_, by rintro ⟨⟩⟩
    · rw [Round.targets, List.map_nil, List.append_nil]
      exact haudience.subscribed location
    · rw [Round.targets, List.map_nil, List.append_nil]
      exact (haudience.tidy.names location).of_map

end Advance

end Announcement

/-- The engine, the reports that have been stored, the broadcasts, and the session with what it has asked. -/
structure Scene where
  engine : Engine Database
  /-- The connections that have been opened. -/
  opened : List Connection := []
  entries : List Entry := []
  announcements : List Announcement := []
  session : Option Session := none
  looks : List Look := []

namespace Scene

/-- What can happen. -/
inductive Event where
  /-- The subscriber arrives. -/
  | join (name : String) (location : LocationId) (capacity : Nat)
  /-- Its session takes a step. -/
  | proceed (now : Instant) (works : Bool)
  /-- The subscriber goes away. -/
  | leave
  | store (now : Instant) (location : LocationId) (report : Report)
  /-- The announcement of a report begins. -/
  | announce (i : Nat)
  /-- Something else is broadcast. -/
  | publish (location : LocationId) (text : String)
  | send (k : Nat) (c : Connection)
  | fail (k : Nat) (c : Connection) (why : SendFailure)
  | finish (k : Nat)
  /-- Something happens to other subscribers. -/
  | meanwhile (e : Audience.Event)
  | registry (r : Registry)
  | database (now : Instant) (outage : Option DatabaseError) (failures : List (Statement × DatabaseError))

variable {s s' : Scene} {e : Event}

/-- Nobody is subscribed yet. -/
def start (registry : Registry) (database : Database) : Scene :=
  { engine := { registry, outside := database } }

def audience (s : Scene) : Audience :=
  { timeline := s.engine.timeline, opened := s.opened }

def hub (s : Scene) : Hub :=
  s.engine.timeline.hub

def onHub (s : Scene) (f : Hub → Hub) : Scene :=
  { s with engine := { s.engine with timeline := s.engine.timeline.onHub f } }

def withAudience (s : Scene) (a : Audience) : Scene :=
  { s with engine := { s.engine with timeline := a.timeline }, opened := a.opened }

def join (s : Scene) (name : String) (location : LocationId) (capacity : Nat) : Scene :=
  let (session, engine) := (Session.start name location capacity).run s.engine
  { s with engine, opened := s.opened ++ [session.connection], session := some session }

/-- The session does something. -/
def act (s : Scene) (session : Session) (action : StateM (Engine Database) Session) : Scene :=
  let (next, engine) := action.run s.engine
  { s with
    engine
    session := some next
    looks := s.looks ++ (session.look? s.engine s.entries.length).toList }

def store (s : Scene) (now : Instant) (location : LocationId) (report : Report) : Scene :=
  match (report.store DatabaseSource.backend now location).run.run s.engine with
  | (.error _, engine) => { s with engine }
  | (.ok receipt, engine) =>
    { s with
      engine
      entries := s.entries ++
        [{ location, receipt, position := (s.engine.outside.times receipt.source receipt.key).length }] }

/-- A broadcast begins by noting who is subscribed. -/
def begin (s : Scene) (location : LocationId) (text : String) : Scene :=
  { s with announcements := s.announcements ++ [{ round := { location, text, pending := s.hub.members location } }] }

def send (s : Scene) (k : Nat) (c : Connection) (a : Announcement) : Scene :=
  if c ∈ a.round.pending ∧ (s.hub.channelOf c).offerOutcome = .queued then
    { s.onHub (·.modifyChannel c.channel (·.offer (.text a.round.text))) with
      announcements := s.announcements.set k { a with round := a.round.settle c none } }
  else s

def fail (s : Scene) (k : Nat) (c : Connection) (why : SendFailure) (a : Announcement) : Scene :=
  if c ∈ a.round.pending then
    { s with announcements := s.announcements.set k { a with round := a.round.settle c (some why) } }
  else s

/-- A broadcast that has dealt with everybody removes those that failed. -/
def finish (s : Scene) (k : Nat) (a : Announcement) : Scene :=
  if a.round.pending = [] ∧ a.isOver = false then
    { s.onHub (·.prune a.round.location a.round.dead) with
      announcements := s.announcements.set k { a with isOver := true } }
  else s

def step (s : Scene) : Event → Scene
  | .join name location capacity => if s.session.isSome then s else s.join name location capacity
  | .proceed now works =>
    match s.session with
    | none => s
    | some session => s.act session (session.step DatabaseSource.surroundings now works)
  | .leave =>
    match s.session with
    | some session =>
      match session.stage with
      | .forwarding => s.act session session.leave
      | _ => s
    | none => s
  | .store now location report => s.store now location report
  | .announce i =>
    match s.entries[i]? with
    | some entry =>
      if entry.announcement.isSome then s
      else { s.begin entry.location entry.text with
        entries := s.entries.set i { entry with announcement := some s.announcements.length } }
    | none => s
  | .publish location text => s.begin location text
  | .send k c => s.announcements[k]?.elim s (s.send k c)
  | .fail k c why => s.announcements[k]?.elim s (s.fail k c why)
  | .finish k => s.announcements[k]?.elim s (s.finish k)
  | .meanwhile e => if ∀ session ∈ s.session, e.Leaves session.connection then s.withAudience (s.audience.step e) else s
  | .registry r => { s with engine := { s.engine with registry := r } }
  | .database now outage failures =>
    { s with engine := { s.engine with outside := { s.engine.outside with now, outage, failures } } }

/-- A course of events. -/
def run (s : Scene) (events : List Event) : Scene :=
  events.foldl step s

theorem run_concat (s : Scene) (events : List Event) (e : Event) : s.run (events ++ [e]) = (s.run events).step e :=
  List.foldl_concat step s e events

/-- The ways in which an event can go. -/
inductive Stepped (s : Scene) : Event → Scene → Prop where
  /-- There is nobody to do it, or nothing to be done. -/
  | idle (e : Event) : Stepped s e s
  | joined {name : String} {location : LocationId} {capacity : Nat} (hnone : s.session = none) :
      Stepped s (.join name location capacity) (s.join name location capacity)
  | acted {e : Event} {session next : Session} {engine : Engine Database} (hsession : s.session = some session)
      (hstep : session.Stepped s.engine next engine) :
      Stepped s e { s with
        engine
        session := some next
        looks := s.looks ++ (session.look? s.engine s.entries.length).toList }
  | stored {now : Instant} {location : LocationId} {report : Report} {receipt : Receipt} {outside : Database}
      (hstored : StoredBy location s.engine (.ok receipt) { s.engine with outside }) :
      Stepped s (.store now location report) { s with
        engine := { s.engine with outside }
        entries := s.entries ++
          [{ location, receipt, position := (s.engine.outside.times receipt.source receipt.key).length }] }
  /-- Nothing but the tables changes, and they lose no reading. -/
  | changed {e : Event} (outside : Database) (registry : Registry) (hgrows : s.engine.outside.Grows outside) :
      Stepped s e { s with engine := { s.engine with outside, registry } }
  | announced {i : Nat} {entry : Entry} (hentry : s.entries[i]? = some entry) (hnone : entry.announcement = none) :
      Stepped s (.announce i) { s.begin entry.location entry.text with
        entries := s.entries.set i { entry with announcement := some s.announcements.length } }
  | published (location : LocationId) (text : String) : Stepped s (.publish location text) (s.begin location text)
  | sent {k : Nat} {c : Connection} {a : Announcement} (ha : s.announcements[k]? = some a) (hc : c ∈ a.round.pending)
      (hqueued : (s.hub.channelOf c).offerOutcome = .queued) :
      Stepped s (.send k c) { s.onHub (·.modifyChannel c.channel (·.offer (.text a.round.text))) with
        announcements := s.announcements.set k { a with round := a.round.settle c none } }
  | failed {k : Nat} {c : Connection} {why : SendFailure} {a : Announcement} (ha : s.announcements[k]? = some a)
      (hc : c ∈ a.round.pending) :
      Stepped s (.fail k c why)
        { s with announcements := s.announcements.set k { a with round := a.round.settle c (some why) } }
  | finished {k : Nat} {a : Announcement} (ha : s.announcements[k]? = some a) (hdone : a.round.pending = []) :
      Stepped s (.finish k) { s.onHub (·.prune a.round.location a.round.dead) with
        announcements := s.announcements.set k { a with isOver := true } }
  | meanwhile {e : Audience.Event} (hleaves : ∀ session, s.session = some session → e.Leaves session.connection) :
      Stepped s (.meanwhile e) (s.withAudience (s.audience.step e))

theorem stepped_store (s : Scene) (now : Instant) (location : LocationId) (report : Report) :
    Stepped s (.store now location report) (s.store now location report) := by
  have hstored := storedBy_store now location report s.engine
  rw [store]
  rcases hrun : (report.store DatabaseSource.backend now location).run.run s.engine with ⟨error | receipt, engine⟩
  · rw [hrun] at hstored
    obtain ⟨outside, rfl⟩ := hstored.tables
    exact .changed outside s.engine.registry hstored.grows
  · rw [hrun] at hstored
    obtain ⟨outside, rfl⟩ := hstored.tables
    exact .stored hstored

theorem stepped_elim {k : Nat} {act : Announcement → Scene}
    (h : ∀ a, s.announcements[k]? = some a → Stepped s e (act a)) : Stepped s e (s.announcements[k]?.elim s act) := by
  cases ha : s.announcements[k]? with
  | none => exact .idle e
  | some a => exact h a ha

theorem stepped (s : Scene) (e : Event) : Stepped s e (s.step e) := by
  cases e with
  | join name location capacity =>
    rw [step]
    split
    · exact .idle _
    · next hnone => exact .joined (by simpa using hnone)
  | proceed now works =>
    rw [step]
    split
    · exact .idle _
    · next session hsession => exact .acted hsession (session.stepped_step s.engine now works)
  | leave =>
    rw [step]
    split
    · next session hsession =>
      split
      · next hstage => exact .acted hsession (Session.stepped_leave hstage)
      · exact .idle _
    · exact .idle _
  | store now location report => exact s.stepped_store now location report
  | announce i =>
    rw [step]
    split
    · next entry hentry =>
      split
      · exact .idle _
      · next hnone => exact .announced hentry (by simpa using hnone)
    · exact .idle _
  | publish location text => exact .published location text
  | send k c =>
    refine stepped_elim fun a ha => ?_
    rw [send]
    split
    · next h => exact .sent ha h.1 h.2
    · exact .idle _
  | fail k c why =>
    refine stepped_elim fun a ha => ?_
    rw [fail]
    split
    · next hc => exact .failed ha hc
    · exact .idle _
  | finish k =>
    refine stepped_elim fun a ha => ?_
    rw [finish]
    split
    · next h => exact .finished ha h.1
    · exact .idle _
  | meanwhile e =>
    rw [step]
    split
    · next hleaves => exact .meanwhile hleaves
    · exact .idle _
  | registry r => exact .changed s.engine.outside r (.refl _)
  | database now outage failures =>
    exact .changed _ s.engine.registry ⟨List.prefix_rfl, List.prefix_rfl, List.prefix_rfl⟩

namespace Stepped

variable (h : Stepped s e s') {k : Nat} {a a' : Announcement}
include h

theorem advance : Announcement.Advance s.hub s.announcements s'.announcements := by
  cases h with
  | announced | published => exact .begun _ _
  | sent ha hc => exact .continued ha (.settled hc none)
  | failed ha hc => exact .continued ha (.settled hc _)
  | finished ha hdone => exact .continued ha (.finished hdone)
  | _ => exact .same

/-- An announcement has been going on, or it begins. -/
theorem announcement_before (ha' : s'.announcements[k]? = some a') :
    (∃ a, s.announcements[k]? = some a ∧ a.Continues a') ∨
      ∃ location text, a' = { round := { location, text, pending := s.hub.members location } } :=
  h.advance.before ha'

/-- No announcement is forgotten. -/
theorem announcement_after (ha : s.announcements[k]? = some a) :
    ∃ a', s'.announcements[k]? = some a' ∧ a.Continues a' :=
  h.advance.after ha

theorem opened_subset : s.opened ⊆ s'.opened := by
  cases h with
  | joined => exact List.subset_append_left _ _
  | @meanwhile e => exact s.audience.opened_subset_step e
  | _ => exact List.Subset.refl _

theorem grows : s.engine.outside.Grows s'.engine.outside := by
  cases h with
  | acted _ hstep => exact hstep.outside_eq ▸ .refl _
  | stored hstored => exact hstored.grows
  | changed _ _ hgrows => exact hgrows
  | _ => exact .refl _

end Stepped

/-- Where a report comes from: it was there, or it has just been announced, or just been stored. -/
inductive Comes (s s' : Scene) (e : Event) (i : Nat) (entry' : Entry) : Prop where
  | kept (hentry : s.entries[i]? = some entry')
  | announced {entry : Entry} (he : e = .announce i) (hentry : s.entries[i]? = some entry)
      (heq : entry' = { entry with announcement := some s.announcements.length })
      (hadded : s'.announcements = s.announcements ++
        [{ round := { location := entry.location, text := entry.text, pending := s.hub.members entry.location } }])
      (hengine : s'.engine = s.engine)
  | stored (hi : i = s.entries.length) (hnone : entry'.announcement = none)
      (hstored : StoredBy entry'.location s.engine (.ok entry'.receipt) s'.engine)
      (hposition : entry'.position = (s.engine.outside.times entry'.source entry'.key).length)

namespace Stepped

variable (h : Stepped s e s')
include h

/-- There are no other reports. -/
theorem comes {i : Nat} {entry' : Entry} (hentry : s'.entries[i]? = some entry') : Comes s s' e i entry' := by
  cases h with
  | stored hstored =>
    rcases getElem?_concat_eq_some hentry with ⟨hi, rfl⟩ | ⟨-, hold⟩
    · exact .stored hi rfl hstored rfl
    · exact .kept hold
  | announced hfound =>
    rcases getElem?_set_eq_some hentry with ⟨rfl, rfl⟩ | ⟨-, hold⟩
    · exact .announced rfl hfound rfl rfl rfl
    · exact .kept hold
  | _ => exact .kept hentry

theorem length_entries_le : s.entries.length ≤ s'.entries.length := by
  cases h with
  | stored => exact (List.prefix_append _ _).length_le
  | announced => exact Nat.le_of_eq List.length_set.symm
  | _ => exact Nat.le_refl _

end Stepped

/-- Subscribers and announcements are in order. -/
structure Sound (s : Scene) : Prop where
  audience : s.audience.Sound
  announcements : ∀ (k : Nat) a, s.announcements[k]? = some a → a.Regular s.opened
  session : ∀ session, s.session = some session → session.connection ∈ s.opened
  unasked : s.session = none → s.looks = []
  announced : ∀ (i : Nat) entry k, s.entries[i]? = some entry → entry.announcement = some k →
    ∃ a, s.announcements[k]? = some a ∧ a.round.location = entry.location ∧ a.round.text = entry.text
  distinct : ∀ (i j : Nat) entry other k, s.entries[i]? = some entry → s.entries[j]? = some other →
    entry.announcement = some k → other.announcement = some k → i = j

theorem sound_start (registry : Registry) (database : Database) : (start registry database).Sound where
  audience := .empty
  announcements _ _ h := by cases h
  session _ h := by cases h
  unasked _ := rfl
  announced _ _ _ h := by cases h
  distinct _ _ _ _ _ h := by cases h

namespace Sound

variable (hs : s.Sound)
include hs

theorem nodup_channels (location : LocationId) : ((s.hub.members location).map Connection.channel).Nodup :=
  hs.audience.nodup_channels location

theorem audience_acted {session next : Session} {engine : Engine Database} (hc : session.connection ∈ s.opened)
    (hstep : session.Stepped s.engine next engine) :
    ({ timeline := engine.timeline, opened := s.opened } : Audience).Sound := by
  cases hstep with
  | forwarded => exact hs.audience.takeFrames hc 1
  | @finished outlet t woken ht =>
    have hbefore : ({ s.audience with timeline := t } : Audience).Sound := by
      rcases ht with rfl | rfl
      · exact hs.audience
      · exact hs.audience.takeFrames hc 1
    exact (hbefore.step (.unsubscribe session.connection.id session.location)).hangUp hc
  | _ => exact hs.audience

theorem audience_stepped (h : Stepped s e s') : s'.audience.Sound := by
  cases h with
  | @joined name location capacity hnone =>
    have hconnected := hs.audience.connect name capacity
    exact hconnected.subscribe (c := ⟨name, s.hub.opened⟩) List.mem_concat_self location
  | acted hsession hstep => exact hs.audience_acted (hs.session _ hsession) hstep
  | sent ha hc =>
    exact hs.audience.modifyChannel ((hs.announcements _ _ ha).targets (List.mem_append_left _ hc)) _
  | @finished k a ha =>
    exact hs.audience.lessened (f := (·.prune a.round.location a.round.dead))
      (hs.audience.tidy.prune a.round.location a.round.dead) (s.hub.lessened_prune a.round.location a.round.dead)
  | @meanwhile e => exact hs.audience.step e
  | _ => exact hs.audience

theorem session_stepped (h : Stepped s e s') {session : Session} (hsession : s'.session = some session) :
    session.connection ∈ s'.opened := by
  cases h with
  | joined =>
    cases hsession
    exact List.mem_concat_self
  | acted hbefore hstep =>
    cases hsession
    rw [hstep.connection_eq]
    exact hs.session _ hbefore
  | @meanwhile e => exact s.audience.opened_subset_step e (hs.session _ hsession)
  | _ => exact hs.session _ hsession

theorem announced_stepped (h : Stepped s e s') {i k : Nat} {entry : Entry} (hentry : s'.entries[i]? = some entry)
    (hk : entry.announcement = some k) :
    ∃ a, s'.announcements[k]? = some a ∧ a.round.location = entry.location ∧ a.round.text = entry.text := by
  cases h.comes hentry with
  | kept hold =>
    obtain ⟨a, ha, hlocation, htext⟩ := hs.announced i entry k hold hk
    obtain ⟨a', ha', hcontinues⟩ := h.announcement_after ha
    exact ⟨a', ha', hcontinues.location_eq.trans hlocation, hcontinues.text_eq.trans htext⟩
  | announced _ hold heq hadded =>
    subst heq
    cases hk
    rw [hadded]
    exact ⟨_, List.getElem?_concat_length, rfl, rfl⟩
  | stored _ hnone =>
    rw [hnone] at hk
    cases hk

theorem distinct_stepped (h : Stepped s e s') {i j k : Nat} {entry other : Entry}
    (hentry : s'.entries[i]? = some entry) (hother : s'.entries[j]? = some other) (hk : entry.announcement = some k)
    (hk' : other.announcement = some k) : i = j := by
  -- an announcement that begins has a number of its own
  have hfresh {i : Nat} {entry : Entry} (hold : s.entries[i]? = some entry) :
      entry.announcement ≠ some s.announcements.length := by
    intro hnew
    obtain ⟨a, ha, -⟩ := hs.announced i entry _ hold hnew
    exact absurd (List.getElem?_eq_some_iff.mp ha).1 (Nat.lt_irrefl _)
  cases h.comes hentry with
  | kept hold =>
    cases h.comes hother with
    | kept hold' => exact hs.distinct i j entry other k hold hold' hk hk'
    | announced _ _ heq' =>
      subst heq'
      cases hk'
      exact absurd hk (hfresh hold)
    | stored _ hnone' =>
      rw [hnone'] at hk'
      cases hk'
  | announced he hold heq =>
    subst heq
    cases hk
    cases h.comes hother with
    | kept hold' => exact absurd hk' (hfresh hold')
    | announced he' =>
      rw [he] at he'
      exact Event.announce.inj he'
    | stored _ hnone' =>
      rw [hnone'] at hk'
      cases hk'
  | stored _ hnone =>
    rw [hnone] at hk
    cases hk

theorem announcements_stepped (h : Stepped s e s') {k : Nat} {a : Announcement} (ha : s'.announcements[k]? = some a) :
    a.Regular s'.opened :=
  (Announcement.Advance.regular hs.audience h.advance hs.announcements ha).mono h.opened_subset

theorem unasked_stepped (h : Stepped s e s') (hnone : s'.session = none) : s'.looks = [] := by
  cases h with
  | joined | acted => cases hnone
  | _ => exact hs.unasked hnone

theorem step (e : Event) : (s.step e).Sound where
  audience := hs.audience_stepped (s.stepped e)
  announcements _ _ ha := hs.announcements_stepped (s.stepped e) ha
  session _ hsession := hs.session_stepped (s.stepped e) hsession
  unasked hnone := hs.unasked_stepped (s.stepped e) hnone
  announced _ _ _ hentry hk := hs.announced_stepped (s.stepped e) hentry hk
  distinct _ _ _ _ _ hentry hother hk hk' := hs.distinct_stepped (s.stepped e) hentry hother hk hk'

end Sound

/-- Whatever happens, subscribers and announcements are in order. -/
theorem sound_after (registry : Registry) (database : Database) (events : List Event) :
    ((start registry database).run events).Sound := by
  induction events using List.reverseRecOn with
  | nil => exact sound_start registry database
  | append_singleton events e ih =>
    rw [run_concat]
    exact ih.step e

/-- What is told of the tables is so. -/
structure Recorded (s : Scene) : Prop where
  stored : ∀ (i : Nat) entry, s.entries[i]? = some entry → entry.receipt.IsIn s.engine.outside
  position : ∀ (i : Nat) entry, s.entries[i]? = some entry →
    (s.engine.outside.times entry.source entry.key)[entry.position]? = some entry.observedAt
  observedAt : ∀ (i : Nat) entry, s.entries[i]? = some entry → entry.observedAt = entry.receipt.time
  looks : ∀ look ∈ s.looks, look.stored ≤ s.entries.length ∧ look.database.Grows s.engine.outside
  /-- Who looks sees what has been stored. -/
  seen : ∀ look ∈ s.looks, ∀ (i : Nat) entry, i < look.stored → s.entries[i]? = some entry →
    entry.receipt.IsIn look.database
  /-- What is stored later comes behind all that has been seen. -/
  unseen : ∀ look ∈ s.looks, ∀ (i : Nat) entry, look.stored ≤ i → s.entries[i]? = some entry →
    (look.database.times entry.source entry.key).length ≤ entry.position

theorem recorded_start (registry : Registry) (database : Database) : (start registry database).Recorded where
  stored _ _ h := by cases h
  position _ _ h := by cases h
  observedAt _ _ h := by cases h
  looks _ h := absurd h List.not_mem_nil
  seen _ h := absurd h List.not_mem_nil
  unseen _ h := absurd h List.not_mem_nil

/-- A question has been asked, or it is asked now. -/
theorem Stepped.mem_looks (h : Stepped s e s') {look : Look} (hlook : look ∈ s'.looks) :
    look ∈ s.looks ∨
      (look.stored = s.entries.length ∧ look.database = s.engine.outside) ∧ s'.entries = s.entries := by
  cases h with
  | @acted e session next engine hsession hstep =>
    rcases List.mem_append.mp hlook with hold | hnew
    · exact .inl hold
    · exact .inr ⟨Session.eq_of_look? (Option.mem_toList.mp hnew), rfl⟩
  | _ => exact .inl hlook

namespace Recorded

variable (hr : s.Recorded)
include hr

theorem stored_stepped (h : Stepped s e s') {i : Nat} {entry : Entry} (hentry : s'.entries[i]? = some entry) :
    entry.receipt.IsIn s'.engine.outside := by
  cases h.comes hentry with
  | kept hold => exact (hr.stored i entry hold).grows h.grows
  | announced _ hold heq =>
    subst heq
    exact (hr.stored i _ hold).grows h.grows
  | stored _ _ hstored => exact (hstored.stored _ rfl).isIn

theorem position_stepped (h : Stepped s e s') {i : Nat} {entry : Entry} (hentry : s'.entries[i]? = some entry) :
    (s'.engine.outside.times entry.source entry.key)[entry.position]? = some entry.observedAt := by
  have hkept {times times' : List Instant} {p : Nat} {t : Instant} (hinit : times <+: times')
      (ht : times[p]? = some t) : times'[p]? = some t := by
    obtain ⟨hp, rfl⟩ := List.getElem?_eq_some_iff.mp ht
    rw [hinit.getElem hp]
    exact List.getElem?_eq_getElem _
  cases h.comes hentry with
  | kept hold => exact hkept (h.grows.times _ _) (hr.position i entry hold)
  | @announced before _ hold heq =>
    subst heq
    exact hkept (h.grows.times _ _) (hr.position i before hold)
  | stored _ _ hstored hposition =>
    rw [Entry.observedAt, hstored.observedAt _ rfl, hposition]
    show (s'.engine.outside.times entry.receipt.source entry.receipt.key)[_]? = _
    rw [(hstored.stored _ rfl).times]
    exact List.getElem?_concat_length

theorem observedAt_stepped (h : Stepped s e s') {i : Nat} {entry : Entry} (hentry : s'.entries[i]? = some entry) :
    entry.observedAt = entry.receipt.time := by
  cases h.comes hentry with
  | kept hold => exact hr.observedAt i entry hold
  | @announced before _ hold heq =>
    subst heq
    exact hr.observedAt i before hold
  | stored _ _ hstored => exact hstored.observedAt _ rfl

theorem looks_stepped (h : Stepped s e s') {look : Look} (hlook : look ∈ s'.looks) :
    look.stored ≤ s'.entries.length ∧ look.database.Grows s'.engine.outside := by
  rcases h.mem_looks hlook with hold | ⟨⟨hstored, hdatabase⟩, -⟩
  · obtain ⟨hlength, hgrows⟩ := hr.looks look hold
    exact ⟨Nat.le_trans hlength h.length_entries_le, hgrows.trans h.grows⟩
  · rw [hstored, hdatabase]
    exact ⟨h.length_entries_le, h.grows⟩

theorem seen_stepped (h : Stepped s e s') {look : Look} (hlook : look ∈ s'.looks) {i : Nat} {entry : Entry}
    (hi : i < look.stored) (hentry : s'.entries[i]? = some entry) : entry.receipt.IsIn look.database := by
  rcases h.mem_looks hlook with hold | ⟨⟨-, hdatabase⟩, hentries⟩
  · cases h.comes hentry with
    | kept hbefore => exact hr.seen look hold i entry hi hbefore
    | @announced before _ hbefore heq =>
      subst heq
      exact hr.seen look hold i before hi hbefore
    | stored hlast =>
      have hlength := (hr.looks look hold).1
      omega
  · rw [hdatabase]
    rw [hentries] at hentry
    exact hr.stored i entry hentry

theorem unseen_stepped (h : Stepped s e s') {look : Look} (hlook : look ∈ s'.looks) {i : Nat} {entry : Entry}
    (hi : look.stored ≤ i) (hentry : s'.entries[i]? = some entry) :
    (look.database.times entry.source entry.key).length ≤ entry.position := by
  rcases h.mem_looks hlook with hold | ⟨⟨hstored, -⟩, hentries⟩
  · cases h.comes hentry with
    | kept hbefore => exact hr.unseen look hold i entry hi hbefore
    | @announced before _ hbefore heq =>
      subst heq
      exact hr.unseen look hold i before hi hbefore
    | stored _ _ _ hposition =>
      rw [hposition]
      exact ((hr.looks look hold).2.times _ _).length_le
  · -- a question that is asked now sees everything
    rw [hentries] at hentry
    have hlt := (List.getElem?_eq_some_iff.mp hentry).1
    omega

theorem step (e : Event) : (s.step e).Recorded where
  stored _ _ hentry := hr.stored_stepped (s.stepped e) hentry
  position _ _ hentry := hr.position_stepped (s.stepped e) hentry
  observedAt _ _ hentry := hr.observedAt_stepped (s.stepped e) hentry
  looks _ hlook := hr.looks_stepped (s.stepped e) hlook
  seen _ hlook _ _ hi hentry := hr.seen_stepped (s.stepped e) hlook hi hentry
  unseen _ hlook _ _ hi hentry := hr.unseen_stepped (s.stepped e) hlook hi hentry

end Recorded

/-- Whatever happens, the tables hold what has been stored, and whoever has looked has seen what was stored by then. -/
theorem recorded_after (registry : Registry) (database : Database) (events : List Event) :
    ((start registry database).run events).Recorded := by
  induction events using List.reverseRecOn with
  | nil => exact recorded_start registry database
  | append_singleton events e ih =>
    rw [run_concat]
    exact ih.step e

end Scene

end Waterway
