import Waterway.Proofs.Fanout.Delivery
import Waterway.Proofs.Socket.Scene

/-!
# A board of announcements

Broadcasts in pieces, each under the number of its beginning, with a record of whose queue got which text and of what
was taken out of the queues.

## Main definitions

- `Board` — an audience, the announcements that have begun, and the record
- `Board.Event`, `Board.Stepped` — what can happen, and the ways in which it can go
- `Board.fanout` — the broadcasts under way

## Main statements

- `Board.stepped` — there are no other ways
- `Board.Stepped.advance`, `Board.Stepped.announces`, `Board.Stepped.isOver` — nothing is taken back
- `Board.exists_rank` — an announcement that is not over has its place among the broadcasts under way

## Design notes

Announcements keep their numbers when they are over, whereas broadcasts under way are counted anew. Deliveries are
noted with the number of the announcement, since its text may be that of another one.
-/

namespace Waterway

namespace Audience

/-- What a receiver takes out of its queue. -/
def taken (a : Audience) : Event → List (Connection × Frame)
  | .take c n => if c ∈ a.opened then (a.timeline.takeFrames c.channel n).1.map (c, ·) else []
  | _ => []

/-- Who is subscribed where. -/
def subscription (a : Audience) : Event → List (LocationId × Connection)
  | .subscribe c location => if c ∈ a.opened then [(location, c)] else []
  | _ => []

theorem opened_of_mem_taken {a : Audience} {e : Event} {entry : Connection × Frame} (h : entry ∈ a.taken e) :
    entry.1 ∈ a.opened := by
  cases e with
  | take c n =>
    rw [taken] at h
    split at h
    · next hc =>
      obtain ⟨frame, -, rfl⟩ := List.mem_map.mp h
      exact hc
    · exact absurd h List.not_mem_nil
  | _ => exact absurd h List.not_mem_nil

/-- What comes out of a queue is what its receiver takes. -/
theorem Sound.under_taken {a : Audience} (hs : a.Sound) {c : Connection} (hc : c ∈ a.opened) (e : Event) :
    Keyed.under c (a.taken e) = received c.channel a e := by
  cases e with
  | take other n =>
    by_cases hother : other ∈ a.opened
    · by_cases heq : other = c
      · subst heq
        rw [taken, if_pos hother, received, if_pos ⟨hother, rfl⟩, Keyed.under_map_self]
      · have hne : other.channel ≠ c.channel := fun h => heq (hs.eq_of_channel_eq hother hc h)
        rw [taken, if_pos hother, received, if_neg fun h => hne h.2, Keyed.under_map_of_ne heq]
    · rw [taken, if_neg hother, received, if_neg fun h => hother h.1]
      rfl
  | _ => rfl

end Audience

/-- An audience, the announcements that have begun, and what has been noted of them. -/
structure Board where
  audience : Audience := {}
  announcements : List Announcement := []
  /-- Whose queue got the text of which announcement, in order. -/
  posted : List (Connection × Nat) := []
  /-- What receivers took out of their queues, in order. -/
  heard : List (Connection × Frame) := []
  /-- Who has been subscribed where, in order. -/
  subscribed : List (LocationId × Connection) := []

namespace Board

/-- What can happen. -/
inductive Event where
  /-- An announcement begins by noting who is subscribed. -/
  | begin (location : LocationId) (text : String)
  | send (k : Nat) (c : Connection)
  | fail (k : Nat) (c : Connection) (why : SendFailure)
  /-- An announcement that has dealt with everybody removes those that failed. -/
  | finish (k : Nat)
  /-- Something happens to the subscribers between the pieces. -/
  | meanwhile (e : Audience.Event)

variable {b b' : Board} {e : Event} {j k : Nat} {c : Connection} {a : Announcement} {location : LocationId}

def hub (b : Board) : Hub :=
  b.audience.hub

def onHub (b : Board) (f : Hub → Hub) : Board :=
  { b with audience := { b.audience with timeline := b.audience.timeline.onHub f } }

/-- The announcements whose texts went into the queue of a connection, in order. -/
def postedTo (b : Board) (c : Connection) : List Nat :=
  Keyed.under c b.posted

/-- What the receiver of a connection has got, in order. -/
def heardBy (b : Board) (c : Connection) : List Frame :=
  Keyed.under c b.heard

/-- Who has been subscribed to a location, each time anew. -/
def subscribers (b : Board) (location : LocationId) : List Connection :=
  Keyed.under location b.subscribed

def text? (b : Board) (k : Nat) : Option String :=
  b.announcements[k]?.map (·.round.text)

/-- Whom an announcement is for. -/
def targets (b : Board) (k : Nat) : List Connection :=
  b.announcements[k]?.elim [] (·.round.targets)

/-- Everybody has been dealt with, and those that failed have been removed. -/
def isOver (b : Board) (k : Nat) : Bool :=
  b.announcements[k]?.any (·.isOver)

/-- How it went for those that an announcement has dealt with. -/
def outcomes (b : Board) (k : Nat) : List (Connection × Option SendFailure) :=
  b.announcements[k]?.elim [] (·.round.settled)

/-- An announcement has begun at a location, with a text. -/
def Announces (b : Board) (k : Nat) (location : LocationId) (text : String) : Prop :=
  ∃ a, b.announcements[k]? = some a ∧ a.round.location = location ∧ a.round.text = text

/-- The texts that went into the queue of a connection, in order. -/
def textsTo (b : Board) (c : Connection) : List String :=
  (b.postedTo c).filterMap b.text?

def begin (b : Board) (location : LocationId) (text : String) : Board :=
  { b with announcements := b.announcements ++ [{ round := { location, text, pending := b.hub.members location } }] }

def send (b : Board) (k : Nat) (c : Connection) (a : Announcement) : Board :=
  if c ∈ a.round.pending ∧ (b.hub.channelOf c).offerOutcome = .queued then
    { b.onHub (·.modifyChannel c.channel (·.offer (.text a.round.text))) with
      announcements := b.announcements.set k { a with round := a.round.settle c none }
      posted := b.posted ++ [(c, k)] }
  else b

def fail (b : Board) (k : Nat) (c : Connection) (why : SendFailure) (a : Announcement) : Board :=
  if c ∈ a.round.pending then
    { b with announcements := b.announcements.set k { a with round := a.round.settle c (some why) } }
  else b

def finish (b : Board) (k : Nat) (a : Announcement) : Board :=
  if a.round.pending = [] ∧ a.isOver = false then
    { b.onHub (·.prune a.round.location a.round.dead) with
      announcements := b.announcements.set k { a with isOver := true } }
  else b

def withAudience (b : Board) (e : Audience.Event) : Board :=
  { b with
    audience := b.audience.step e
    heard := b.heard ++ b.audience.taken e
    subscribed := b.subscribed ++ b.audience.subscription e }

def step (b : Board) : Event → Board
  | .begin location text => b.begin location text
  | .send k c => b.announcements[k]?.elim b (b.send k c)
  | .fail k c why => b.announcements[k]?.elim b (b.fail k c why)
  | .finish k => b.announcements[k]?.elim b (b.finish k)
  | .meanwhile (.broadcast ..) => b
  | .meanwhile e => b.withAudience e

/-- The ways in which an event can go. -/
inductive Stepped (b : Board) : Event → Board → Prop where
  /-- There is no such announcement, or it is not at that point. -/
  | idle (e : Event) : Stepped b e b
  | begun (location : LocationId) (text : String) : Stepped b (.begin location text) (b.begin location text)
  | sent {k : Nat} {c : Connection} {a : Announcement} (ha : b.announcements[k]? = some a) (hc : c ∈ a.round.pending)
      (hqueued : (b.hub.channelOf c).offerOutcome = .queued) :
      Stepped b (.send k c) { b.onHub (·.modifyChannel c.channel (·.offer (.text a.round.text))) with
        announcements := b.announcements.set k { a with round := a.round.settle c none }
        posted := b.posted ++ [(c, k)] }
  | failed {k : Nat} {c : Connection} {why : SendFailure} {a : Announcement} (ha : b.announcements[k]? = some a)
      (hc : c ∈ a.round.pending) :
      Stepped b (.fail k c why)
        { b with announcements := b.announcements.set k { a with round := a.round.settle c (some why) } }
  | finished {k : Nat} {a : Announcement} (ha : b.announcements[k]? = some a) (hdone : a.round.pending = [])
      (hopen : a.isOver = false) :
      Stepped b (.finish k) { b.onHub (·.prune a.round.location a.round.dead) with
        announcements := b.announcements.set k { a with isOver := true } }
  | meanwhile {e : Audience.Event} (hpieces : ∀ location text timeout, e ≠ .broadcast location text timeout) :
      Stepped b (.meanwhile e) (b.withAudience e)

theorem outcomes_begin (b : Board) (location : LocationId) (text : String) (k : Nat) :
    (b.begin location text).outcomes k = b.outcomes k := by
  rcases Nat.lt_trichotomy k b.announcements.length with hlt | rfl | hgt
  · rw [outcomes, begin, List.getElem?_append_left hlt]
    rfl
  · simp [outcomes, begin]
  · rw [outcomes, outcomes, begin, List.getElem?_eq_none (by simp; omega), List.getElem?_eq_none (by omega)]

theorem outcomes_set {a' : Announcement} (ha : b.announcements[j]? = some a)
    (hset : b'.announcements = b.announcements.set j a') (k : Nat) :
    b'.outcomes k = if k = j then a'.round.settled else b.outcomes k := by
  rw [outcomes, hset]
  split
  · next hk =>
    rw [hk, List.getElem?_set_self (List.getElem?_eq_some_iff.mp ha).1]
    rfl
  · next hk =>
    rw [List.getElem?_set_ne (Ne.symm hk)]
    rfl

theorem stepped_elim {act : Announcement → Board} (h : ∀ a, b.announcements[k]? = some a → Stepped b e (act a)) :
    Stepped b e (b.announcements[k]?.elim b act) := by
  cases ha : b.announcements[k]? with
  | none => exact .idle e
  | some a => exact h a ha

theorem stepped (b : Board) (e : Event) : Stepped b e (b.step e) := by
  cases e with
  | begin location text => exact .begun location text
  | send k c =>
    refine stepped_elim fun a ha => ?_
    rw [send]
    split
    · next h => exact .sent ha h.1 h.2
    · exact .idle _
  | fail k c why =>
    refine stepped_elim fun a ha => ?_
    rw [fail]
    split
    · next hc => exact .failed ha hc
    · exact .idle _
  | finish k =>
    refine stepped_elim fun a ha => ?_
    rw [finish]
    split
    · next h => exact .finished ha h.1 h.2
    · exact .idle _
  | meanwhile e =>
    cases e with
    | broadcast location text timeout => exact .idle _
    | _ => exact .meanwhile fun _ _ _ h => nomatch h

namespace Stepped

variable (h : Stepped b e b')
include h

theorem advance : Announcement.Advance b.hub b.announcements b'.announcements := by
  cases h with
  | idle | meanwhile => exact .same
  | begun location text => exact .begun location text
  | sent ha hc => exact .continued ha (.settled hc none)
  | failed ha hc => exact .continued ha (.settled hc _)
  | finished ha hdone => exact .continued ha (.finished hdone)

theorem opened_subset : b.audience.opened ⊆ b'.audience.opened := by
  cases h with
  | @meanwhile e => exact b.audience.opened_subset_step e
  | _ => exact List.Subset.refl _

/-- The list of subscribers only grows. -/
theorem subscribers_prefix (location : LocationId) : b.subscribers location <+: b'.subscribers location := by
  cases h with
  | meanwhile =>
    rw [subscribers, subscribers, withAudience, Keyed.under_append]
    exact List.prefix_append _ _
  | _ => exact List.prefix_rfl

theorem text?_eq (ha : b.announcements[k]? = some a) : b'.text? k = b.text? k := by
  obtain ⟨a', ha', hcontinues⟩ := h.advance.after ha
  rw [text?, text?, ha', ha, Option.map_some, Option.map_some, hcontinues.text_eq]

theorem targets_perm (hk : k < b.announcements.length) : (b'.targets k).Perm (b.targets k) := by
  obtain ⟨a', ha', hcontinues⟩ := h.advance.after (List.getElem?_eq_getElem hk)
  rw [targets, targets, ha', List.getElem?_eq_getElem hk]
  exact hcontinues.targets_perm

theorem announces {text : String} (hk : b.Announces k location text) : b'.Announces k location text := by
  obtain ⟨a, ha, hlocation, htext⟩ := hk
  obtain ⟨a', ha', hcontinues⟩ := h.advance.after ha
  exact ⟨a', ha', hcontinues.location_eq.trans hlocation, hcontinues.text_eq.trans htext⟩

/-- What is over stays over. -/
theorem isOver (hk : b.isOver k) : b'.isOver k := by
  cases ha : b.announcements[k]? with
  | none =>
    rw [Board.isOver, ha] at hk
    cases hk
  | some a =>
    obtain ⟨a', ha', hcontinues⟩ := h.advance.after ha
    rw [Board.isOver, ha, Option.any_some] at hk
    rw [Board.isOver, ha', Option.any_some]
    cases hcontinues with
    | refl | settled => exact hk
    | finished => rfl

end Stepped

theorem announces_begin (b : Board) (location : LocationId) (text : String) :
    (b.begin location text).Announces b.announcements.length location text :=
  ⟨_, List.getElem?_concat_length, rfl, rfl⟩

/-- An announcement that begins is for those who are subscribed. -/
theorem targets_begin (b : Board) (location : LocationId) (text : String) :
    (b.begin location text).targets b.announcements.length = b.hub.members location := by
  simp [targets, begin, Round.targets]

theorem Announces.text?_eq {text : String} (h : b.Announces k location text) : b.text? k = some text := by
  obtain ⟨a, ha, -, htext⟩ := h
  rw [text?, ha, Option.map_some, htext]

/-! ### The broadcasts under way -/

/-- What is left of some announcements for the broadcasts under way. -/
def underWay (announcements : List Announcement) : List Round :=
  (announcements.filter (!·.isOver)).map (·.round)

/-- The broadcasts under way. -/
def fanout (b : Board) : Fanout :=
  { audience := b.audience, rounds := underWay b.announcements }

/-- An announcement that is not over has its place among the broadcasts under way. -/
theorem exists_rank {announcements : List Announcement} (ha : announcements[k]? = some a) (hopen : a.isOver = false) :
    ∃ i, (underWay announcements)[i]? = some a.round ∧
      (∀ r, underWay (announcements.set k { a with round := r }) = (underWay announcements).set i r) ∧
      underWay (announcements.set k { a with isOver := true }) = (underWay announcements).eraseIdx i := by
  obtain ⟨hk, hget⟩ := List.getElem?_eq_some_iff.mp ha
  obtain ⟨earlier, later, rfl, rfl⟩ :
      ∃ earlier later, announcements = earlier ++ a :: later ∧ earlier.length = k := by
    refine ⟨announcements.take k, announcements.drop (k + 1), ?_, List.length_take_of_le (Nat.le_of_lt hk)⟩
    rw [← hget, List.getElem_cons_drop, List.take_append_drop]
  have hset (next : Announcement) : (earlier ++ a :: later).set earlier.length next = earlier ++ next :: later := by
    rw [List.set_append_right _ _ (Nat.le_refl _), Nat.sub_self, List.set_cons_zero]
  have hsplit (next : Announcement) (hnext : next.isOver = false) :
      underWay (earlier ++ next :: later) = underWay earlier ++ next.round :: underWay later := by
    simp [underWay, hnext]
  refine ⟨(underWay earlier).length, ?_, fun r => ?_, ?_⟩
  · rw [hsplit a hopen, List.getElem?_append_right (Nat.le_refl _), Nat.sub_self, List.getElem?_cons_zero]
  · rw [hset, hsplit { a with round := r } hopen, hsplit a hopen, List.set_append_right _ _ (Nat.le_refl _),
      Nat.sub_self, List.set_cons_zero]
  · rw [hset, hsplit a hopen, List.eraseIdx_append_of_length_le (Nat.le_refl _), Nat.sub_self]
    simp [underWay]

end Board

end Waterway
