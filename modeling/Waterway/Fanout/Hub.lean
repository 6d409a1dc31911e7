import Waterway.Error
import Waterway.Fanout.Channel
import Waterway.Keyed

/-!
# The subscribers of each location

Which connections are subscribed to which location, and the steps by which messages reach them.

## Main definitions

- `Connection` — the sending half of a subscriber's channel
- `Hub` — all channels, and the connections subscribed to each location
- `Hub.subscribe`, `Hub.unsubscribe`, `Hub.pingAll`, `Hub.shutdownAll` — steps that never wait
- `Hub.offerEach`, `Hub.finish` — the two halves of a broadcast
- `Hub.broadcast` — a broadcast during which nobody takes a frame out of a full queue

## Design notes

A location without subscribers is not listed. A broadcast offers its frame to the connections
subscribed at its start, waits for the full ones, and only then removes the ones that failed; a
connection that has since been replaced under its name is left alone, because it has another channel.
-/

namespace Waterway

/-- The sending half of a subscriber's channel. -/
structure Connection where
  /-- The name under which the subscriber is known. -/
  id : String
  /-- The number of its channel. -/
  channel : Nat
deriving Repr, DecidableEq, Inhabited

/-- The connections subscribed to each location. -/
structure Hub where
  /-- The channels by number. -/
  channels : List (Nat × Channel) := []
  /-- How many channels there are. -/
  opened : Nat := 0
  /-- The locations that have subscribers, with them. -/
  rooms : List (LocationId × List Connection) := []

structure DeliveryReport where
  delivered : Nat
  pruned : Nat
deriving Repr, DecidableEq, Inhabited

namespace Hub

/-- The channel with a number; one that has never been opened has room for one frame. -/
def channel (h : Hub) (n : Nat) : Channel :=
  (h.channels.lookup n).getD (.create 1)

def modifyChannel (h : Hub) (n : Nat) (f : Channel → Channel) : Hub :=
  { h with channels := Keyed.put n (f (h.channel n)) h.channels }

/-- The change reaches its channel and no other. -/
@[simp]
theorem channel_modifyChannel (h : Hub) (n k : Nat) (f : Channel → Channel) :
    (h.modifyChannel n f).channel k = if k = n then f (h.channel n) else h.channel k := by
  by_cases e : k = n
  · simp [channel, modifyChannel, e]
  · simp [channel, modifyChannel, e, Keyed.lookup_put_of_ne e]

/-- Opens a channel for a new connection. -/
def connect (h : Hub) (id : String) (capacity : Nat) : Connection × Hub :=
  (⟨id, h.opened⟩,
    { h.modifyChannel h.opened (fun _ => .create capacity) with opened := h.opened + 1 })

def members (h : Hub) (location : LocationId) : List Connection :=
  (h.rooms.lookup location).getD []

/-- Replaces the connections of a location; a location without any is dropped. -/
def setMembers (h : Hub) (location : LocationId) (members : List Connection) : Hub :=
  { h with rooms := if members.isEmpty then Keyed.erase location h.rooms
                    else Keyed.put location members h.rooms }

/-- Subscribes a connection, in place of one with the same name. -/
def subscribe (h : Hub) (c : Connection) (location : LocationId) : Hub :=
  h.setMembers location ((h.members location).filter (·.id != c.id) ++ [c])

/-- Removes the connection with a name from a location. -/
def unsubscribe (h : Hub) (id : String) (location : LocationId) : Hub :=
  h.setMembers location ((h.members location).filter (·.id != id))

def subscriberCount (h : Hub) (location : LocationId) : Nat :=
  (h.members location).length

def locationCount (h : Hub) : Nat :=
  h.rooms.length

/-- All subscriptions, location by location. -/
def subscriptions (h : Hub) : List (LocationId × Connection) :=
  h.rooms.flatMap fun (location, members) => members.map fun c => (location, c)

def connectionCount (h : Hub) : Nat :=
  h.subscriptions.length

def channelOf (h : Hub) (c : Connection) : Channel :=
  h.channel c.channel

/-- Removes one connection from a location and evicts it, if it is the one subscribed under its
name. -/
def pruneOne (h : Hub) (location : LocationId) (dead : Connection) : Hub :=
  if dead ∈ h.members location then
    (h.setMembers location ((h.members location).filter (· != dead))).modifyChannel dead.channel .evict
  else h

/-- Removes connections from a location and evicts them, those that are still subscribed. -/
def prune (h : Hub) (location : LocationId) (dead : List Connection) : Hub :=
  dead.foldl (fun h c => h.pruneOne location c) h

/-- What becomes of a frame offered to a connection. An evicted connection counts as closed. -/
def offerOutcome (h : Hub) (c : Connection) : Offer :=
  if (h.channelOf c).isOpen then (h.channelOf c).offerOutcome else .closed

/-- Offers a frame to connections, one after the other. -/
def offerEach (f : Frame) : List Connection → Hub → List (Connection × Offer) × Hub
  | [], h => ([], h)
  | c :: rest, h =>
    let outcome := h.offerOutcome c
    let h := if outcome = .queued then h.modifyChannel c.channel (·.offer f) else h
    let (outcomes, h) := offerEach f rest h
    ((c, outcome) :: outcomes, h)

/-- Ends a broadcast: the connections that failed are removed, and the others counted. -/
def finish (h : Hub) (location : LocationId) (outcomes : List (Connection × Option SendFailure)) :
    DeliveryReport × Hub :=
  let dead := (outcomes.filter (·.2.isSome)).map (·.1)
  (⟨outcomes.length - dead.length, dead.length⟩, h.prune location dead)

/-- The failure that an offer ends in when a full queue stays full. -/
def failureOf : Offer → Option SendFailure
  | .queued => none
  | .full => some .timedOut
  | .closed => some .closed

/-- A broadcast during which nobody takes a frame out of a full queue. -/
def broadcast (h : Hub) (location : LocationId) (text : String) : DeliveryReport × Hub :=
  let (outcomes, h) := offerEach (.text text) (h.members location) h
  h.finish location (outcomes.map fun (c, o) => (c, failureOf o))

def pingMembers : List Connection → Hub → Hub
  | [], h => h
  | c :: rest, h => pingMembers rest (h.modifyChannel c.channel (·.offer .ping))

/-- Pings every connection. A full queue is passed over; a connection whose receiver is gone is
removed. -/
def pingAll (h : Hub) : Hub :=
  let subscribed := h.subscriptions
  let gone := subscribed.filter fun (_, c) => !(h.channelOf c).receiving
  gone.foldl (fun h (location, c) => h.prune location [c]) (pingMembers (subscribed.map (·.2)) h)

/-- Asks every connection to close, evicts it, and forgets all subscriptions. -/
def shutdownAll (h : Hub) : Hub :=
  { h.subscriptions.foldl (fun h (_, c) => h.modifyChannel c.channel .evict) h with rooms := [] }

end Hub

end Waterway
