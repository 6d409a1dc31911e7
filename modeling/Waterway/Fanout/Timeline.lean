import Waterway.Fanout.Hub

/-!
# Deliveries in time

Deliveries that wait for room in full queues, on a clock of milliseconds, beside everything else that
happens to the subscribers.

## Main definitions

- `Delivery` — a frame on its way to some connections, each of them a `Leg`
- `Timeline` — the hub, the clock, the deliveries under way and the heartbeats
- `Timeline.begin` — starts a delivery
- `Timeline.advanceTo` — moves the clock; what has fallen due happens
- `Timeline.takeFrames`, `Timeline.drain`, `Timeline.hangUp` — what receivers do
- `Timeline.await` — lets time pass until a delivery is finished

## Design notes

Whenever a queue gains room, the legs that wait for it are served in the order in which the deliveries
began. So a queue with waiting legs is always full, and nobody else can get in before them. A delivery
is finished when none of its legs waits; a broadcast then removes the connections that failed.
-/

namespace Waterway

/-- How a frame fares on its way to one connection. -/
inductive LegState where
  /-- It waits for room. -/
  | waiting
  | sent
  | failed (why : SendFailure)
deriving Repr, DecidableEq

/-- A frame on its way to one connection. -/
structure Leg where
  connection : Connection
  state : LegState
deriving Repr, DecidableEq

namespace Leg

/-- The leg that an offer leads to. -/
def ofOffer (c : Connection) : Offer → Leg
  | .queued => ⟨c, .sent⟩
  | .full => ⟨c, .waiting⟩
  | .closed => ⟨c, .failed .closed⟩

def isWaiting (l : Leg) : Bool :=
  l.state = .waiting

/-- The failure that the leg ended in. -/
def failure (l : Leg) : Option SendFailure :=
  match l.state with
  | .failed why => some why
  | _ => none

end Leg

/-- A frame on its way to some connections. -/
structure Delivery where
  id : Nat
  /-- The location of a broadcast; absent for a frame sent to a single connection. -/
  location : Option LocationId
  frame : Frame
  /-- When waiting ends. -/
  deadline : Nat
  legs : List Leg
deriving Repr

namespace Delivery

def isWaiting (d : Delivery) : Bool :=
  d.legs.any Leg.isWaiting

/-- How many connections received the frame and how many failed. -/
def report (d : Delivery) : DeliveryReport :=
  let failed := (d.legs.filterMap Leg.failure).length
  ⟨d.legs.length - failed, failed⟩

/-- The failure of the first leg, for a frame sent to a single connection. -/
def failure (d : Delivery) : Option SendFailure :=
  (d.legs.filterMap Leg.failure).head?

/-- The legs on a channel that wait give up for a reason. -/
def fail (d : Delivery) (applies : Leg → Bool) (why : SendFailure) : Delivery :=
  { d with legs := d.legs.map fun l =>
      if l.isWaiting && applies l then { l with state := .failed why } else l }

end Delivery

/-- The hub in time. -/
structure Timeline where
  hub : Hub := {}
  /-- Milliseconds since the start. -/
  clock : Nat := 0
  /-- The deliveries that wait, in the order in which they began. -/
  underWay : List Delivery := []
  finished : List Delivery := []
  /-- When each heartbeat falls due next. -/
  heartbeats : List Nat := []
  /-- How many deliveries there have been. -/
  begun : Nat := 0

namespace Timeline

/-- The milliseconds between two beats of a heartbeat. -/
def heartbeatInterval : Nat :=
  30000

def onHub (t : Timeline) (f : Hub → Hub) : Timeline :=
  { t with hub := f t.hub }

/-- Ends the deliveries none of whose legs waits. -/
def conclude (t : Timeline) : Timeline :=
  let (waiting, done) := t.underWay.partition Delivery.isWaiting
  let prune (h : Hub) (d : Delivery) : Hub :=
    match d.location with
    | some location => (h.finish location (d.legs.map fun l => (l.connection, l.failure))).2
    | none => h
  { t with
    hub := done.foldl prune t.hub
    underWay := waiting
    finished := t.finished ++ done }

/-- Waiting legs whose time is over give up. -/
def expire (t : Timeline) : Timeline :=
  { t with underWay := t.underWay.map fun d =>
      if d.deadline ≤ t.clock then d.fail (fun _ => true) .timedOut else d }

/-- Starts a delivery to some connections, giving its number. Full queues are waited for until the
deadline. -/
def begin (t : Timeline) (location : Option LocationId) (frame : Frame) (timeout : Nat)
    (legs : List (Connection × Offer)) (hub : Hub) : Nat × Timeline :=
  let d : Delivery :=
    { id := t.begun, location, frame, deadline := t.clock + timeout
      legs := legs.map fun (c, o) => .ofOffer c o }
  (d.id, ({ t with hub, underWay := t.underWay ++ [d], begun := t.begun + 1 } : Timeline).expire.conclude)

/-- Starts a broadcast of a text to the subscribers of a location. -/
def broadcast (t : Timeline) (location : LocationId) (text : String) (timeout : Nat) : Nat × Timeline :=
  let (offers, hub) := Hub.offerEach (.text text) (t.hub.members location) t.hub
  t.begin (some location) (.text text) timeout offers hub

/-- Starts to send a frame to one connection, whether it has been evicted or not. -/
def send (t : Timeline) (c : Connection) (frame : Frame) (timeout : Nat) : Nat × Timeline :=
  let outcome := (t.hub.channelOf c).offerOutcome
  t.begin none frame timeout [(c, outcome)] (t.hub.modifyChannel c.channel (·.offer frame))

/-- Serves the first waiting leg on a channel, if there is room. -/
def serveOne (channel : Nat) : List Delivery → Hub → List Delivery × Hub
  | [], h => ([], h)
  | d :: rest, h =>
    if (h.channel channel).hasRoom &&
        d.legs.any (fun l => l.isWaiting && l.connection.channel == channel) then
      ({ d with legs := d.legs.map fun l =>
          if l.isWaiting && l.connection.channel == channel then { l with state := .sent } else l }
        :: rest, h.modifyChannel channel (·.offer d.frame))
    else
      let (rest, h) := serveOne channel rest h
      (d :: rest, h)

/-- Serves waiting legs on a channel while there is room, `n` of them at most. -/
def serve (t : Timeline) (channel : Nat) : (n : Nat) → Timeline
  | 0 => t
  | n + 1 =>
    let (underWay, hub) := serveOne channel t.underWay t.hub
    serve { t with underWay, hub } channel n

/-- Takes at most `n` frames out of a queue; legs that waited for the room are served. -/
def takeFrames (t : Timeline) (channel n : Nat) : List Frame × Timeline :=
  let (frames, rest) := (t.hub.channel channel).take n
  (frames, ((t.onHub (·.modifyChannel channel fun _ => rest)).serve channel t.underWay.length).conclude)

/-- Takes all frames out of a queue; those that waited for the room come after them. -/
def drain (t : Timeline) (channel : Nat) : List Frame × Timeline :=
  t.takeFrames channel (t.hub.channel channel).frames.length

/-- The receiving side of a channel goes away; legs that wait for it fail. -/
def hangUp (t : Timeline) (channel : Nat) : Timeline :=
  let t := t.onHub (·.modifyChannel channel Channel.hangUp)
  conclude { t with underWay := t.underWay.map (·.fail (·.connection.channel == channel) .closed) }

/-- The beats that have fallen due: every connection is pinged as often as beats were missed. -/
def beat (t : Timeline) : Timeline :=
  let missed (due : Nat) := if due ≤ t.clock then (t.clock - due) / heartbeatInterval + 1 else 0
  let beats := t.heartbeats.foldl (fun n due => n + missed due) 0
  { t with
    hub := (List.range beats).foldl (fun h _ => h.pingAll) t.hub
    heartbeats := t.heartbeats.map fun due => due + missed due * heartbeatInterval }

/-- Moves the clock; what has fallen due happens. -/
def advanceTo (t : Timeline) (time : Nat) : Timeline :=
  ({ t with clock := time } : Timeline).expire.conclude.beat

/-- Starts a heartbeat, whose first beat is due at once. -/
def startHeartbeat (t : Timeline) : Timeline :=
  ({ t with heartbeats := t.heartbeats ++ [t.clock] } : Timeline).beat

/-- When the next thing falls due. -/
def nextDue (t : Timeline) : Option Nat :=
  (t.underWay.map Delivery.deadline ++ t.heartbeats).min?

/-- The delivery with a number, if it still waits. -/
def waiting? (t : Timeline) (id : Nat) : Option Delivery :=
  t.underWay.find? (·.id == id)

/-- The delivery with a number, if it is finished. -/
def finished? (t : Timeline) (id : Nat) : Option Delivery :=
  t.finished.find? (·.id == id)

theorem clock_advanceTo (t : Timeline) (time : Nat) : (t.advanceTo time).clock = time :=
  rfl

/-- Lets time pass, from one thing that falls due to the next, until a delivery is finished or its
deadline has come. -/
def awaitUntil (t : Timeline) (id deadline : Nat) : Timeline :=
  if h : (t.waiting? id).isSome ∧ t.clock < deadline then
    let next := (t.nextDue.map (min deadline)).getD deadline
    awaitUntil (t.advanceTo (max (t.clock + 1) next)) id deadline
  else t
termination_by deadline - t.clock
decreasing_by simp only [clock_advanceTo]; omega

/-- Lets time pass until a delivery is finished. -/
def await (t : Timeline) (id : Nat) : Timeline :=
  match t.waiting? id with
  | none => t
  | some d => t.awaitUntil id d.deadline

/-- Whether anybody could still put a frame into a channel: somebody who holds the connection, a
subscription, or a delivery under way. -/
def hasSender (t : Timeline) (held : List Connection) (channel : Nat) : Bool :=
  held.any (·.channel == channel) ||
  t.hub.subscriptions.any (fun (_, c) => c.channel == channel) ||
  t.underWay.any (fun d => d.legs.any (·.connection.channel == channel))

end Timeline

end Waterway
