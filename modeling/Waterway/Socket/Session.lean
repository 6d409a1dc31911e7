import Waterway.Reading.Snapshot
import Waterway.Registry.Engine
import Waterway.Socket.Outlet

/-!
# Sessions of subscribers

What happens to a subscriber whose socket has been opened: it is subscribed, the latest stored readings
are loaded and written, then its queue is forwarded until one side leaves.

## Main definitions

- `Session` — a subscriber's socket and how far it has come
- `Session.start` — a session that is subscribed and has done nothing else
- `Session.step` — the next thing that a session does
- `Session.leave` — the subscriber goes away

## Design notes

A session is subscribed before it loads anything, so a reading that is announced while it loads waits
in its queue and is written after the snapshot. Each step asks the world at most one question, so that
anything may happen between two of them.
-/

namespace Waterway

/-- How far a session has come. -/
inductive Stage where
  /-- It is subscribed. -/
  | subscribed
  /-- It asks for the latest readings of the feeds, which are judged by a given instant. -/
  | loading (devices : Devices) (now : Instant) (remaining : List Source) (loaded : List Envelope)
  /-- It writes the snapshot. -/
  | greeting (remaining : List Envelope)
  /-- It forwards its queue. -/
  | forwarding
  | ended

/-- A subscriber's socket and how far it has come. -/
structure Session where
  connection : Connection
  location : LocationId
  outlet : Outlet := {}
  stage : Stage := .subscribed

namespace Session

variable {σ : Type}

/-- A session that is subscribed and has done nothing else. -/
def start (name : String) (location : LocationId) (queue : Nat) : StateM (Engine σ) Session := do
  let connection ← Engine.onTimeline fun t =>
    let (connection, hub) := t.hub.connect name queue
    (connection, { t with hub := hub.subscribe connection location })
  return { connection, location }

/-- Ends a session: it is unsubscribed, and nobody receives from its queue any more. -/
def finish (s : Session) : StateM (Engine σ) Session := do
  Engine.onTimeline fun t =>
    ((), (t.onHub (·.unsubscribe s.connection.id s.location)).hangUp s.connection.channel)
  Engine.wakeDelivering
  return { s with stage := .ended }

/-- Writes a frame, and ends the session if that was the last one. -/
def write (s : Session) (f : Frame) (works : Bool) (next : Stage) : StateM (Engine σ) Session := do
  let outlet := s.outlet.write f works
  if outlet.isReady then return { s with outlet, stage := next }
  else finish { s with outlet }

/-- Forwards the next frame of the queue, if there is something to forward. -/
def forward (s : Session) (works : Bool) : StateM (Engine σ) Session := do
  let t := (← get).timeline
  let channel := t.hub.channelOf s.connection
  match channel.next (t.hasSender [] s.connection.channel) with
  | none => return s
  | some f =>
    unless channel.evicted do
      let _ ← Engine.onTimeline (·.takeFrames s.connection.channel 1)
      Engine.wakeDelivering
    s.write f works .forwarding

/-- The next thing that a session does, at the instant `now` and with a socket that works or fails. -/
def step (world : Surroundings σ) (now : Instant) (works : Bool) (s : Session) :
    StateM (Engine σ) Session := do
  match s.stage with
  | .subscribed =>
    let devices := ((← get).registry.devices s.location).toOption.getD (.unmapped s.location)
    return { s with stage := .loading devices now Source.all [] }
  | .loading devices instant (source :: remaining) loaded =>
    let windows := (← get).registry.settings.windows
    let answer ← Engine.consult (world.store.latest devices source)
    let envelope := snapshotEnvelope windows source instant answer
    return { s with stage := .loading devices instant remaining (loaded ++ [envelope]) }
  | .loading _ _ [] loaded => return { s with stage := .greeting loaded }
  | .greeting (envelope :: remaining) => s.write (.text envelope.text) works (.greeting remaining)
  | .greeting [] => return { s with stage := .forwarding }
  | .forwarding => s.forward works
  | .ended => return s

/-- The subscriber goes away, which is noticed once its queue is forwarded. -/
def leave (s : Session) : StateM (Engine σ) Session := do
  match s.stage with
  | .forwarding => s.finish
  | _ => return s

end Session

end Waterway
