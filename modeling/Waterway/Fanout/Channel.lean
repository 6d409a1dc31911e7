/-!
# Channels to subscribers

The bounded queue of frames between the program and one subscriber, with the two ways in which it ends:
the receiving side goes away, or the program evicts the subscriber.

## Main definitions

- `Frame` — what is queued: a text, a ping, or the request to close
- `Channel` — the queue
- `Channel.offer` — an attempt to queue a frame without waiting

## Design notes

Eviction is a signal of its own, seen by the receiving side even when the queue has no room for a
`close` frame. It is never taken back, and neither is the end of the receiving side.
-/

namespace Waterway

/-- A frame for one subscriber. -/
inductive Frame where
  | text (s : String)
  | ping
  | close
deriving Repr, DecidableEq, Inhabited

/-- Why a frame was not delivered. -/
inductive SendFailure where
  | closed
  | timedOut
deriving Repr, DecidableEq

def SendFailure.message : SendFailure → String
  | .closed => "connection closed"
  | .timedOut => "send timed out"

/-- What became of an attempt to queue a frame without waiting. -/
inductive Offer where
  | queued
  | full
  | closed
deriving Repr, DecidableEq

/-- The queue to one subscriber. -/
structure Channel where
  /-- How many frames the queue holds. -/
  capacity : Nat
  /-- The frames that wait to be received, the oldest first. -/
  frames : List Frame := []
  /-- Whether somebody still receives. -/
  receiving : Bool := true
  /-- Whether the program has evicted the subscriber. -/
  evicted : Bool := false
deriving Repr, DecidableEq, Inhabited

namespace Channel

/-- A new queue, which has room for one frame at least. -/
def create (capacity : Nat) : Channel :=
  { capacity := max 1 capacity }

def hasRoom (c : Channel) : Bool :=
  c.frames.length < c.capacity

/-- Whether the connection is usable. -/
def isOpen (c : Channel) : Bool :=
  c.receiving && !c.evicted

/-- What becomes of an attempt to queue a frame. -/
def offerOutcome (c : Channel) : Offer :=
  if !c.receiving then .closed
  else if c.hasRoom then .queued
  else .full

/-- Queues a frame if somebody receives and there is room. -/
def offer (c : Channel) (f : Frame) : Channel :=
  if c.offerOutcome = .queued then { c with frames := c.frames ++ [f] } else c

/-- Evicts the subscriber: a request to close is queued if there is room, and the signal is given. -/
def evict (c : Channel) : Channel :=
  { c.offer .close with evicted := true }

/-- The receiving side goes away; frames still queued are lost. -/
def hangUp (c : Channel) : Channel :=
  { c with receiving := false, frames := [] }

/-- Takes at most `n` frames out of the queue. -/
def take (c : Channel) (n : Nat) : List Frame × Channel :=
  (c.frames.take n, { c with frames := c.frames.drop n })

end Channel

end Waterway
