import Waterway.Fanout.Channel

/-!
# Forwarding to a socket

How the frames of a subscriber's queue are written to its socket.

## Main definitions

- `Channel.next` — the frame that is to be written next
- `Outlet` — what has been written to a socket
- `Outlet.write` — an attempt to write a frame

## Design notes

Eviction goes before whatever is still queued. A request to close is the last thing that is written,
and so is anything that cannot be written.
-/

namespace Waterway

/-- The frame that is to be written next: the request to close when the subscriber has been evicted or
nobody is left who could send, else the oldest frame of the queue. -/
def Channel.next (c : Channel) (hasSender : Bool) : Option Frame :=
  if c.evicted then some .close
  else
    match c.frames with
    | f :: _ => some f
    | [] => if hasSender then none else some .close

/-- How it stands with a socket. -/
inductive OutletState where
  | ready
  /-- The request to close has been written. -/
  | closed
  /-- The socket has failed. -/
  | broken
deriving Repr, DecidableEq

/-- What has been written to a socket. -/
structure Outlet where
  written : List Frame := []
  state : OutletState := .ready
deriving Repr, DecidableEq

namespace Outlet

def isReady (o : Outlet) : Bool :=
  o.state = .ready

/-- An attempt to write a frame to a socket that works or fails. -/
def write (o : Outlet) (f : Frame) (works : Bool) : Outlet :=
  if !o.isReady then o
  else if works then
    { written := o.written ++ [f], state := if f = .close then .closed else .ready }
  else { o with state := .broken }

end Outlet

end Waterway
