import Waterway.Envelope
import Waterway.Reading.Store

/-!
# The snapshot for a new subscriber

One envelope per feed about its latest stored reading.

## Main definitions

- `Windows.reading` — a stored reading with its freshness
- `snapshotEnvelope` — the envelope about one feed
- `snapshot` — the envelopes about all feeds

## Design notes

A store that fails for a feed counts as having no reading of it, so there is always one envelope per
feed.
-/

namespace Waterway

variable {m : Type → Type} [Monad m]

/-- A stored reading with its freshness, given the answer of the store. -/
def Windows.reading (windows : Windows) (source : Source) (now : Instant)
    (answer : StoreAnswer (Observation Float)) : Option (Freshness × Json) :=
  match answer with
  | .ok (some o) => some ((windows.of source).classify o.observedAt now, o.toJson)
  | _ => none

/-- The envelope about one feed, given the answer of the store. -/
def snapshotEnvelope (windows : Windows) (source : Source) (now : Instant)
    (answer : StoreAnswer (Observation Float)) : Envelope :=
  .forReading (.ofSource source) (windows.reading source now answer)

/-- The envelopes about all feeds of a site, in order. -/
def snapshot (store : ReadingStore m) (devices : Devices) (windows : Windows) (now : Instant) :
    m (List Envelope) :=
  Source.all.mapM fun source => do
    return snapshotEnvelope windows source now (← store.latest devices source)

end Waterway
