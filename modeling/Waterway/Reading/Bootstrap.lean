import Waterway.Alert.Site
import Waterway.Reading.Store

/-!
# The state of a site at start-up

Each feed starts from its latest stored reading if that is fresh, and empty otherwise; then the site is
judged once.

## Main definitions

- `Windows.admitted` — what a feed starts from
- `loadEvidence` — what all feeds start from
- `loadSite` — the state at start-up

## Design notes

A store that fails for a feed leaves that feed empty. A failure to get the thresholds is the only one
that makes the start-up of a site fail.
-/

namespace Waterway

variable {m : Type → Type} [Monad m]

/-- The reading that a feed starts from, given the answer of the store. -/
def Windows.admitted (windows : Windows) (source : Source) (now : Instant)
    (answer : StoreAnswer (Observation Float)) : Option (Observation Float) :=
  match answer with
  | .ok (some o) => if (windows.of source).admits o.observedAt now then some o else none
  | _ => none

/-- Asks for the readings of the given feeds, in order, and takes in those that are admitted. -/
def loadEvidence (store : ReadingStore m) (devices : Devices) (windows : Windows) (now : Instant) :
    List Source → Evidence Float → m (Evidence Float)
  | [], e => pure e
  | source :: rest, e => do
    let answer ← store.latest devices source
    match windows.admitted source now answer with
    | some o => loadEvidence store devices windows now rest (e.put o)
    | none => loadEvidence store devices windows now rest e

/-- The state of a site at start-up. -/
def loadSite (store : ReadingStore m) (thresholds : m (Except EngineError Thresholds))
    (devices : Devices) (windows : Windows) (now : Instant) : m (Except EngineError (Site Float)) := do
  let evidence ← loadEvidence store devices windows now Source.all {}
  match ← thresholds with
  | .error e => return .error e
  | .ok t => return .ok (Site.recompute { evidence } t)

end Waterway
