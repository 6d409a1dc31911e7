import Waterway.Alert.Site

/-!
# The worker of a location

A worker takes the observations of one location one at a time, judges the site, and shows the outcome
to readers.

## Main definitions

- `Worker` — the worker's own state of the site, and the one that readers see
- `Worker.handle` — what it does with one observation

## Design notes

When the thresholds cannot be had, the observation stays with the worker and neither readers nor
subscribers notice anything; it takes effect with the next judgement that succeeds.
-/

namespace Waterway

/-- The worker of a location. -/
structure Worker where
  /-- The worker's own state of the site. -/
  site : Site Float
  /-- The state that readers see. -/
  shown : Site Float

/-- What comes of one observation. -/
structure Handled where
  /-- The answer to whoever waits for the judgement. -/
  answer : Except EngineError Judgement
  /-- The analysis that goes to the subscribers. -/
  publication : Option (Analysis Float)

namespace Worker

def start (site : Site Float) : Worker :=
  ⟨site, site⟩

/-- Takes an observation in and judges the site by the thresholds, if they can be had. -/
def handle (w : Worker) (o : Observation Float) (thresholds : Except EngineError Thresholds) :
    Worker × Handled :=
  let site := w.site.apply o
  match thresholds with
  | .error e => ({ w with site }, ⟨.error e, none⟩)
  | .ok t =>
    let judged := site.recompute t
    (⟨judged, judged⟩, ⟨.ok judged.judgement, judged.analysis⟩)

end Worker

end Waterway
