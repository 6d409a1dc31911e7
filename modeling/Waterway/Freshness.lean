import Waterway.Observation.Basic

/-!
# Freshness

How usable a stored reading is at a given instant: fresh within the grace period of its feed, stale
within the longer warning period, expired after that.

## Main definitions

- `Freshness` — the three grades
- `Window` — the two periods of one feed
- `Window.ofMinutes`, `Window.ofMinutes?` — the window of two periods in minutes
- `Window.classify` — the grade of a reading
- `Windows` — the periods of all feeds

## Design notes

Both periods include their ends, and a reading from the future is fresh. A period is any number of
nanoseconds. Where it is given in minutes, a signed 64-bit count of milliseconds must be able to hold it.
-/

namespace Waterway

/-- How usable a stored reading is. -/
inductive Freshness where
  | fresh
  | stale
  | expired
deriving Repr, DecidableEq

namespace Freshness

def name : Freshness → String
  | .fresh => "fresh"
  | .stale => "stale"
  | .expired => "expired"

/-- The place of a grade in the order from good to bad. -/
def rank : Freshness → Nat
  | .fresh => 0
  | .stale => 1
  | .expired => 2

end Freshness

/-- A minute, in nanoseconds. -/
def minute : Int :=
  60000000000

/-- The most minutes that a period may have, either way. -/
def longestPeriod : Nat :=
  (Nat.pow 2 63 - 1) / 60000

/-- The two periods of one feed, in nanoseconds. -/
structure Window where
  grace : Int
  warning : Int
deriving Repr, DecidableEq

namespace Window

/-- The window of two periods in minutes. -/
def ofMinutes (grace warning : Int) : Window :=
  ⟨grace * minute, warning * minute⟩

/-- The window of two periods in minutes, unless one of them is too long. -/
def ofMinutes? (grace warning : Int) : Option Window :=
  if grace.natAbs ≤ longestPeriod ∧ warning.natAbs ≤ longestPeriod then some (ofMinutes grace warning) else none

/-- The grade of a reading at the instant `now`. -/
def classify (w : Window) (observedAt now : Instant) : Freshness :=
  let age := now.since observedAt
  if age ≤ w.grace then .fresh
  else if age ≤ w.warning then .stale
  else .expired

/-- Whether a reading may enter the state of a site at start-up. -/
def admits (w : Window) (observedAt now : Instant) : Bool :=
  w.classify observedAt now = .fresh

end Window

/-- The windows of the three feeds. -/
structure Windows where
  waterLevel : Window := .ofMinutes 4 8
  blockage : Window := .ofMinutes 5 10
  weather : Window := .ofMinutes 65 130
deriving Repr, DecidableEq

def Windows.of (w : Windows) : Source → Window
  | .waterLevel => w.waterLevel
  | .blockage => w.blockage
  | .weather => w.weather

end Waterway
