import Waterway.Decimal.Quantity
import Waterway.Observation.Basic

/-!
# Weather codes

Labels for the weather interpretation codes of the feed, and a short description of an amount of
precipitation.

## Main definitions

- `conditionLabels` — ranges of codes with their labels
- `conditionOf` — the label of a code
- `describePrecipitation` — the description of an amount
- `Weather.ofObservation` — the status for an observation of the feed
-/

namespace Waterway

open Decimal

/-- Ranges of codes, both ends included, with their labels. -/
def conditionLabels : List (Int × Int × String) :=
  [(0, 0, "Sunny"), (1, 1, "Mainly Clear"), (2, 3, "Cloudy"), (45, 48, "Foggy"), (51, 57, "Drizzle"),
   (61, 67, "Rain"), (71, 77, "Snow"), (80, 82, "Showers"), (85, 86, "Snow Showers"),
   (95, 99, "Thunderstorm")]

def conditionOf (code : Int) : String :=
  match conditionLabels.find? fun (low, high, _) => low ≤ code && code ≤ high with
  | some (_, _, label) => label
  | none => "Unknown"

variable {α : Type} [Quantity α]

/-- The description of an hourly amount of precipitation in millimetres. -/
def describePrecipitation (mm : α) : String :=
  if mm ≤ (0.0 : α) then "No rainfall detected"
  else if mm ≤ (2.5 : α) then "Light precipitation"
  else if mm ≤ (10.0 : α) then "Moderate rainfall intensity"
  else if mm ≤ (50.0 : α) then "Heavy rainfall detected"
  else "Extreme rainfall conditions"

/-- The status for an observation of the weather feed. -/
def Weather.ofObservation (mm : α) (code : Int) (observedAt : Instant) : Weather α :=
  { precipitation := mm, condition := conditionOf code, observedAt }

end Waterway
