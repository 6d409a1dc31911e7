import Waterway.Http.Message
import Waterway.Ingest

/-!
# Reports as JSON

Reading what devices report out of the body of a request, and the JSON form of what they are answered.

## Main definitions

- `SensorReport.read`, `BlockageReport.read`, `WeatherReport.read` — the readers
- `Http.BodyFault` — why a body is not read
- `Http.readBody` — a body as a report
- `SensorReceipt.toJson`, `BlockageReceipt.toJson`, `WeatherReceipt.toJson` — the answers

## Design notes

A body is read from left to right, and the first thing that is wrong counts, be it in the text or in
what the text says. What follows the report is looked at last.
-/

namespace Waterway

open Json

section Readers

variable {δ : Type} [Document δ]

def SensorReport.read (d : δ) : Except ReadError SensorReport := do
  let fields ← readRecord "SensorReadingRequest"
    [.of "raw_distance_cm" readDouble, .of "timestamp" (readOptional readInstant)] d
  let distance ← required fields "raw_distance_cm" readDouble
  let timestamp ← optional fields "timestamp" readInstant
  .ok { distance, timestamp }

def BlockageReport.read (d : δ) : Except ReadError BlockageReport := do
  let fields ← readRecord "BlockageDetectionRequest"
    [.of "status" BlockageLevel.read, .of "confidence" readDouble, .of "image_path" readText,
     .of "timestamp" (readOptional readInstant)] d
  let level ← required fields "status" BlockageLevel.read
  let confidence ← required fields "confidence" readDouble
  let imagePath ← required fields "image_path" readText
  let timestamp ← optional fields "timestamp" readInstant
  .ok { level, confidence, imagePath, timestamp }

def WeatherReport.read (d : δ) : Except ReadError WeatherReport := do
  let fields ← readRecord "WeatherRequest"
    [.of "precipitation_mm" readDouble, .of "weather_code" readInt32] d
  let precipitation ← required fields "precipitation_mm" readDouble
  let code ← required fields "weather_code" readInt32
  .ok { precipitation, code }

end Readers

namespace Http

/-- Why a body is not read. -/
inductive BodyFault where
  /-- It is not declared as JSON. -/
  | mediaType
  | tooLarge
  | malformed
  /-- It does not have the shape asked for. -/
  | misfit
deriving Repr, DecidableEq

/-- The status of the response to a body that is not read. -/
def BodyFault.status : BodyFault → Nat
  | .mediaType => 415
  | .tooLarge => 413
  | .malformed => 400
  | .misfit => 422

/-- The most bytes that a body may have. -/
def bodyLimit : Nat :=
  2 * 1024 * 1024

/-- The body of a request as a report. -/
def readBody {α : Type} (read : Draft → Except ReadError α) (r : Request) : Except BodyFault α :=
  if !r.hasJsonBody then .error .mediaType
  else if bodyLimit < r.body.utf8ByteSize then .error .tooLarge
  else
    let (draft, trailing) := Draft.ofText r.body
    match read draft with
    | .error .malformed => .error .malformed
    | .error _ => .error .misfit
    | .ok report => if trailing then .error .malformed else .ok report

end Http

def SensorReceipt.toJson (r : SensorReceipt) : Json :=
  .record [("alert_level", .text r.alert.name), ("reading", r.reading.toJson),
    ("status", r.status.toJson)]

def BlockageReceipt.toJson (r : BlockageReceipt) : Json :=
  .record [("reading", r.reading.toJson), ("status", r.status.toJson)]

def WeatherReceipt.toJson (r : WeatherReceipt) : Json :=
  .record [("description", .text r.description), ("reading", r.reading.toJson),
    ("status", r.status.toJson)]

end Waterway
