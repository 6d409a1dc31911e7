import Waterway.Alert.Json
import Waterway.Freshness

/-!
# Envelopes

The messages that subscribers receive: what happened, how good the value is, a sentence, and the value.

## Main definitions

- `EventKind` — the four kinds of message
- `DeliveryStatus` — success, warning, error
- `Envelope` — a message
- `Envelope.forReading` — the message about a stored reading
- `Envelope.text` — the form in which it is sent

## Design notes

The field that holds the value is named for the kind of message. An absent value is sent as `null`.
-/

namespace Waterway

/-- The four kinds of message. -/
inductive EventKind where
  | sensorUpdate
  | blockageUpdate
  | weatherUpdate
  | fusionUpdate
deriving Repr, DecidableEq

namespace EventKind

def name : EventKind → String
  | .sensorUpdate => "sensor_update"
  | .blockageUpdate => "blockage_detection_update"
  | .weatherUpdate => "weather_update"
  | .fusionUpdate => "fusion_analysis_update"

def all : List EventKind :=
  [.sensorUpdate, .blockageUpdate, .weatherUpdate, .fusionUpdate]

/-- The field that holds the value. -/
def payloadKey : EventKind → String
  | .sensorUpdate => "sensor_reading"
  | .blockageUpdate => "blockage_status"
  | .weatherUpdate => "weather_condition"
  | .fusionUpdate => "fusion_analysis"

/-- The kind of message about a feed. -/
def ofSource : Source → EventKind
  | .waterLevel => .sensorUpdate
  | .blockage => .blockageUpdate
  | .weather => .weatherUpdate

/-- The sentence about a stale value. -/
def staleMessage : EventKind → String
  | .sensorUpdate => "Latest sensor data is stale."
  | .blockageUpdate => "Latest blockage detection is stale."
  | .weatherUpdate => "Latest weather data is stale."
  | .fusionUpdate => "Latest fusion analysis is stale."

/-- The sentence about a value that is missing. -/
def missingMessage : EventKind → String
  | .sensorUpdate => "No recent sensor data available."
  | .blockageUpdate => "No recent blockage detection data available."
  | .weatherUpdate => "No recent weather data available."
  | .fusionUpdate => "No fusion analysis available."

end EventKind

/-- How good the value of a message is. -/
inductive DeliveryStatus where
  /-- Present and current. -/
  | success
  /-- Present but stale. -/
  | warning
  /-- Absent. -/
  | error
deriving Repr, DecidableEq

namespace DeliveryStatus

def name : DeliveryStatus → String
  | .success => "success"
  | .warning => "warning"
  | .error => "error"

def all : List DeliveryStatus :=
  [.success, .warning, .error]

/-- The place of a status in the order from good to bad. -/
def rank : DeliveryStatus → Nat
  | .success => 0
  | .warning => 1
  | .error => 2

/-- The status of a value of a given freshness. -/
def ofFreshness : Freshness → DeliveryStatus
  | .fresh => .success
  | .stale => .warning
  | .expired => .error

end DeliveryStatus

/-- A message to subscribers. -/
structure Envelope where
  kind : EventKind
  status : DeliveryStatus
  message : String
  payload : Option Json

namespace Envelope

def messageOk : String :=
  "Retrieved successfully"

/-- A message with a current value. -/
def success (kind : EventKind) (payload : Json) : Envelope :=
  ⟨kind, .success, messageOk, some payload⟩

/-- The message that a value is missing. -/
def missing (kind : EventKind) : Envelope :=
  ⟨kind, .error, kind.missingMessage, none⟩

/-- The message about a stored reading of a given freshness. An expired reading counts as missing. -/
def forReading (kind : EventKind) (reading : Option (Freshness × Json)) : Envelope :=
  match reading with
  | some (.fresh, payload) => success kind payload
  | some (.stale, payload) => ⟨kind, .warning, kind.staleMessage, some payload⟩
  | some (.expired, _) | none => missing kind

def ofObservation (o : Observation Float) : Envelope :=
  success (.ofSource o.source) o.toJson

def ofAnalysis (a : Analysis Float) : Envelope :=
  success .fusionUpdate a.toJson

def toJson (e : Envelope) : Json :=
  Json.sorted <| .record [
    ("data", .record [
      ("status", .text e.status.name),
      ("message", .text e.message),
      (e.kind.payloadKey, e.payload.getD .null)]),
    ("type", .text e.kind.name)]

/-- The text that is sent. -/
def text (e : Envelope) : String :=
  e.toJson.print

end Envelope

end Waterway
