import Waterway.Http.Endpoint
import Waterway.Http.Failure
import Waterway.Http.Origin
import Waterway.Http.Report
import Waterway.Text.Search

/-!
# The web interface

How requests are answered.

## Main definitions

- `Service` — the world behind the interface, and the pages that may call it
- `Request.asksForSocket` — whether a request asks for a socket
- `Service.answer` — the response of an endpoint
- `Service.handle` — the response to a request, with all its headers
- `RequestId` — the identifier that a response carries

## Design notes

What a path names is looked at first, then the body. A request for a socket is granted by the
connection that it comes in on; over one that cannot become a socket it is refused.
-/

namespace Waterway.Http

/-- The identifier that a response carries. -/
inductive RequestId where
  | absent
  | echoed (id : String)
  | generated
deriving Repr, DecidableEq

/-- A response with its identifier. -/
structure Reply where
  response : Response
  id : RequestId

/-- The world behind the interface, and the pages that may call it. -/
structure Service (σ : Type) where
  backend : Backend σ
  origins : OriginPolicy

/-- The version that the server states. -/
def version : String :=
  "0.1.0"

/-- Whether the first header with a name has a value that passes a test, letters being lower case. -/
def Request.headerIs (r : Request) (name : String) (test : String → Bool) : Bool :=
  ((header? name r.headers).map Text.lowerAscii).any test

/-- Whether a request asks for a socket. -/
def Request.asksForSocket (r : Request) : Bool :=
  r.headerIs "connection" (fun v => Text.occursIn "upgrade".toList v.toList) &&
  r.headerIs "upgrade" (· == "websocket") &&
  (header? "sec-websocket-key" r.headers).isSome &&
  r.headerIs "sec-websocket-version" (· == "13")

/-- The refusal of a socket to a request whose connection cannot become one. -/
def Request.socketRefusal (r : Request) : Response :=
  .refusal (if r.method != "GET" then 405 else if r.asksForSocket then 426 else 400)

/-- The response that carries some data. -/
def Response.data (status : Nat) (value : Json) : Response :=
  .json status (.record [("data", value)])

namespace Service

variable {σ : Type}

/-- Whether the database answers. -/
def databaseAnswers (s : Service σ) : StateM (Engine σ) Bool := do
  return (← Engine.consult (s.backend.query Query.health)).isOk

def health (s : Service σ) : StateM (Engine σ) Response := do
  let healthy ← s.databaseAnswers
  let e ← get
  return .json 200 <| .record
    [("db_healthy", .bool healthy), ("locations", .integer e.registry.lanes.length),
     ("status", .text (if healthy then "ok" else "degraded")),
     ("subscribers", .integer e.timeline.hub.connectionCount), ("version", .text version)]

def analysis (location : LocationId) : StateM (Engine σ) Response := do
  match (← get).registry.analysis location with
  | .ok a => return .data 200 (.ofOption Analysis.toJson a)
  | .error e => return (ServiceError.engine e).response

/-- Reads the body of a request, takes in what it reports, and answers with what came of it. -/
def takeIn {α β : Type} (r : Request) (read : Json.Draft → Except Json.ReadError α)
    (ingest : α → Intake σ β) (encode : β → Json) : StateM (Engine σ) Response := do
  match readBody read r with
  | .error fault => return .refusal fault.status
  | .ok report =>
    match ← (ingest report).run with
    | .ok receipt => return .data 201 (encode receipt)
    | .error e => return e.response

/-- Does something about the location that a part of a path names. -/
def withLocation (segment : String) (act : LocationId → StateM (Engine σ) Response) :
    StateM (Engine σ) Response :=
  match locationOfSegment segment with
  | some location => act location
  | none => return .refusal 400

/-- The response of an endpoint to a request with one of its methods. -/
def answer (s : Service σ) (now : Instant) (r : Request) : Endpoint → StateM (Engine σ) Response
  | .health => s.health
  | .updates _ => return r.socketRefusal
  | .analysis segment => withLocation segment analysis
  | .sensorReadings segment => withLocation segment fun location =>
    takeIn r SensorReport.read (ingestSensor s.backend now location) SensorReceipt.toJson
  | .blockageReadings segment => withLocation segment fun location =>
    takeIn r BlockageReport.read (ingestBlockage s.backend now location) BlockageReceipt.toJson
  | .weather segment => withLocation segment fun location =>
    takeIn r WeatherReport.read (ingestWeather s.backend location) WeatherReceipt.toJson

/-- The response to a request, before the headers that every response has. -/
def route (s : Service σ) (now : Instant) (r : Request) : StateM (Engine σ) Response :=
  match Endpoint.ofPath r.path with
  | none => return { status := if OriginPolicy.isInquiry r then 200 else 404 }
  | some endpoint =>
    if OriginPolicy.isInquiry r then return { status := 200, headers := [endpoint.access.header] }
    else if endpoint.access.admits r.method then s.answer now r endpoint
    else return { status := 405, headers := [endpoint.access.header] }

/-- The identifier of the response to a request. -/
def idOf (r : Request) : RequestId :=
  if OriginPolicy.isInquiry r then .absent
  else ((header? "x-request-id" r.headers).map .echoed).getD .generated

/-- A response without its content, if the request asks only for its headers. -/
def trimmed (r : Request) (response : Response) : Response :=
  if r.method == "HEAD" then { response with content := .none } else response

/-- The response to a request that comes in at the instant `now`. -/
def handle (s : Service σ) (now : Instant) (r : Request) : StateM (Engine σ) Reply := do
  let response := trimmed r (← s.route now r)
  return { response := { response with headers := response.headers ++ s.origins.headers r }
           id := idOf r }

end Service

end Waterway.Http
