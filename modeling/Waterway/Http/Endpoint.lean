import Waterway.Decimal.Integer
import Waterway.Error
import Waterway.Http.Message
import Waterway.Text.Hexadecimal
import Waterway.Text.Split

/-!
# Endpoints

What can be asked of the server, and under which paths.

## Main definitions

- `Endpoint` — what a path stands for
- `Endpoint.ofPath` — the endpoint of a path
- `Endpoint.access`, `Access.admits` — the methods that an endpoint knows
- `locationOfSegment` — the location that a part of a path names

## Design notes

A path names a location by a part of it, which may hold any characters in percent-encoded form; whether
they are the digits of a number is looked at after the path has been found to be one.
-/

namespace Waterway.Http

/-- What a path stands for; `location` is the part of the path that names a location. -/
inductive Endpoint where
  /-- The state of the server. -/
  | health
  /-- The socket on which a location's updates arrive. -/
  | updates (location : String)
  /-- The present analysis of a location. -/
  | analysis (location : String)
  /-- Where sensors report. -/
  | sensorReadings (location : String)
  /-- Where the classifier reports. -/
  | blockageReadings (location : String)
  /-- Where the weather feed reports. -/
  | weather (location : String)
deriving Repr, DecidableEq

/-- The methods that an endpoint knows. -/
inductive Access where
  | read
  | write
deriving Repr, DecidableEq

namespace Endpoint

/-- The endpoint of a path. -/
def ofPath (path : List Char) : Option Endpoint :=
  match (Text.splitAt '/' path).map String.ofList with
  | ["", "health"] => some .health
  | ["", "api", "v1", "ws", "locations", id] => if id = "" then none else some (.updates id)
  | ["", "api", "v1", "locations", id, "fusion"] => some (.analysis id)
  | ["", "api", "v1", "locations", id, "sensor-readings"] => some (.sensorReadings id)
  | ["", "api", "v1", "locations", id, "blockage-detections"] => some (.blockageReadings id)
  | ["", "api", "v1", "locations", id, "weather"] => some (.weather id)
  | _ => none

def access : Endpoint → Access
  | .health | .updates _ | .analysis _ => .read
  | .sensorReadings _ | .blockageReadings _ | .weather _ => .write

end Endpoint

namespace Access

/-- Whether a method is one of reading or one of writing. -/
def admits : Access → String → Bool
  | .read, method => method == "GET" || method == "HEAD"
  | .write, method => method == "POST"

/-- The header that lists the methods. -/
def header : Access → Header
  | .read => ("allow", "GET,HEAD")
  | .write => ("allow", "POST")

end Access

/-- The bytes that percent-encoded characters stand for; a percent sign without two digits stands for
itself. -/
def percentDecoded : List Char → List UInt8
  | [] => []
  | '%' :: a :: b :: cs =>
    match Text.hexValue? a, Text.hexValue? b with
    | some x, some y => (16 * x + y).toUInt8 :: percentDecoded cs
    | _, _ => '%'.toUInt8 :: percentDecoded (a :: b :: cs)
  | c :: cs => (String.singleton c).toUTF8.toList ++ percentDecoded cs

/-- The location that a part of a path names: a whole number of 64 bits in decimal digits, perhaps with
a sign. -/
def locationOfSegment (segment : String) : Option LocationId :=
  match String.fromUTF8? ⟨(percentDecoded segment.toList).toArray⟩ with
  | none => none
  | some decoded => ((Decimal.IntegerRange.signed 64).read decoded.toList).toOption

end Waterway.Http
