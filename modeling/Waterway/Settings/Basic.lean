import Waterway.Decimal.Integer
import Waterway.Registry.Basic
import Waterway.Text.Blank
import Waterway.Text.Split

/-!
# Settings from the environment

The settings of the server and of the engine, read from environment variables.

## Main definitions

- `Environment` — the variables that are set
- `ServerSettings.load` — where to listen, which origins to allow, and two timeouts
- `EngineSettings.load` — windows, queue lengths, timeouts and the policy for unknown locations

## Design notes

A variable that is not set has a default; one that is set to something unusable is an error, and the
first such error is reported. A period of freshness that is too long to be represented is a fault of
its own kind: nothing checks it before it is used.
-/

namespace Waterway

open Decimal

/-- The environment variables that are set. -/
abbrev Environment := List (String × String)

/-- Why settings could not be loaded. -/
inductive SettingsFault where
  | refused (error : DomainError)
  /-- A period is too long to be represented. -/
  | periodOverflow
deriving Repr, DecidableEq

namespace Environment

def value? (env : Environment) (name : String) : Option String :=
  env.lookup name

/-- The whole number that a variable holds, or a default. -/
def integer (env : Environment) (name : String) (range : IntegerRange) (default : Int) :
    Except DomainError Int :=
  match env.value? name with
  | none => .ok default
  | some raw =>
    match range.read (Text.trimBlankChars raw.toList) with
    | .ok n => .ok n
    | .error e => .error (.configuration (name ++ " is invalid: " ++ e.message))

/-- The natural number that a variable holds, or a default. -/
def natural (env : Environment) (name : String) (bits default : Nat) : Except DomainError Nat :=
  (env.integer name (.unsigned bits) default).map Int.toNat

end Environment

structure ServerSettings where
  host : String
  port : Nat
  /-- The origins whose pages may call the server. -/
  origins : List String
  /-- Seconds after which a request is given up. -/
  requestTimeout : Nat
  /-- Seconds that a shutdown may take. -/
  shutdownTimeout : Nat
deriving Repr, DecidableEq

namespace ServerSettings

/-- The origins that a list with commas names: trimmed, without empty ones. -/
def originsOf (raw : String) : List String :=
  ((Text.splitAt ',' raw.toList).map fun part => String.ofList (Text.trimBlankChars part)).filter (· != "")

def load (env : Environment) : Except DomainError ServerSettings := do
  let port ← env.natural "PORT" 16 3000
  let requestTimeout ← env.natural "REQUEST_TIMEOUT_SECS" 64 30
  let shutdownTimeout ← env.natural "SHUTDOWN_TIMEOUT_SECS" 64 30
  return {
    host := (env.value? "HOST").getD "0.0.0.0"
    port
    origins := originsOf ((env.value? "CORS_ORIGINS").getD "http://localhost:5173")
    requestTimeout
    shutdownTimeout }

end ServerSettings

structure EngineSettings where
  windows : Windows := {}
  /-- Milliseconds that a subscriber has to make room for a message. -/
  sendTimeout : Nat := 2000
  /-- The length of a subscriber's queue. -/
  subscriberQueue : Nat := 64
  /-- The length of a worker's queue. -/
  locationQueue : Nat := 64
  /-- Seconds for which thresholds are kept. -/
  thresholdLifetime : Nat := 86400
  policy : UnknownPolicy := .ignore
deriving Repr, DecidableEq

namespace EngineSettings

/-- Loads the window of the feed whose variables begin with a given word. The standard periods are in minutes. -/
def loadWindow (env : Environment) (feed : String) (standard : Int × Int) : Except SettingsFault Window := do
  let i64 := IntegerRange.signed 64
  let grace ← (env.integer (feed ++ "_GRACE_PERIOD_MINUTES") i64 standard.1).mapError .refused
  let warning ← (env.integer (feed ++ "_WARNING_PERIOD_MINUTES") i64 standard.2).mapError .refused
  if warning < grace then
    throw (.refused (.configuration
      (feed ++ "_WARNING_PERIOD_MINUTES (" ++ toString warning ++
        ") must not be shorter than the grace period (" ++ toString grace ++ ")")))
  match Window.ofMinutes? grace warning with
  | some window => return window
  | none => throw .periodOverflow

def loadPolicy (env : Environment) : Except DomainError UnknownPolicy :=
  match env.value? "UNKNOWN_LOCATION_POLICY" with
  | none => .ok .ignore
  | some raw => UnknownPolicy.ofName raw

def load (env : Environment) : Except SettingsFault EngineSettings := do
  let waterLevel ← loadWindow env "SENSOR" (4, 8)
  let blockage ← loadWindow env "DETECTION" (5, 10)
  let weather ← loadWindow env "WEATHER" (65, 130)
  let policy ← (loadPolicy env).mapError .refused
  let natural (name : String) (default : Nat) := (env.natural name 64 default).mapError SettingsFault.refused
  let sendTimeout ← natural "SUBSCRIBER_SEND_TIMEOUT_MS" 2000
  let subscriberQueue ← natural "SUBSCRIBER_QUEUE_CAPACITY" 64
  let locationQueue ← natural "LOCATION_QUEUE_CAPACITY" 64
  let thresholdLifetime ← natural "THRESHOLD_CACHE_TTL_SECS" 86400
  return {
    windows := { waterLevel, blockage, weather }
    sendTimeout, subscriberQueue, locationQueue, thresholdLifetime, policy }

/-- The settings of the registry among those of the engine. -/
def registry (s : EngineSettings) : RegistrySettings :=
  { queueCapacity := s.locationQueue, policy := s.policy, windows := s.windows }

end EngineSettings

end Waterway
