import Waterway.Json.Basic
import Waterway.Settings.Basic

/-!
# The JSON form of settings

## Main definitions

- `Windows.fields`, `RegistrySettings.toJson`, `ServerSettings.toJson`, `EngineSettings.toJson` — the
  written form
-/

namespace Waterway

/-- The windows as fields, each named for its feed, with the two periods in whole minutes. -/
def Windows.fields (w : Windows) : List (String × Json) :=
  Source.all.map fun s =>
    (s.name, .list [.integer ((w.of s).grace.tdiv minute), .integer ((w.of s).warning.tdiv minute)])

def RegistrySettings.toJson (s : RegistrySettings) : Json :=
  .record ([("policy", .text s.policy.name), ("queue", .integer s.queueCapacity)] ++ s.windows.fields)

def ServerSettings.toJson (s : ServerSettings) : Json :=
  .record [("cors_origins", .list (s.origins.map .text)), ("host", .text s.host),
    ("port", .integer s.port), ("request_timeout_secs", .integer s.requestTimeout),
    ("shutdown_timeout_secs", .integer s.shutdownTimeout)]

def EngineSettings.toJson (s : EngineSettings) : Json :=
  .record [("cache_ttl_secs", .integer s.thresholdLifetime), ("location_queue", .integer s.locationQueue),
    ("policy", .text s.policy.name), ("registry", s.registry.toJson),
    ("send_timeout_ms", .integer s.sendTimeout), ("subscriber_queue", .integer s.subscriberQueue),
    ("windows", .record s.windows.fields)]

end Waterway
