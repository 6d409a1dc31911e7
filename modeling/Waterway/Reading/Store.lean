import Waterway.Freshness

/-!
# Stored readings

Where the latest stored reading of each feed comes from, and which of them belong to a site.

## Main definitions

- `Devices` — a site and the devices that feed it
- `ReadingStore` — the latest reading of a device, or of a location for the weather
- `ReadingStore.latest` — the latest reading of one feed of a site

## Design notes

A store answers in a monad `m`, so that the same definitions serve a plain function, a store that
keeps a record of what it was asked, and a database. A feed whose device is not mapped is not asked
for.
-/

namespace Waterway

/-- A site and the devices that feed it. -/
structure Devices where
  location : LocationId
  name : String
  sensor : Option RowId
  camera : Option RowId
deriving Repr, DecidableEq

namespace Devices

/-- A site whose devices are not known. -/
def unmapped (location : LocationId) : Devices :=
  ⟨location, "", none, none⟩

def isMapped (d : Devices) : Bool :=
  d.sensor.isSome && d.camera.isSome

/-- The key under which the readings of a feed are stored; the weather belongs to the location. -/
def key (d : Devices) : Source → Option RowId
  | .waterLevel => d.sensor
  | .blockage => d.camera
  | .weather => some d.location

end Devices

/-- The answer of a store: a reading, none, or a failure. -/
abbrev StoreAnswer (α : Type) := Except EngineError (Option α)

/-- A store of readings. -/
structure ReadingStore (m : Type → Type) where
  /-- The latest status of a sensor. -/
  waterLevel : RowId → m (StoreAnswer (WaterLevel Float))
  /-- The latest status of a camera. -/
  blockage : RowId → m (StoreAnswer Blockage)
  /-- The latest status of a location's weather. -/
  weather : LocationId → m (StoreAnswer (Weather Float))

namespace ReadingStore

variable {m : Type → Type} [Monad m]

def ask (store : ReadingStore m) (source : Source) (key : RowId) :
    m (StoreAnswer (Observation Float)) :=
  match source with
  | .waterLevel => do return (← store.waterLevel key).map (·.map .waterLevel)
  | .blockage => do return (← store.blockage key).map (·.map .blockage)
  | .weather => do return (← store.weather key).map (·.map .weather)

/-- The latest reading of one feed of a site. -/
def latest (store : ReadingStore m) (devices : Devices) (source : Source) :
    m (StoreAnswer (Observation Float)) :=
  match devices.key source with
  | none => pure (.ok none)
  | some key => store.ask source key

end ReadingStore

end Waterway
