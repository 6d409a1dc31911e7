import Waterway.Keyed
import Waterway.Reading.Store
import Waterway.Registry.Worker
import Waterway.Text.Blank

/-!
# The registry of locations

Which locations are monitored, their workers, and the queues of observations in front of them.

## Main definitions

- `UnknownPolicy` — what happens to an observation of a location that is not registered
- `WorkerId` — a worker, told from the others of its location
- `Lane` — a worker with its devices and its queue
- `Registry` — the lanes of the registered locations, and those of workers that have been told to stop
- `Registry.register`, `Registry.insertOrReuse`, `Registry.resolve` — how locations get in
- `Registry.laneOf?`, `Registry.enqueue` — how observations get into a queue
- `Registry.shutdown` — the end

## Design notes

The policy applies only to locations that are not registered. A worker that has been replaced or shut down keeps its
lane until it stops: whoever has found it goes on with it, and not with the one that has come in its place. A registry
that has been shut down goes on answering; workers started after that have been told to stop from the start.
-/

namespace Waterway

/-- What happens to an observation of a location that is not registered. -/
inductive UnknownPolicy where
  /-- It is dropped without a word. -/
  | ignore
  /-- It is refused. -/
  | reject
  /-- The location is registered with nothing known of it. -/
  | register
deriving Repr, DecidableEq

namespace UnknownPolicy

def name : UnknownPolicy → String
  | .ignore => "ignore"
  | .reject => "reject"
  | .register => "register"

def all : List UnknownPolicy :=
  [.ignore, .reject, .register]

/-- The policy with a given name, in any case of letters and between blanks. -/
def ofName (s : String) : Except DomainError UnknownPolicy :=
  let name := Text.lowerAscii (Text.trimBlank s)
  match all.find? (·.name == name) with
  | some policy => .ok policy
  | none => .error (.configuration
      ("unknown location policy '" ++ name ++ "', expected ignore, reject or register"))

end UnknownPolicy

structure RegistrySettings where
  /-- How many observations wait for a worker at most. -/
  queueCapacity : Nat := 64
  policy : UnknownPolicy := .ignore
  windows : Windows := {}

/-- An observation on its way to a worker. -/
structure Command where
  observation : Observation Float
  /-- The number of the caller who waits for the judgement. -/
  ticket : Option Nat

/-- A worker: its location, and how many have been started for that location up to it. -/
structure WorkerId where
  location : LocationId
  number : Nat
deriving Repr, DecidableEq

/-- What a worker is doing. -/
inductive Activity where
  /-- It takes observations. -/
  | ready
  /-- It delivers an analysis, and will then answer a caller. -/
  | delivering (delivery : Nat) (ticket : Option Nat) (answer : Except EngineError Judgement)
  /-- It is gone. -/
  | stopped

structure Lane where
  devices : Devices
  worker : Worker
  /-- The observations that wait for the worker, the oldest first. -/
  queue : List Command := []
  activity : Activity := .ready
  /-- Whether the worker has been told to stop. -/
  isCancelled : Bool := false

/-- Whether a lane still takes observations: its worker is not gone. -/
def Lane.isAccepting (l : Lane) : Bool :=
  match l.activity with
  | .stopped => false
  | _ => true

/-- The registered locations. -/
structure Registry where
  settings : RegistrySettings := {}
  /-- The locations with their lanes, at most one for each. -/
  lanes : List (LocationId × Lane) := []
  /-- The lanes of workers that have been told to stop and have no location any more. -/
  former : List (WorkerId × Lane) := []
  /-- The locations for which workers have been started, in order. -/
  started : List LocationId := []
  isShutDown : Bool := false

namespace Registry

/-- How many observations a queue holds: one at least. -/
def capacity (r : Registry) : Nat :=
  max 1 r.settings.queueCapacity

def lane? (r : Registry) (location : LocationId) : Option Lane :=
  r.lanes.lookup location

def contains (r : Registry) (location : LocationId) : Bool :=
  (r.lane? location).isSome

def modifyLane (r : Registry) (location : LocationId) (f : Lane → Lane) : Registry :=
  { r with lanes := Keyed.update location f r.lanes }

/-- The worker that has been started last for a location. -/
def latest (r : Registry) (location : LocationId) : WorkerId :=
  ⟨location, r.started.count location⟩

/-- Whether a worker is the present one of its location. -/
def employs (r : Registry) (w : WorkerId) : Bool :=
  r.contains w.location && w == r.latest w.location

/-- The lane of a worker, whether it is at its location or has been told to leave it. -/
def laneOf? (r : Registry) (w : WorkerId) : Option Lane :=
  if r.employs w then r.lane? w.location else r.former.lookup w

def modifyLaneOf (r : Registry) (w : WorkerId) (f : Lane → Lane) : Registry :=
  if r.employs w then r.modifyLane w.location f else { r with former := Keyed.update w f r.former }

/-- All workers with their lanes. -/
def staff (r : Registry) : List (WorkerId × Lane) :=
  (r.lanes.map fun (location, l) => (r.latest location, l)) ++ r.former

/-- A lane for a location that starts now. -/
def newLane (r : Registry) (devices : Devices) (site : Site Float) : Lane :=
  { devices, worker := .start site, isCancelled := r.isShutDown }

/-- A lane whose worker is told to leave its location. -/
def leave (r : Registry) (location : LocationId) (l : Lane) : WorkerId × Lane :=
  (r.latest location, { l with isCancelled := true })

/-- Registers a location. Its present worker, if it has one, is told to stop. -/
def register (r : Registry) (devices : Devices) (site : Site Float) : Registry :=
  { r with
    lanes := Keyed.put devices.location (r.newLane devices site) r.lanes
    former := r.former ++ ((r.lane? devices.location).map (r.leave devices.location)).toList
    started := r.started ++ [devices.location] }

/-- Registers a location with nothing known of it, unless it is registered. -/
def insertOrReuse (r : Registry) (location : LocationId) : Registry :=
  if r.contains location then r
  else r.register (.unmapped location) .empty

/-- What the registry does with a location that an observation is for: it has a worker afterwards, which is found, the
observation is to be dropped, or refused. -/
def resolve (r : Registry) (location : LocationId) : Except EngineError (Option WorkerId) × Registry :=
  if r.contains location then (.ok (some (r.latest location)), r)
  else
    match r.settings.policy with
    | .ignore => (.ok none, r)
    | .reject => (.error (.unknownLocation location), r)
    | .register =>
      let r := r.insertOrReuse location
      (.ok (some (r.latest location)), r)

def hasRoom (r : Registry) (l : Lane) : Bool :=
  l.queue.length < r.capacity

/-- Puts an observation at the end of a worker's queue. -/
def enqueue (r : Registry) (w : WorkerId) (c : Command) : Registry :=
  r.modifyLaneOf w fun l => { l with queue := l.queue ++ [c] }

/-- The state of a site that readers see. -/
def shown (r : Registry) (location : LocationId) : Except EngineError (Site Float) :=
  match r.lane? location with
  | some l => .ok l.worker.shown
  | none => .error (.notRegistered location)

def analysis (r : Registry) (location : LocationId) : Except EngineError (Option (Analysis Float)) :=
  (r.shown location).map Site.analysis

def judgement (r : Registry) (location : LocationId) : Except EngineError Judgement :=
  (r.shown location).map Site.judgement

def devices (r : Registry) (location : LocationId) : Except EngineError Devices :=
  match r.lane? location with
  | some l => .ok l.devices
  | none => .error (.notRegistered location)

/-- The registered locations in ascending order. -/
def locations (r : Registry) : List LocationId :=
  (r.lanes.map (·.1)).mergeSort (fun a b => decide (a ≤ b))

/-- Tells all workers to stop and forgets all locations. -/
def shutdown (r : Registry) : Registry :=
  { r with
    lanes := []
    former := r.former ++ r.lanes.map fun (location, l) => r.leave location l
    isShutDown := true }

end Registry

end Waterway
