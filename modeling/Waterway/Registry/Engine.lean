import Waterway.Envelope
import Waterway.Fanout.Timeline
import Waterway.Reading.Bootstrap
import Waterway.Registry.Basic

/-!
# The engine

The registry at work: callers hand observations in, workers take them out of their queues, ask for the
thresholds, judge, and hand analyses to the subscribers.

## Main definitions

- `Surroundings` — what the engine asks of the world around it
- `Engine` — the registry, the subscribers, the world, and what has come of the work so far
- `Engine.update`, `Engine.apply` — an observation is handed in, without or with waiting for its outcome
- `Engine.concurrently` — several are handed in at once
- `Engine.startAll` — all known locations are loaded and registered
- `Engine.work` — a worker does the next thing that it has to do
- `Engine.settle` — everything in the queues is worked off

## Design notes

Each worker that has something to do is run until its queue is empty or it waits for a subscriber; the
workers run in the order in which they were woken. A caller goes on only when no worker can. The clock
moves when everybody waits, and then to the next moment at which somebody does not.

A worker that has been told to stop finishes what it has in hand. When it is ready again it stops, but it may take
further observations out of its queue before it notices. What is left in the queue then is refused.
-/

namespace Waterway

/-- What the engine asks of the world around it, whose state is of type `σ`. -/
structure Surroundings (σ : Type) where
  /-- The thresholds at a time in milliseconds. -/
  thresholds : Nat → StateM σ (Except EngineError Thresholds)
  store : ReadingStore (StateM σ)
  directory : StateM σ (Except EngineError (List Devices))

/-- The registry at work. -/
structure Engine (σ : Type) where
  registry : Registry
  timeline : Timeline := {}
  outside : σ
  /-- How long a broadcast of an analysis waits for a subscriber; without a value analyses are not
  broadcast. -/
  publishTimeout : Option Nat := none
  /-- All analyses handed over so far, each with the worker that it comes from. -/
  published : List (WorkerId × Analysis Float) := []
  /-- The answers to callers, by the number of the call. -/
  answers : List (Nat × Except EngineError Judgement) := []
  /-- How many calls have asked for an answer. -/
  tickets : Nat := 0
  /-- The workers that have something to do, in the order in which they were woken. -/
  woken : List WorkerId := []

namespace Engine

variable {σ : Type}

/-- Runs an action of the outside world. -/
def consult {α : Type} (action : StateM σ α) : StateM (Engine σ) α :=
  modifyGet fun e =>
    let (a, outside) := action.run e.outside
    (a, { e with outside })

def onRegistry (f : Registry → Registry) : StateM (Engine σ) Unit :=
  modify fun e => { e with registry := f e.registry }

def onTimeline {α : Type} (f : Timeline → α × Timeline) : StateM (Engine σ) α :=
  modifyGet fun e =>
    let (a, timeline) := f e.timeline
    (a, { e with timeline })

/-- Notes that a worker has something to do. -/
def wake (w : WorkerId) : StateM (Engine σ) Unit :=
  modify fun e =>
    if w ∈ e.woken then e else { e with woken := e.woken ++ [w] }

/-- Answers a caller, if one waits. -/
def answer (ticket : Option Nat) (result : Except EngineError Judgement) : StateM (Engine σ) Unit :=
  match ticket with
  | none => pure ()
  | some n => modify fun e => { e with answers := e.answers ++ [(n, result)] }

/-- Tells all callers in a queue that the worker is gone. -/
def abandonQueue (location : LocationId) (queue : List Command) : StateM (Engine σ) Unit :=
  queue.forM fun c => answer c.ticket (.error (.workerStopped location))

/-- Hands an analysis over, and gives the number of the delivery if there is one. -/
def publish (w : WorkerId) (a : Analysis Float) : StateM (Engine σ) (Option Nat) := do
  modify fun e => { e with published := e.published ++ [(w, a)] }
  match (← get).publishTimeout with
  | none => return none
  | some timeout =>
    return some (← onTimeline (·.broadcast w.location (Envelope.ofAnalysis a).text timeout))

/-- Passes on what has come of an observation: an analysis is published, and a caller answered, at once
or after the delivery. -/
def conclude (w : WorkerId) (ticket : Option Nat) (handled : Handled) : StateM (Engine σ) Unit := do
  match handled.publication with
  | none => answer ticket handled.answer
  | some analysis =>
    match ← publish w analysis with
    | none => answer ticket handled.answer
    | some delivery =>
      onRegistry (·.modifyLaneOf w fun l =>
        { l with activity := .delivering delivery ticket handled.answer })

/-- A worker is gone, and nobody in its queue will be served. -/
def stop (w : WorkerId) (queue : List Command) : StateM (Engine σ) Unit := do
  onRegistry (·.modifyLaneOf w fun l => { l with queue := [], activity := .stopped })
  abandonQueue w.location queue

/-- Does the next thing that a worker has to do. One that has been told to stop does so when it is ready, unless it
`lingers` and takes another observation before. Gives whether there was something to do and may be more. -/
def work (world : Surroundings σ) (w : WorkerId) (lingers : Bool := false) : StateM (Engine σ) Bool := do
  match (← get).registry.laneOf? w with
  | none => return false
  | some lane =>
    match lane.activity with
    | .stopped => return false
    | .delivering delivery ticket result =>
      if ((← get).timeline.waiting? delivery).isSome then return false
      else
        onRegistry (·.modifyLaneOf w fun l => { l with activity := .ready })
        answer ticket result
        return true
    | .ready =>
      if lane.isCancelled && !lingers then
        stop w lane.queue
        return false
      else
        match lane.queue with
        | [] => return false
        | command :: queue =>
          let now := (← get).timeline.clock
          let thresholds ← consult (world.thresholds now)
          let (worker, handled) := lane.worker.handle command.observation thresholds
          onRegistry (·.modifyLaneOf w fun l => { l with worker, queue })
          conclude w command.ticket handled
          return true

/-- Runs a worker while it has something to do, `n` times at most. -/
def workOff (world : Surroundings σ) (w : WorkerId) : (n : Nat) → StateM (Engine σ) Unit
  | 0 => pure ()
  | n + 1 => do
    if ← work world w then workOff world w n

/-- How much work there is: observations in queues, each of which is handled and then perhaps
delivered, and workers that deliver already. -/
def load (e : Engine σ) : Nat :=
  e.registry.staff.foldl (fun n (_, l) => n + (2 * l.queue.length + 2)) 0

/-- Runs all workers that have something to do, in the order in which they were woken. -/
def runWoken (world : Surroundings σ) : StateM (Engine σ) Unit := do
  let e ← get
  set { e with woken := [] }
  e.woken.forM fun w => workOff world w e.load

/-- The deliveries that workers wait for. -/
def awaited (e : Engine σ) : List Delivery :=
  e.registry.staff.filterMap fun (_, l) =>
    match l.activity with
    | .delivering delivery _ _ => e.timeline.waiting? delivery
    | _ => none

/-- Wakes the workers that deliver. -/
def wakeDelivering : StateM (Engine σ) Unit := do
  (← get).registry.staff.forM fun (w, l) =>
    match l.activity with
    | .delivering _ _ _ => wake w
    | _ => pure ()

/-- Lets time pass until the first of some deliveries has ended, and wakes the workers that waited. -/
def passTime (deliveries : List Delivery) : StateM (Engine σ) Unit := do
  match deliveries with
  | [] => pure ()
  | d :: rest =>
    let first := rest.foldl (fun a b => if b.deadline < a.deadline then b else a) d
    modify fun e => { e with timeline := e.timeline.awaitUntil first.id first.deadline }
    wakeDelivering

/-- Runs the workers until something holds, letting time pass where everybody waits; `n` times at
most. -/
def runUntil (world : Surroundings σ) (holds : Engine σ → Bool) : (n : Nat) → StateM (Engine σ) Unit
  | 0 => pure ()
  | n + 1 => do
    if holds (← get) then return
    runWoken world
    let e ← get
    if holds e then return
    match e.awaited with
    | [] => return
    | deliveries =>
      passTime deliveries
      runUntil world holds n

def settle (world : Surroundings σ) : StateM (Engine σ) Unit := do
  runUntil world (fun _ => false) ((← get).load + 1)

/-- Waits until the queue of a worker has room. -/
def awaitRoom (world : Surroundings σ) (w : WorkerId) : StateM (Engine σ) Unit := do
  let hasRoom (e : Engine σ) : Bool :=
    (e.registry.laneOf? w).all e.registry.hasRoom
  runUntil world hasRoom ((← get).load + 1)

/-- Finds the worker for an observation, registering the location if the policy says so. -/
def resolve (location : LocationId) : StateM (Engine σ) (Except EngineError (Option WorkerId)) := do
  let known := (← get).registry.contains location
  let outcome ← modifyGet fun e =>
    let (outcome, registry) := e.registry.resolve location
    (outcome, { e with registry })
  match outcome with
  | .ok (some w) => unless known do wake w
  | _ => pure ()
  return outcome

/-- Puts an observation into a queue that has room; refused if the worker is gone. -/
def enqueue (w : WorkerId) (c : Command) : StateM (Engine σ) (Except EngineError Unit) := do
  match (← get).registry.laneOf? w with
  | some lane =>
    if lane.isAccepting then
      onRegistry (·.enqueue w c)
      wake w
      return .ok ()
    else return .error (.workerStopped w.location)
  | none => return .error (.workerStopped w.location)

/-- A number for a call that wants an answer. -/
def newTicket : StateM (Engine σ) Nat :=
  modifyGet fun e => (e.tickets, { e with tickets := e.tickets + 1 })

/-- Hands an observation in, waiting for room in the queue only. -/
def update (world : Surroundings σ) (location : LocationId) (o : Observation Float) :
    StateM (Engine σ) (Except EngineError Unit) := do
  match ← resolve location with
  | .error e => return .error e
  | .ok none => return .ok ()
  | .ok (some w) =>
    awaitRoom world w
    enqueue w ⟨o, none⟩

/-- The answer to a call; without one, the worker must have gone. -/
def answerTo (location : LocationId) (ticket : Nat) (e : Engine σ) : Except EngineError Judgement :=
  (e.answers.lookup ticket).getD (.error (.workerStopped location))

/-- Hands an observation in and waits for the judgement. -/
def apply (world : Surroundings σ) (location : LocationId) (o : Observation Float) :
    StateM (Engine σ) (Except EngineError Judgement) := do
  match ← resolve location with
  | .error e => return .error e
  | .ok none => return .error (.unknownLocation location)
  | .ok (some w) =>
    awaitRoom world w
    let ticket ← newTicket
    match ← enqueue w ⟨o, some ticket⟩ with
    | .error e => return .error e
    | .ok () =>
      runUntil world (fun e => (e.answers.lookup ticket).isSome) ((← get).load + 1)
      return answerTo location ticket (← get)

/-- A call that hands an observation in. -/
structure Call where
  location : LocationId
  observation : Observation Float
  /-- Whether the caller waits for the judgement. -/
  waits : Bool

/-- How far a call has come. -/
inductive Progress where
  | ended (result : Except EngineError (Option Judgement))
  /-- It waits for room in the queue of the worker that it has found. -/
  | blocked (w : WorkerId) (command : Command)
  /-- It waits for the answer of that worker. -/
  | pending (w : WorkerId) (ticket : Nat)

/-- Tries to put an observation into the queue of a worker. -/
def tryEnqueue (w : WorkerId) (c : Command) : StateM (Engine σ) Progress := do
  let e ← get
  if (e.registry.laneOf? w).all (fun l => e.registry.hasRoom l || !l.isAccepting) then
    match ← enqueue w c with
    | .error e => return .ended (.error e)
    | .ok () =>
      match c.ticket with
      | none => return .ended (.ok none)
      | some ticket => return .pending w ticket
  else return .blocked w c

def begin (call : Call) : StateM (Engine σ) Progress := do
  match ← resolve call.location with
  | .error e => return .ended (.error e)
  | .ok none =>
    return .ended (if call.waits then .error (.unknownLocation call.location) else .ok none)
  | .ok (some w) =>
    let ticket ← if call.waits then some <$> newTicket else pure none
    tryEnqueue w ⟨call.observation, ticket⟩

/-- Lets a call that waits for room try again, with the same worker. -/
def retry : Progress → StateM (Engine σ) Progress
  | .blocked w c => tryEnqueue w c
  | p => pure p

def Progress.isBlocked : Progress → Bool
  | .blocked _ _ => true
  | _ => false

/-- Works on until no call waits for room, `n` times at most. -/
def enqueueAll (world : Surroundings σ) : (n : Nat) → List Progress → StateM (Engine σ) (List Progress)
  | 0, calls => pure calls
  | n + 1, calls => do
    if calls.any Progress.isBlocked then
      runWoken world
      passTime (← get).awaited
      enqueueAll world n (← calls.mapM retry)
    else return calls

/-- Waits for calls that have been started, and gives their results in order. -/
def joinAll (world : Surroundings σ) (started : List Progress) :
    StateM (Engine σ) (List (Except EngineError (Option Judgement))) := do
  let calls ← enqueueAll world ((← get).load + 2 * started.length + 1) started
  settle world
  let e ← get
  return calls.map fun
    | .ended result => result
    | .pending w ticket => (answerTo w.location ticket e).map some
    | .blocked w _ => .error (.workerStopped w.location)

/-- Several calls at once: all of them start before any worker runs. -/
def concurrently (world : Surroundings σ) (calls : List Call) :
    StateM (Engine σ) (List (Except EngineError (Option Judgement))) := do
  joinAll world (← calls.mapM begin)

/-- Registers a location, in place of its present worker. -/
def register (devices : Devices) (site : Site Float) : StateM (Engine σ) Unit := do
  let before := (← get).registry
  onRegistry (·.register devices site)
  if before.contains devices.location then wake (before.latest devices.location)
  wake ((← get).registry.latest devices.location)

/-- Loads and registers the mapped ones of some locations, up to the first failure; gives how many
there were. -/
def startEach (world : Surroundings σ) (now : Instant) :
    (started : Nat) → List Devices → StateM (Engine σ) (Except EngineError Nat)
  | started, [] => pure (.ok started)
  | started, devices :: rest => do
    if devices.isMapped then
      let e ← get
      let site ← consult (loadSite world.store (world.thresholds e.timeline.clock) devices
        e.registry.settings.windows now)
      match site with
      | .error e => return .error e
      | .ok site =>
        register devices site
        startEach world now (started + 1) rest
    else startEach world now started rest

/-- Loads and registers all known locations that have both devices. -/
def startAll (world : Surroundings σ) (now : Instant) : StateM (Engine σ) (Except EngineError Nat) := do
  match ← consult world.directory with
  | .error e => return .error e
  | .ok known => startEach world now 0 known

/-- Tells all workers to stop and forgets all locations. Whoever waits until they have stopped lets them `settle`. -/
def shutdown : StateM (Engine σ) Unit := do
  let before := (← get).registry
  onRegistry Registry.shutdown
  before.lanes.forM fun (location, _) => wake (before.latest location)

/-- Broadcasts an envelope and waits until it has reached or missed everybody. -/
def announce (world : Surroundings σ) (location : LocationId) (text : String) (timeout : Nat) :
    StateM (Engine σ) DeliveryReport := do
  let delivery ← onTimeline (·.broadcast location text timeout)
  runWoken world
  modify fun e => { e with timeline := e.timeline.await delivery }
  return ((← get).timeline.finished? delivery).elim ⟨0, 0⟩ Delivery.report

end Engine

end Waterway
