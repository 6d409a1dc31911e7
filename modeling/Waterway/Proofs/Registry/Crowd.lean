import Waterway.Proofs.Registry.Interleaving

/-!
# The steps of a call taken apart

A call looks its location up in one step, registers it in another if it is not known, and sends its command in a third.
Other calls, and workers, may come between any two of these.

## Main definitions

- `CallStage` — how far a call has come whose steps are taken apart
- `Turn`, `Crowd` — what can happen next; an engine and the calls, with a record of what has happened to both
- `Crowd.step`, `Crowd.run` — one turn, and a sequence of them

## Main statements

- `Crowd.run_undisturbed` — the steps of a call that nobody comes between are the call

## Design notes

Which commands a worker took in, and which it has taken out of its queue, is kept beside the engine, and so is the
worker whose queue a call has taken hold of.
-/

namespace Waterway

open Engine

variable {σ : Type}

/-- The worker that is started first for a location. -/
def WorkerId.first (location : LocationId) : WorkerId :=
  ⟨location, 1⟩

/-- How far a call has come whose steps are taken apart. -/
inductive CallStage where
  /-- Its location was not known when it was looked up. -/
  | unknown (call : Call)
  /-- It has taken hold of the queue of a worker. -/
  | bound (w : WorkerId) (c : Command)
  /-- Its command has been taken in. -/
  | entered (w : WorkerId) (c : Command)
  | ended (result : Except EngineError (Option Judgement))

namespace CallStage

/-- The worker that a call has found. -/
def worker? : CallStage → Option WorkerId
  | .bound w _ => some w
  | .entered w _ => some w
  | _ => none

/-- The command that has been taken in, and the worker for whom. -/
def taken? : CallStage → Option (WorkerId × Command)
  | .entered w c => some (w, c)
  | _ => none

/-- How far the call has come if look-up and registration are one step. -/
def progress? : CallStage → Option Progress
  | .unknown _ => none
  | .bound w c => some (.blocked w c)
  | .entered w c => some (.ofEntry w c)
  | .ended result => some (.ended result)

/-- How far a call has come that has tried to enter a queue. -/
def ofAttempt (w : WorkerId) (c : Command) : Progress → CallStage
  | .blocked _ _ => .bound w c
  | .ended (.error error) => .ended (.error error)
  | .ended (.ok _) => .entered w c
  | .pending _ _ => .entered w c

theorem ofAttempt_ofEntry (w : WorkerId) (c : Command) : ofAttempt w c (.ofEntry w c) = .entered w c := by
  rw [Progress.ofEntry]
  cases c.ticket <;> rfl

end CallStage

namespace Engine

/-- The engine when a call has its number, if its caller waits. -/
def numbered (call : Call) (e : Engine σ) : Engine σ :=
  { e with tickets := e.tickets + (call.ticket e).toList.length }

/-- The call to a location that is known. -/
theorem run_begin_of_known {call : Call} {e : Engine σ} (hknown : e.registry.contains call.location = true) :
    (begin call).run e =
      (tryEnqueue (e.registry.latest call.location) ⟨call.observation, call.ticket e⟩).run (e.numbered call) := by
  rw [begin, StateT.run_bind, run_resolve_of_contains hknown, numbered, Call.ticket]
  cases call.waits <;> rfl

/-- The engine when a location has been registered, unless it was, and its worker has been woken. -/
def insertOrReuse (e : Engine σ) (location : LocationId) : Engine σ :=
  let registry := e.registry.insertOrReuse location
  ((wake (registry.latest location)).run { e with registry }).2

theorem insertOrReuse_eq (e : Engine σ) (location : LocationId) :
    ∃ woken, e.insertOrReuse location = { e with registry := e.registry.insertOrReuse location, woken } := by
  obtain ⟨woken, hwake⟩ := run_wake ((e.registry.insertOrReuse location).latest location)
    { e with registry := e.registry.insertOrReuse location }
  exact ⟨woken, congrArg Prod.snd hwake⟩

/-- The call to a location that is not known, by what the policy says. -/
theorem run_begin_of_unknown {call : Call} {e : Engine σ} (hunknown : e.registry.contains call.location = false) :
    (begin call).run e = match e.registry.settings.policy with
      | .ignore => (.ended (if call.waits then .error (.unknownLocation call.location) else .ok none), e)
      | .reject => (.ended (.error (.unknownLocation call.location)), e)
      | .register =>
        let registered := e.insertOrReuse call.location
        (tryEnqueue ((e.registry.insertOrReuse call.location).latest call.location)
          ⟨call.observation, call.ticket registered⟩).run (registered.numbered call) := by
  have hnobody (hpolicy : e.registry.settings.policy ≠ .register) : (resolve call.location).run e = _ :=
    run_resolve_of_found?_eq_none (Registry.found?_of_policy_ne hunknown hpolicy)
  cases hpolicy : e.registry.settings.policy with
  | ignore =>
    rw [begin, StateT.run_bind, hnobody (by simp [hpolicy]), Registry.resolve, hunknown, hpolicy]
    rfl
  | reject =>
    rw [begin, StateT.run_bind, hnobody (by simp [hpolicy]), Registry.resolve, hunknown, hpolicy]
    rfl
  | register =>
    have hfound : e.registry.found? call.location =
        some ((e.registry.insertOrReuse call.location).latest call.location) := by
      simp [Registry.found?, Registry.resolve, hunknown, hpolicy]
    rw [begin, StateT.run_bind, run_resolve_of_found? hunknown hfound]
    simp only [numbered, Call.ticket]
    cases call.waits <;> rfl

end Engine

theorem Engine.Entered.progress?_ofAttempt {w : WorkerId} {c : Command} {e after : Engine σ} {p : Progress}
    (h : Entered w c e p after) : (CallStage.ofAttempt w c p).progress? = some p := by
  cases h with
  | blocked | refused => rfl
  | entered => rw [CallStage.ofAttempt_ofEntry, CallStage.progress?]

/-- What can happen next. -/
inductive Turn (σ : Type) where
  /-- A call begins by looking its location up. -/
  | lookUp (call : Call)
  /-- A call whose location was not known registers it, unless it is registered by now. -/
  | insert (number : Nat)
  /-- A call tries to put its command into the queue that it has taken hold of. -/
  | send (number : Nat)
  /-- A worker does the next thing that it has to do. -/
  | work (w : WorkerId)
  /-- Something happens to the subscribers, to the clock or in the world outside. -/
  | elsewhere (timeline : Timeline) (outside : σ) (woken : List WorkerId)

/-- An engine and the calls, with a record of what has happened to both. -/
structure Crowd (σ : Type) where
  engine : Engine σ
  calls : List CallStage := []
  /-- The commands that were taken in, in order, each with the worker for whom. -/
  accepted : List (WorkerId × Command) := []
  /-- The commands that workers have taken out of their queues, in order. -/
  handled : List (WorkerId × Handling) := []

namespace Crowd

/-- Before anything is registered. -/
def start (settings : RegistrySettings) (publishTimeout : Option Nat) (timeline : Timeline) (outside : σ) : Crowd σ :=
  { engine := { registry := { settings }, timeline, outside, publishTimeout } }

/-- The locations for which workers were started, once for each worker. -/
def started (s : Crowd σ) : List LocationId :=
  s.engine.registry.started

/-- How far a call has come that takes hold of the queue of its location. -/
def binding (s : Crowd σ) (call : Call) : CallStage :=
  .bound (s.engine.registry.latest call.location) ⟨call.observation, call.ticket s.engine⟩

/-- A call ends for want of a worker. -/
def turnAway (s : Crowd σ) (result : Except EngineError (Option Judgement)) : Crowd σ :=
  { s with calls := s.calls ++ [.ended result] }

/-- A call takes hold of the queue of a known location. With an unknown one it goes on as the policy says. -/
def lookUp (s : Crowd σ) (call : Call) : Crowd σ :=
  if s.engine.registry.contains call.location then
    { s with engine := s.engine.numbered call, calls := s.calls ++ [s.binding call] }
  else
    match s.engine.registry.settings.policy with
    | .ignore => s.turnAway (if call.waits then .error (.unknownLocation call.location) else .ok none)
    | .reject => s.turnAway (.error (.unknownLocation call.location))
    | .register => { s with calls := s.calls ++ [.unknown call] }

/-- A call whose location was unknown registers it, unless it is registered by now, and takes hold of the queue that is
there then. -/
def insert (s : Crowd σ) (number : Nat) (call : Call) : Crowd σ :=
  let found : Crowd σ := { s with engine := s.engine.insertOrReuse call.location }
  { found with engine := found.engine.numbered call, calls := s.calls.set number (found.binding call) }

/-- A call tries to put its command into the queue that it has taken hold of. -/
def send (s : Crowd σ) (number : Nat) (w : WorkerId) (c : Command) : Crowd σ :=
  let tried := (tryEnqueue w c).run s.engine
  { s with
    engine := tried.2
    calls := s.calls.set number (.ofAttempt w c tried.1)
    accepted := s.accepted ++ (tried.1.entry c.observation).toList.map (w, ·) }

def step (world : Surroundings σ) (s : Crowd σ) : Turn σ → Crowd σ
  | .lookUp call => s.lookUp call
  | .insert number =>
    match s.calls[number]? with
    | some (.unknown call) => s.insert number call
    | _ => s
  | .send number =>
    match s.calls[number]? with
    | some (.bound w c) => s.send number w c
    | _ => s
  | .work w =>
    { s with
      engine := ((Engine.work world w).run s.engine).2
      handled := s.handled ++ (s.engine.handling world w).toList.map (w, ·) }
  | .elsewhere timeline outside woken => { s with engine := { s.engine with timeline, outside, woken } }

/-- A sequence of turns. -/
def run (world : Surroundings σ) (s : Crowd σ) (turns : List (Turn σ)) : Crowd σ :=
  turns.foldl (step world) s

/-- The workers that calls have found. -/
def workers (s : Crowd σ) : List WorkerId :=
  s.calls.filterMap CallStage.worker?

/-- The commands for a location that were taken in by any worker of it, in order. -/
def acceptedFor (s : Crowd σ) (location : LocationId) : List Command :=
  Keyed.under location (s.accepted.map fun (w, c) => (w.location, c))

/-- The commands that the first worker of a location has taken out of its queue, in order. -/
def handledFor (s : Crowd σ) (location : LocationId) : List Handling :=
  Keyed.under (.first location) s.handled

theorem step_insert (world : Surroundings σ) {s : Crowd σ} {number : Nat} {call : Call}
    (hcall : s.calls[number]? = some (.unknown call)) : s.step world (.insert number) = s.insert number call := by
  rw [step, hcall]

theorem step_send (world : Surroundings σ) {s : Crowd σ} {number : Nat} {w : WorkerId} {c : Command}
    (hcall : s.calls[number]? = some (.bound w c)) : s.step world (.send number) = s.send number w c := by
  rw [step, hcall]

/-- A call that takes hold of a queue and enters it at once goes on as if it had never let go of the registry. -/
theorem send_of_bound (world : Surroundings σ) {s : Crowd σ} {before : List CallStage} {w : WorkerId} {c : Command}
    (hcalls : s.calls = before ++ [.bound w c]) :
    (s.step world (.send before.length)).engine = ((tryEnqueue w c).run s.engine).2 ∧
      ∃ stage, (s.step world (.send before.length)).calls = before ++ [stage] ∧
        stage.progress? = some ((tryEnqueue w c).run s.engine).1 := by
  have hcall : s.calls[before.length]? = some (.bound w c) := by
    rw [hcalls, List.getElem?_concat_length]
  rw [step_send world hcall]
  refine ⟨rfl, .ofAttempt w c ((tryEnqueue w c).run s.engine).1, ?_,
    (entered_tryEnqueue w c s.engine).progress?_ofAttempt⟩
  simp [send, hcalls]

/-- The steps of a call that nobody comes between are the call. -/
theorem run_undisturbed (world : Surroundings σ) (s : Crowd σ) (call : Call) :
    let after := s.run world [.lookUp call, .insert s.calls.length, .send s.calls.length]
    after.engine = ((begin call).run s.engine).2 ∧
      ∃ stage, after.calls = s.calls ++ [stage] ∧ stage.progress? = some ((begin call).run s.engine).1 := by
  intro after
  have hafter : after = ((s.lookUp call).step world (.insert s.calls.length)).step world (.send s.calls.length) := rfl
  cases hcontains : s.engine.registry.contains call.location with
  | true =>
    have hlookUp : s.lookUp call =
        { s with engine := s.engine.numbered call, calls := s.calls ++ [s.binding call] } := if_pos hcontains
    -- whoever knows the worker has nothing to insert
    have hinsert : (s.lookUp call).step world (.insert s.calls.length) = s.lookUp call := by
      rw [step, hlookUp, List.getElem?_concat_length]
      rfl
    rw [hafter, hinsert, run_begin_of_known hcontains, hlookUp]
    exact send_of_bound world rfl
  | false =>
    cases hpolicy : s.engine.registry.settings.policy with
    | ignore => simp [hafter, run_begin_of_unknown, lookUp, hcontains, hpolicy, turnAway, step, CallStage.progress?]
    | reject => simp [hafter, run_begin_of_unknown, lookUp, hcontains, hpolicy, turnAway, step, CallStage.progress?]
    | register =>
      let looked : Crowd σ := { s with calls := s.calls ++ [.unknown call] }
      let found : Crowd σ := { looked with engine := s.engine.insertOrReuse call.location }
      let attached : Crowd σ :=
        { found with engine := found.engine.numbered call, calls := s.calls ++ [found.binding call] }
      have hlookUp : s.lookUp call = looked := by
        simp [lookUp, hcontains, hpolicy, looked]
      have hinsert : looked.step world (.insert s.calls.length) = attached := by
        rw [step_insert world List.getElem?_concat_length, insert]
        simp [attached, found, looked]
      have hlatest : found.engine.registry.latest call.location =
          (s.engine.registry.insertOrReuse call.location).latest call.location := by
        obtain ⟨woken, hfound⟩ := s.engine.insertOrReuse_eq call.location
        simp only [found, hfound]
      rw [hafter, hlookUp, hinsert, run_begin_of_unknown hcontains, hpolicy, ← hlatest]
      exact send_of_bound world (s := attached) rfl

end Crowd

end Waterway
