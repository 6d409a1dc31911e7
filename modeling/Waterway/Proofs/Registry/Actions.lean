import Waterway.Proofs.Registry.Account
import Waterway.Proofs.Registry.Lanes
import Waterway.Registry.Engine

/-!
# What the actions of the engine do

One statement per action says all that it can do to the engine. What uses an action cites its statement
and does not look into it.

## Main definitions

- `Engine.handling` — the command that a worker takes next, with the thresholds that it will be given
- `Engine.Worked` — the ways in which one step of a worker can go
- `Engine.Entered` — the ways in which an attempt to enter a queue can go
- `Engine.Begun` — the ways in which a call can begin
- `Engine.terms` — what no operation on a location changes

## Main statements

- `Engine.worked_work`, `Engine.entered_tryEnqueue`, `Engine.begun_begin` — there are no other ways
- `Engine.run_startEach_of_isMapped`, `Engine.run_startEach_of_not_isMapped` — a start, one site at a time
-/

namespace Waterway

theorem Lane.isAccepting_iff {l : Lane} : l.isAccepting ↔ l.activity ≠ .stopped := by
  rw [isAccepting]
  cases l.activity <;> simp

namespace Engine

variable {σ : Type}

theorem run_onRegistry (f : Registry → Registry) (e : Engine σ) :
    (onRegistry f).run e = ((), { e with registry := f e.registry }) :=
  rfl

theorem run_consult {α : Type} (action : StateM σ α) (e : Engine σ) :
    (consult action).run e = ((action.run e.outside).1, { e with outside := (action.run e.outside).2 }) :=
  rfl

theorem run_wake (w : WorkerId) (e : Engine σ) : ∃ woken, (wake w).run e = ((), { e with woken }) := by
  by_cases h : w ∈ e.woken
  · exact ⟨e.woken, Prod.ext rfl (if_pos h)⟩
  · exact ⟨e.woken ++ [w], Prod.ext rfl (if_neg h)⟩

theorem run_answer (ticket : Option Nat) (result : Except EngineError Judgement) (e : Engine σ) :
    (answer ticket result).run e = ((), { e with answers := e.answers ++ replyTo ticket result }) := by
  cases ticket with
  | none => rw [replyTo, Option.map_none, Option.toList_none, List.append_nil]; rfl
  | some n => rfl

/-- The answers to the callers in a queue that is given up. -/
def refusals (location : LocationId) (queue : List Command) :
    List (Nat × Except EngineError Judgement) :=
  queue.flatMap fun c => replyTo c.ticket (.error (.workerStopped location))

theorem run_abandonQueue (location : LocationId) (queue : List Command) (e : Engine σ) :
    (abandonQueue location queue).run e =
      ((), { e with answers := e.answers ++ refusals location queue }) := by
  induction queue generalizing e with
  | nil => rw [refusals, List.flatMap_nil, List.append_nil]; rfl
  | cons c queue ih =>
    have hfirst : (abandonQueue location (c :: queue)).run e = (abandonQueue location queue).run
        ((answer c.ticket (.error (.workerStopped location))).run e).2 := rfl
    rw [hfirst, run_answer, ih]
    simp only [refusals, List.flatMap_cons, List.append_assoc]

/-- With nothing to publish, or nobody to publish it to, a caller is answered at once. -/
theorem run_conclude_of_silent {handled : Handled} {e : Engine σ}
    (hsilent : handled.publication = none ∨ e.publishTimeout = none) (w : WorkerId) (ticket : Option Nat) :
    (conclude w ticket handled).run e = ((), { e with
      published := e.published ++ (handled.publication.map fun a => (w, a)).toList
      answers := e.answers ++ replyTo ticket handled.answer }) := by
  cases hpublication : handled.publication with
  | none => simp [conclude, hpublication, run_answer]
  | some a =>
    have htimeout : e.publishTimeout = none := hsilent.resolve_left (by simp [hpublication])
    have hpublish : (publish w a).run e = (none, { e with published := e.published ++ [(w, a)] }) := by
      simp [publish, htimeout]
      rfl
    have hrun : (conclude w ticket handled).run e =
        (answer ticket handled.answer).run ((publish w a).run e).2 := by
      simp [conclude, hpublication, hpublish]
      rfl
    rw [hrun, hpublish, run_answer]
    rfl

/-- With something to publish, and somebody to publish it to, a caller waits for the delivery. -/
theorem run_conclude_of_publication {handled : Handled} {e : Engine σ} {a : Analysis Float} {timeout : Nat}
    (hpublication : handled.publication = some a) (htimeout : e.publishTimeout = some timeout)
    (w : WorkerId) (ticket : Option Nat) :
    ∃ delivery timeline, (conclude w ticket handled).run e = ((), { e with
      registry := e.registry.modifyLaneOf w fun l =>
        { l with activity := .delivering delivery ticket handled.answer }
      timeline
      published := e.published ++ [(w, a)] }) := by
  let started := e.timeline.broadcast w.location (Envelope.ofAnalysis a).text timeout
  have hpublish : (publish w a).run e =
      (some started.1, { e with timeline := started.2, published := e.published ++ [(w, a)] }) := by
    simp [publish, onTimeline, htimeout, started]
    rfl
  have hrun : (conclude w ticket handled).run e =
      (onRegistry (·.modifyLaneOf w fun l =>
        { l with activity := .delivering started.1 ticket handled.answer })).run
          ((publish w a).run e).2 := by
    simp [conclude, hpublication, hpublish]
    rfl
  exact ⟨started.1, started.2, by rw [hrun, hpublish, run_onRegistry]⟩

/-- An answer is given at once, or when the delivery of the publication has ended. -/
theorem run_conclude (w : WorkerId) (ticket : Option Nat) (handled : Handled) (e : Engine σ) :
    ∃ (f : Lane → Lane) (timeline : Timeline) (given : List (Nat × Except EngineError Judgement)),
      (conclude w ticket handled).run e = ((), { e with
        registry := e.registry.modifyLaneOf w f
        timeline
        published := e.published ++ (handled.publication.map fun a => (w, a)).toList
        answers := e.answers ++ given }) ∧
      ((f = id ∧ given = replyTo ticket handled.answer) ∨
        (∃ delivery, f = fun l => { l with activity := .delivering delivery ticket handled.answer }) ∧
          given = []) := by
  have hsilent (h : handled.publication = none ∨ e.publishTimeout = none) :=
    run_conclude_of_silent h w ticket
  cases hpublication : handled.publication with
  | none =>
    refine ⟨id, e.timeline, replyTo ticket handled.answer, ?_, .inl ⟨rfl, rfl⟩⟩
    rw [hsilent (.inl hpublication), hpublication, Registry.modifyLaneOf_id]
  | some a =>
    cases htimeout : e.publishTimeout with
    | none =>
      refine ⟨id, e.timeline, replyTo ticket handled.answer, ?_, .inl ⟨rfl, rfl⟩⟩
      rw [hsilent (.inr htimeout), hpublication, htimeout, Registry.modifyLaneOf_id]
    | some timeout =>
      obtain ⟨delivery, timeline, hrun⟩ := run_conclude_of_publication hpublication htimeout w ticket
      refine ⟨_, timeline, [], ?_, .inr ⟨⟨delivery, rfl⟩, rfl⟩⟩
      rw [hrun, htimeout, List.append_nil]
      rfl

/-- The command that a worker takes next, with the thresholds that it will be given. -/
def handling (world : Surroundings σ) (w : WorkerId) (e : Engine σ) (lingers : Bool := false) : Option Handling :=
  match e.registry.laneOf? w with
  | some ⟨_, _, command :: _, .ready, isCancelled⟩ =>
    if isCancelled && !lingers then none
    else some ⟨command, ((world.thresholds e.timeline.clock).run e.outside).1⟩
  | _ => none

theorem handling_of_ready {world : Surroundings σ} {w : WorkerId} {e : Engine σ} {lane : Lane} {h : Handling}
    {queue : List Command} {lingers : Bool} (hlane : e.registry.laneOf? w = some lane)
    (hready : lane.activity = .ready) (hgoes : lane.isCancelled = false ∨ lingers)
    (hqueue : lane.queue = h.command :: queue)
    (hthresholds : h.thresholds = ((world.thresholds e.timeline.clock).run e.outside).1) :
    e.handling world w lingers = some h := by
  obtain ⟨devices, worker, _, _, isCancelled⟩ := lane
  obtain ⟨command, thresholds⟩ := h
  cases hready
  cases hqueue
  cases hthresholds
  have hgoes : (isCancelled && !lingers) = false := by simpa [imp_iff_not_or] using hgoes
  rw [handling, hlane]
  exact if_neg (Bool.eq_false_iff.mp hgoes)

/-- A worker that takes a command is ready for it. -/
theorem exists_of_handling {world : Surroundings σ} {w : WorkerId} {e : Engine σ} {lingers : Bool} {h : Handling}
    (hhandling : e.handling world w lingers = some h) :
    ∃ lane, e.registry.laneOf? w = some lane ∧ lane.activity = .ready ∧ (lane.isCancelled = false ∨ lingers) ∧
      h.thresholds = ((world.thresholds e.timeline.clock).run e.outside).1 := by
  rw [handling] at hhandling
  split at hhandling
  · next isCancelled hlane =>
    split at hhandling
    · cases hhandling
    · next hgoes =>
      obtain rfl := Option.some.inj hhandling
      exact ⟨_, hlane, rfl, by simpa [imp_iff_not_or] using hgoes, rfl⟩
  · cases hhandling

/-- The ways in which one step of a worker can go. -/
inductive Worked (world : Surroundings σ) (w : WorkerId) (lingers : Bool) (e : Engine σ) : Engine σ → Prop where
  /-- There is nothing to do. -/
  | idle (hnone : e.handling world w lingers = none) : Worked world w lingers e e
  /-- A worker that has been told to stop gives up its queue. -/
  | ended {lane : Lane} (hlane : e.registry.laneOf? w = some lane) (hready : lane.activity = .ready)
      (hcancelled : lane.isCancelled) (hlingers : lingers = false) :
      Worked world w lingers e { e with
        registry := e.registry.modifyLaneOf w fun l => { l with queue := [], activity := .stopped }
        answers := e.answers ++ refusals w.location lane.queue }
  /-- A delivery has ended, and the caller who waits is answered. -/
  | delivered {lane : Lane} {delivery : Nat} {ticket : Option Nat} {result : Except EngineError Judgement}
      (hlane : e.registry.laneOf? w = some lane)
      (hactivity : lane.activity = .delivering delivery ticket result) :
      Worked world w lingers e { e with
        registry := e.registry.modifyLaneOf w fun l => { l with activity := .ready }
        answers := e.answers ++ replyTo ticket result }
  /-- A command is handled. Its answer is given at once, or after a delivery. -/
  | handled {lane : Lane} {h : Handling} {queue : List Command} {f : Lane → Lane} {activity : Activity}
      {timeline : Timeline} {given : List (Nat × Except EngineError Judgement)}
      (hlane : e.registry.laneOf? w = some lane) (hready : lane.activity = .ready)
      (hgoes : lane.isCancelled = false ∨ lingers) (hqueue : lane.queue = h.command :: queue)
      (hthresholds : h.thresholds = ((world.thresholds e.timeline.clock).run e.outside).1)
      (hf : f lane = { lane with
        worker := (lane.worker.handle h.observation h.thresholds).1, queue, activity })
      (hgiven :
        (activity = .ready ∧
          given = replyTo h.command.ticket (lane.worker.handle h.observation h.thresholds).2.answer) ∨
        (∃ delivery, activity = .delivering delivery h.command.ticket
          (lane.worker.handle h.observation h.thresholds).2.answer) ∧ given = []) :
      Worked world w lingers e { e with
        registry := e.registry.modifyLaneOf w f
        timeline
        outside := ((world.thresholds e.timeline.clock).run e.outside).2
        published := e.published ++
          ((lane.worker.handle h.observation h.thresholds).2.publication.map fun a => (w, a)).toList
        answers := e.answers ++ given }

/-- Where there is nothing to do, or a delivery goes on, a worker does nothing. -/
theorem run_work_of_idle {world : Surroundings σ} {w : WorkerId} {lingers : Bool} {e : Engine σ}
    (hidle : ∀ lane, e.registry.laneOf? w = some lane → lane.activity = .stopped ∨
      (lane.activity = .ready ∧ (lane.isCancelled = false ∨ lingers) ∧ lane.queue = []) ∨
      ∃ delivery ticket result, lane.activity = .delivering delivery ticket result ∧
        (e.timeline.waiting? delivery).isSome) :
    (work world w lingers).run e = (false, e) := by
  cases hlane : e.registry.laneOf? w with
  | none => simp [work, hlane]; rfl
  | some lane =>
    rcases hidle lane hlane with hstopped | ⟨hready, hgoes, hempty⟩ | ⟨delivery, ticket, result, hdelivering, hwaiting⟩
    · simp [work, hlane, hstopped]; rfl
    · have hgoes : ¬(lane.isCancelled = true ∧ lingers = false) := by simpa [imp_iff_not_or] using hgoes
      simp [work, hlane, hready, hgoes, hempty]; rfl
    · simp [work, hlane, hdelivering, hwaiting]; rfl

theorem run_work_of_cancelled {w : WorkerId} {e : Engine σ} {lane : Lane}
    (hlane : e.registry.laneOf? w = some lane) (hready : lane.activity = .ready) (hcancelled : lane.isCancelled)
    (world : Surroundings σ) :
    (work world w).run e = (false, { e with
      registry := e.registry.modifyLaneOf w fun l => { l with queue := [], activity := .stopped }
      answers := e.answers ++ refusals w.location lane.queue }) := by
  simp [work, stop, hlane, hready, hcancelled, run_onRegistry, run_abandonQueue]; rfl

theorem run_work_of_delivered {w : WorkerId} {e : Engine σ} {lane : Lane} {delivery : Nat}
    {ticket : Option Nat} {result : Except EngineError Judgement}
    (hlane : e.registry.laneOf? w = some lane) (hdelivering : lane.activity = .delivering delivery ticket result)
    (hover : e.timeline.waiting? delivery = none) (world : Surroundings σ) (lingers : Bool) :
    (work world w lingers).run e = (true, { e with
      registry := e.registry.modifyLaneOf w fun l => { l with activity := .ready }
      answers := e.answers ++ replyTo ticket result }) := by
  simp [work, hlane, hdelivering, hover, run_onRegistry, run_answer]; rfl

/-- A worker that is ready judges by the thresholds that it is given, and passes on what has come of it. -/
theorem run_work_of_ready {w : WorkerId} {lingers : Bool} {e : Engine σ} {lane : Lane} {command : Command}
    {queue : List Command} (hlane : e.registry.laneOf? w = some lane) (hready : lane.activity = .ready)
    (hgoes : lane.isCancelled = false ∨ lingers) (hqueue : lane.queue = command :: queue) (world : Surroundings σ) :
    let asked := (world.thresholds e.timeline.clock).run e.outside
    let outcome := lane.worker.handle command.observation asked.1
    ((work world w lingers).run e).2 = ((conclude w command.ticket outcome.2).run { e with
      registry := e.registry.modifyLaneOf w fun l => { l with worker := outcome.1, queue }
      outside := asked.2 }).2 := by
  have hgoes : ¬(lane.isCancelled = true ∧ lingers = false) := by simpa [imp_iff_not_or] using hgoes
  simp [work, hlane, hready, hgoes, hqueue]
  rfl

/-- There are no other ways in which a worker does one step. -/
theorem worked_work (world : Surroundings σ) (w : WorkerId) (lingers : Bool) (e : Engine σ) :
    Worked world w lingers e ((work world w lingers).run e).2 := by
  have hidle (hnone : e.handling world w lingers = none)
      (hrun : (work world w lingers).run e = (false, e)) :
      Worked world w lingers e ((work world w lingers).run e).2 := by
    rw [hrun]
    exact .idle hnone
  cases hlane : e.registry.laneOf? w with
  | none => exact hidle (by simp [handling, hlane]) (run_work_of_idle fun _ h => nomatch hlane.symm.trans h)
  | some lane =>
    obtain ⟨devices, worker, queue, activity, isCancelled⟩ := lane
    -- whoever does nothing has a lane in one of the three states for that
    have hrest (h : activity = .stopped ∨ (activity = .ready ∧ (isCancelled = false ∨ lingers) ∧ queue = []) ∨
        ∃ delivery ticket result, activity = .delivering delivery ticket result ∧
          (e.timeline.waiting? delivery).isSome) : (work world w lingers).run e = (false, e) := by
      refine run_work_of_idle fun lane hsame => ?_
      obtain rfl := Option.some.inj (hlane.symm.trans hsame)
      exact h
    cases activity with
    | stopped => exact hidle (by simp [handling, hlane]) (hrest (.inl rfl))
    | delivering delivery ticket result =>
      by_cases hwaiting : (e.timeline.waiting? delivery).isSome
      · exact hidle (by simp [handling, hlane]) (hrest (.inr (.inr ⟨_, _, _, rfl, hwaiting⟩)))
      · rw [run_work_of_delivered hlane rfl (by simpa using hwaiting)]
        exact .delivered hlane rfl
    | ready =>
      by_cases hgoes : isCancelled = false ∨ lingers
      · cases queue with
        | nil => exact hidle (by simp [handling, hlane]) (hrest (.inr (.inl ⟨rfl, hgoes, rfl⟩)))
        | cons command queue =>
          let asked := (world.thresholds e.timeline.clock).run e.outside
          let h : Handling := ⟨command, asked.1⟩
          let outcome := worker.handle h.observation h.thresholds
          -- the engine when the worker has judged, before anything is passed on
          let judged : Engine σ := { e with
            registry := e.registry.modifyLaneOf w fun l => { l with worker := outcome.1, queue }
            outside := asked.2 }
          have hrun : ((work world w lingers).run e).2 =
              ((conclude w command.ticket outcome.2).run judged).2 :=
            run_work_of_ready hlane rfl hgoes rfl world
          obtain ⟨f, timeline, given, hconclude, hgiven⟩ :=
            run_conclude w command.ticket outcome.2 judged
          rw [hrun, hconclude]
          simp only [judged, Registry.modifyLaneOf_modifyLaneOf]
          rcases hgiven with ⟨rfl, hgiven⟩ | ⟨⟨delivery, rfl⟩, hgiven⟩
          · exact .handled hlane rfl hgoes rfl rfl rfl (.inl ⟨rfl, hgiven⟩)
          · exact .handled hlane rfl hgoes rfl rfl rfl (.inr ⟨⟨delivery, rfl⟩, hgiven⟩)
      · obtain ⟨hcancelled, rfl⟩ : isCancelled = true ∧ lingers = false := by simpa using hgoes
        rw [run_work_of_cancelled hlane rfl hcancelled]
        exact .ended hlane rfl hcancelled rfl

/-- A worker changes the world outside by asking for thresholds alone. -/
theorem Worked.outside_eq {world : Surroundings σ} {w : WorkerId} {lingers : Bool} {e after : Engine σ}
    (h : Worked world w lingers e after)
    (hthresholds : ∀ now, ((world.thresholds now).run e.outside).2 = e.outside) :
    after.outside = e.outside := by
  cases h with
  | idle => rfl
  | ended => rfl
  | delivered => rfl
  | handled => exact hthresholds _

/-- How far a caller has come whose command is in a queue. -/
def Progress.ofEntry (w : WorkerId) (c : Command) : Progress :=
  match c.ticket with
  | none => .ended (.ok none)
  | some ticket => .pending w ticket

/-- Who enters the queue of a worker that takes observations wakes it; others are refused. -/
theorem run_enqueue (w : WorkerId) (c : Command) (e : Engine σ) :
    (∃ lane woken, e.registry.laneOf? w = some lane ∧ lane.isAccepting ∧
      (enqueue w c).run e = (.ok (), { e with registry := e.registry.enqueue w c, woken })) ∨
    (∀ lane, e.registry.laneOf? w = some lane → ¬lane.isAccepting) ∧
      (enqueue w c).run e = (.error (.workerStopped w.location), e) := by
  cases hlane : e.registry.laneOf? w with
  | none => exact .inr ⟨fun _ h => (nomatch h), by simp [enqueue, hlane]; rfl⟩
  | some lane =>
    by_cases haccepting : lane.isAccepting
    · obtain ⟨woken, hwake⟩ := run_wake w { e with registry := e.registry.enqueue w c }
      refine .inl ⟨lane, woken, rfl, haccepting, ?_⟩
      have hrun : (enqueue w c).run e =
          (.ok (), ((wake w).run { e with registry := e.registry.enqueue w c }).2) := by
        simp [enqueue, hlane, haccepting, run_onRegistry]
        rfl
      rw [hrun, hwake]
    · refine .inr ⟨fun other hother => ?_, by simp [enqueue, hlane, haccepting]; rfl⟩
      obtain rfl := Option.some.inj hother
      exact haccepting

theorem run_tryEnqueue_of_full {w : WorkerId} {e : Engine σ} {lane : Lane}
    (hlane : e.registry.laneOf? w = some lane) (haccepting : lane.isAccepting)
    (hfull : ¬e.registry.hasRoom lane) (c : Command) :
    (tryEnqueue w c).run e = (.blocked w c, e) := by
  have hroom : ¬(e.registry.laneOf? w).all fun l => e.registry.hasRoom l || !l.isAccepting := by
    simp [hlane, hfull, haccepting]
  simp only [tryEnqueue, StateT.run_bind, StateT.run_get, pure_bind, hroom]
  rfl

/-- Without a worker that takes observations, nobody waits for room. -/
theorem run_tryEnqueue_of_closed {w : WorkerId} {e : Engine σ}
    (hclosed : ∀ lane, e.registry.laneOf? w = some lane → ¬lane.isAccepting) (c : Command) :
    (tryEnqueue w c).run e = (.ended (.error (.workerStopped w.location)), e) := by
  have hroom : (e.registry.laneOf? w).all fun l => e.registry.hasRoom l || !l.isAccepting := by
    cases hlane : e.registry.laneOf? w with
    | none => rfl
    | some lane => simp [hclosed lane hlane]
  rcases run_enqueue w c e with ⟨lane, -, hlane, haccepting, -⟩ | ⟨-, henqueue⟩
  · exact absurd haccepting (hclosed lane hlane)
  · simp only [tryEnqueue, StateT.run_bind, StateT.run_get, pure_bind, hroom, if_true, henqueue]
    rfl

theorem run_tryEnqueue_of_open {w : WorkerId} {e : Engine σ} {lane : Lane}
    (hlane : e.registry.laneOf? w = some lane) (haccepting : lane.isAccepting)
    (hroom : e.registry.hasRoom lane) (c : Command) :
    ∃ woken, (tryEnqueue w c).run e =
      (.ofEntry w c, { e with registry := e.registry.enqueue w c, woken }) := by
  have hroom : (e.registry.laneOf? w).all fun l => e.registry.hasRoom l || !l.isAccepting := by
    simp [hlane, hroom]
  rcases run_enqueue w c e with ⟨-, woken, -, -, henqueue⟩ | ⟨hclosed, -⟩
  · refine ⟨woken, ?_⟩
    simp only [tryEnqueue, StateT.run_bind, StateT.run_get, pure_bind, hroom, if_true, henqueue]
    cases hticket : c.ticket <;> simp only [Progress.ofEntry, hticket] <;> rfl
  · exact absurd haccepting (hclosed lane hlane)

/-- The ways in which an attempt to enter a queue can go. -/
inductive Entered (w : WorkerId) (c : Command) (e : Engine σ) : Progress → Engine σ → Prop where
  /-- There is no room. -/
  | blocked : Entered w c e (.blocked w c) e
  /-- There is nobody to enter for. -/
  | refused (hclosed : ∀ lane, e.registry.laneOf? w = some lane → ¬lane.isAccepting) :
      Entered w c e (.ended (.error (.workerStopped w.location))) e
  | entered {lane : Lane} {woken : List WorkerId} (hlane : e.registry.laneOf? w = some lane)
      (haccepting : lane.isAccepting) :
      Entered w c e (.ofEntry w c)
        { e with registry := e.registry.enqueue w c, woken }

/-- There are no other ways in which an attempt to enter a queue goes. -/
theorem entered_tryEnqueue (w : WorkerId) (c : Command) (e : Engine σ) :
    Entered w c e ((tryEnqueue w c).run e).1 ((tryEnqueue w c).run e).2 := by
  by_cases hclosed : ∀ lane, e.registry.laneOf? w = some lane → ¬lane.isAccepting
  · rw [run_tryEnqueue_of_closed hclosed]
    exact .refused hclosed
  · push Not at hclosed
    obtain ⟨lane, hlane, haccepting⟩ := hclosed
    by_cases hroom : e.registry.hasRoom lane
    · obtain ⟨woken, hrun⟩ := run_tryEnqueue_of_open hlane haccepting hroom c
      rw [hrun]
      exact .entered hlane haccepting
    · rw [run_tryEnqueue_of_full hlane haccepting hroom]
      exact .blocked

/-- Where no worker is found, nothing happens. -/
theorem run_resolve_of_found?_eq_none {location : LocationId} {e : Engine σ} (h : e.registry.found? location = none) :
    (resolve location).run e = ((e.registry.resolve location).1, e) := by
  obtain ⟨-, hsame, hnone⟩ := Registry.resolve_of_found?_eq_none h
  simp only [resolve, StateT.run_bind, StateT.run_get, pure_bind, StateT.run_modifyGet, hsame]
  cases houtcome : (e.registry.resolve location).1 with
  | error error => rfl
  | ok found =>
    cases found with
    | none => rfl
    | some w => exact absurd houtcome (hnone w)

theorem run_resolve_of_contains {location : LocationId} {e : Engine σ} (h : e.registry.contains location) :
    (resolve location).run e = (.ok (some (e.registry.latest location)), e) := by
  simp [resolve, h, Registry.resolve_of_contains]
  rfl

/-- A worker that has been registered to be found is woken. -/
theorem run_resolve_of_found? {location : LocationId} {e : Engine σ} {w : WorkerId}
    (habsent : e.registry.contains location = false) (hfound : e.registry.found? location = some w) :
    (resolve location).run e =
      (.ok (some w), ((wake w).run { e with registry := e.registry.insertOrReuse location }).2) := by
  simp only [resolve, StateT.run_bind, StateT.run_get, pure_bind, StateT.run_modifyGet, habsent,
    (Registry.resolve_of_found? hfound).1]
  rfl

/-- To look for a worker changes the registry alone, as the registry says. -/
theorem run_resolve (location : LocationId) (e : Engine σ) :
    ∃ woken, (resolve location).run e =
      ((e.registry.resolve location).1, { e with registry := (e.registry.resolve location).2, woken }) := by
  cases hcontains : e.registry.contains location with
  | true => exact ⟨e.woken, by rw [run_resolve_of_contains hcontains, Registry.resolve_of_contains hcontains]⟩
  | false =>
    cases hfound : e.registry.found? location with
    | none =>
      obtain ⟨-, hsame, -⟩ := Registry.resolve_of_found?_eq_none hfound
      exact ⟨e.woken, by rw [run_resolve_of_found?_eq_none hfound, hsame]⟩
    | some w =>
      obtain ⟨woken, hwake⟩ := run_wake w { e with registry := e.registry.insertOrReuse location }
      exact ⟨woken, by rw [run_resolve_of_found? hcontains hfound, hwake, (Registry.resolve_of_found? hfound).1]⟩

/-- The number of a call, if its caller waits for the judgement. -/
def Call.ticket (call : Call) (e : Engine σ) : Option Nat :=
  if call.waits then some e.tickets else none

/-- The ways in which a call can begin. -/
inductive Begun (call : Call) (e : Engine σ) : Progress → Engine σ → Prop where
  /-- The location is not known, and the call ends with that. -/
  | ended {woken : List WorkerId} (hnone : e.registry.found? call.location = none) :
      Begun call e (.ended (match (e.registry.resolve call.location).1 with
        | .error error => .error error
        | .ok _ => if call.waits then .error (.unknownLocation call.location) else .ok none)) { e with woken }
  /-- The location is known, or has just been registered, and the command is brought to its worker. -/
  | entered {w : WorkerId} {woken : List WorkerId} {p : Progress} {after : Engine σ}
      (hfound : e.registry.found? call.location = some w)
      (hentered : Entered w ⟨call.observation, call.ticket e⟩
        { e with
          registry := (e.registry.resolve call.location).2
          tickets := e.tickets + (call.ticket e).toList.length
          woken } p after) :
      Begun call e p after

/-- A call is brought to the worker of its location, or ends without one. -/
theorem run_begin (call : Call) (e : Engine σ) :
    ∃ woken, (begin call).run e = match (e.registry.resolve call.location).1 with
      | .error error => (.ended (.error error), { e with woken })
      | .ok none =>
        (.ended (if call.waits then .error (.unknownLocation call.location) else .ok none), { e with woken })
      | .ok (some w) => (tryEnqueue w ⟨call.observation, call.ticket e⟩).run { e with
          registry := (e.registry.resolve call.location).2
          tickets := e.tickets + (call.ticket e).toList.length
          woken } := by
  obtain ⟨woken, hresolve⟩ := run_resolve call.location e
  refine ⟨woken, ?_⟩
  rw [begin, StateT.run_bind, hresolve]
  cases hfound : e.registry.found? call.location with
  | none =>
    obtain ⟨-, hsame, hnone⟩ := Registry.resolve_of_found?_eq_none hfound
    rw [hsame]
    match houtcome : (e.registry.resolve call.location).1 with
    | .error error => rfl
    | .ok none => rfl
    | .ok (some w) => exact absurd houtcome (hnone w)
  | some w =>
    rw [(Registry.resolve_of_found? hfound).1, Call.ticket]
    cases call.waits <;> rfl

/-- There are no other ways in which a call begins. -/
theorem begun_begin (call : Call) (e : Engine σ) :
    Begun call e ((begin call).run e).1 ((begin call).run e).2 := by
  obtain ⟨woken, hrun⟩ := run_begin call e
  cases hfound : e.registry.found? call.location with
  | none =>
    obtain ⟨-, -, hnone⟩ := Registry.resolve_of_found?_eq_none hfound
    have hended := @Begun.ended _ call e woken hfound
    rw [hrun]
    match houtcome : (e.registry.resolve call.location).1 with
    | .error error =>
      rw [houtcome] at hended
      exact hended
    | .ok none =>
      rw [houtcome] at hended
      exact hended
    | .ok (some w) => exact absurd houtcome (hnone w)
  | some w =>
    rw [hrun, (Registry.resolve_of_found? hfound).1]
    refine @Begun.entered _ call e w woken _ _ hfound ?_
    rw [(Registry.resolve_of_found? hfound).1]
    exact entered_tryEnqueue _ _ _

/-- What no operation on a location changes. -/
def terms (e : Engine σ) : RegistrySettings × Bool × Option Nat :=
  (e.registry.settings, e.registry.isShutDown, e.publishTimeout)

theorem terms_modifyLaneOf (e : Engine σ) (w : WorkerId) (f : Lane → Lane) :
    ({ e with registry := e.registry.modifyLaneOf w f } : Engine σ).terms = e.terms := by
  obtain ⟨lanes, former, h⟩ := e.registry.exists_modifyLaneOf_eq w f
  rw [h]
  rfl

theorem Worked.terms_eq {world : Surroundings σ} {w : WorkerId} {lingers : Bool} {e after : Engine σ}
    (h : Worked world w lingers e after) : after.terms = e.terms := by
  cases h with
  | idle => rfl
  | ended | delivered | handled => exact e.terms_modifyLaneOf w _

theorem Entered.terms_eq {w : WorkerId} {c : Command} {e after : Engine σ} {p : Progress}
    (h : Entered w c e p after) : after.terms = e.terms := by
  cases h with
  | blocked | refused => rfl
  | entered => exact e.terms_modifyLaneOf w _

theorem terms_resolve (r : Registry) (location : LocationId) :
    (r.resolve location).2.settings = r.settings ∧ (r.resolve location).2.isShutDown = r.isShutDown := by
  rcases r.resolve_snd location with hsame | ⟨-, hnew⟩
  · rw [hsame]
    exact ⟨rfl, rfl⟩
  · rw [hnew]
    exact ⟨rfl, rfl⟩

theorem Begun.terms_eq {call : Call} {e after : Engine σ} {p : Progress} (h : Begun call e p after) :
    after.terms = e.terms := by
  cases h with
  | ended => rfl
  | entered hfound hentered =>
    obtain ⟨hsettings, hshutDown⟩ := terms_resolve e.registry call.location
    rw [hentered.terms_eq, terms, terms, hsettings, hshutDown]

/-- Who is replaced is woken to stop, and who comes in the place is woken too. -/
theorem run_register (devices : Devices) (site : Site Float) (e : Engine σ) :
    ∃ woken, (register devices site).run e =
      ((), { e with registry := e.registry.register devices site, woken }) := by
  let registered : Engine σ := { e with registry := e.registry.register devices site }
  cases hcontains : e.registry.contains devices.location with
  | false =>
    obtain ⟨woken, hwake⟩ := run_wake (registered.registry.latest devices.location) registered
    refine ⟨woken, Eq.trans ?_ hwake⟩
    simp [register, hcontains, run_onRegistry, registered]
    rfl
  | true =>
    obtain ⟨woken, hold⟩ := run_wake (e.registry.latest devices.location) registered
    obtain ⟨woken', hnew⟩ :=
      run_wake (registered.registry.latest devices.location) { registered with woken }
    refine ⟨woken', Eq.trans ?_ hnew⟩
    have hrun : (register devices site).run e = (do
        wake (e.registry.latest devices.location)
        wake ((← get).registry.latest devices.location) : StateM (Engine σ) Unit).run registered := by
      simp [register, hcontains, run_onRegistry, registered]
      rfl
    rw [hrun, StateT.run_bind, hold]
    rfl

theorem run_shutdown (e : Engine σ) :
    ∃ woken, shutdown.run e = ((), { e with registry := e.registry.shutdown, woken }) := by
  have hwake (lanes : List (LocationId × Lane)) (e' : Engine σ) :
      ∃ woken, (lanes.forM fun entry => wake (e.registry.latest entry.1)).run e' = ((), { e' with woken }) := by
    induction lanes generalizing e' with
    | nil => exact ⟨e'.woken, rfl⟩
    | cons entry lanes ih =>
      obtain ⟨woken, hfirst⟩ := run_wake (e.registry.latest entry.1) e'
      obtain ⟨woken', hrest⟩ := ih { e' with woken }
      refine ⟨woken', ?_⟩
      change (lanes.forM fun entry => wake (e.registry.latest entry.1)).run
        ((wake (e.registry.latest entry.1)).run e').2 = _
      rw [hfirst]
      exact hrest
  obtain ⟨woken, hrun⟩ := hwake e.registry.lanes { e with registry := e.registry.shutdown }
  exact ⟨woken, hrun⟩

/-- A start asks the directory first. -/
theorem run_startAll_eq (world : Surroundings σ) (now : Instant) (e : Engine σ) :
    (startAll world now).run e = match (world.directory.run e.outside).1 with
      | .error error => (.error error, { e with outside := (world.directory.run e.outside).2 })
      | .ok known => (startEach world now 0 known).run { e with outside := (world.directory.run e.outside).2 } := by
  simp only [startAll, StateT.run_bind, run_consult]
  rcases world.directory.run e.outside with ⟨_ | _, outside⟩ <;> rfl

/-- A site that is not mapped is passed over. -/
theorem run_startEach_of_not_isMapped {devices : Devices} (h : devices.isMapped = false) (world : Surroundings σ)
    (now : Instant) (started : Nat) (rest : List Devices) (e : Engine σ) :
    (startEach world now started (devices :: rest)).run e = (startEach world now started rest).run e := by
  simp [startEach, h]

/-- A mapped site cannot be loaded and is the end, or it is registered and the others follow. -/
theorem run_startEach_of_isMapped {devices : Devices} (h : devices.isMapped) (world : Surroundings σ) (now : Instant)
    (started : Nat) (rest : List Devices) (e : Engine σ) :
    let loaded := (loadSite world.store (world.thresholds e.timeline.clock) devices e.registry.settings.windows now).run
      e.outside
    (startEach world now started (devices :: rest)).run e = match loaded.1 with
      | .error error => (.error error, { e with outside := loaded.2 })
      | .ok site => (startEach world now (started + 1) rest).run
          ((register devices site).run { e with outside := loaded.2 }).2 := by
  intro loaded
  simp only [startEach, h, if_true, StateT.run_bind, StateT.run_get, pure_bind, run_consult, loaded]
  rcases (loadSite world.store (world.thresholds e.timeline.clock) devices e.registry.settings.windows now).run
    e.outside with ⟨_ | _, outside⟩ <;> rfl

end Engine

end Waterway
