import Waterway.Proofs.Registry.Actions

/-!
# What survives a run of the workers

Nothing is said about how long workers run, in which order, or how much time passes. What every step of a
worker keeps, and what does not speak of the time, is kept by all that the engine does of its own accord.

## Main definitions

- `Engine.Keeps` — an action keeps a property of the engine
- `Engine.Steady` — a property that every step of a worker keeps and that does not speak of the time

## Main statements

- `Engine.Steady.update_of_keeps`, `Engine.Steady.apply_of_keeps` — a call keeps what its parts keep
- `Engine.Steady.runUntil`, `Engine.Steady.awaitRoom`, `Engine.Steady.settle`, `Engine.Steady.announce`,
  `Engine.Steady.update` — the engine keeps what is steady
-/

namespace Waterway.Engine

variable {σ α β : Type} {world : Surroundings σ} {holds : Engine σ → Prop}

/-- An action keeps a property of the engine. -/
def Keeps (holds : Engine σ → Prop) (action : StateM (Engine σ) α) : Prop :=
  ∀ e, holds e → holds (action.run e).2

namespace Keeps

theorem pure (a : α) : Keeps holds (Pure.pure a : StateM (Engine σ) α) := by
  intro e he
  exact he

theorem bind {action : StateM (Engine σ) α} {next : α → StateM (Engine σ) β} (haction : Keeps holds action)
    (hnext : ∀ a, Keeps holds (next a)) : Keeps holds (action >>= next) := by
  intro e he
  rw [StateT.run_bind]
  exact hnext _ _ (haction e he)

/-- To read the engine is to go on with any engine that has the property. -/
theorem get_bind {next : Engine σ → StateM (Engine σ) β} (hnext : ∀ e, Keeps holds (next e)) :
    Keeps holds (get >>= next) := by
  intro e he
  exact hnext e e he

theorem modify {f : Engine σ → Engine σ} (hf : ∀ e, holds e → holds (f e)) :
    Keeps holds (modify f : StateM (Engine σ) PUnit) := by
  intro e he
  exact hf e he

theorem forM {action : α → StateM (Engine σ) Unit} (haction : ∀ a, Keeps holds (action a)) (xs : List α) :
    Keeps holds (xs.forM action) := by
  induction xs with
  | nil => exact pure ()
  | cons a xs ih => exact bind (haction a) fun _ => ih

/-- To wake workers that deliver keeps what is kept when any worker is woken. -/
theorem wakeDelivering (hwake : ∀ w, Keeps holds (wake w)) : Keeps holds wakeDelivering := by
  refine .get_bind fun e => .forM (fun entry => ?_) e.registry.staff
  obtain ⟨w, lane⟩ := entry
  cases hactivity : lane.activity with
  | delivering => simpa only [hactivity] using hwake w
  | ready => simpa only [hactivity] using Keeps.pure ()
  | stopped => simpa only [hactivity] using Keeps.pure ()

end Keeps

/-- Workers are woken, and nothing else happens. -/
theorem run_wakeDelivering (e : Engine σ) : ∃ woken, wakeDelivering.run e = ((), { e with woken }) := by
  have hwake (w : WorkerId) : Keeps (fun e' : Engine σ => ∃ woken, e' = { e with woken }) (wake w) := by
    rintro _ ⟨woken, rfl⟩
    obtain ⟨woken', hrun⟩ := run_wake w { e with woken }
    exact ⟨woken', by rw [hrun]⟩
  obtain ⟨woken, hafter⟩ := Keeps.wakeDelivering hwake e ⟨e.woken, rfl⟩
  exact ⟨woken, Prod.ext rfl hafter⟩

/-- The timeline is changed, and then workers are woken. -/
theorem run_onTimeline_wakeDelivering (f : Timeline → α × Timeline) (next : StateM (Engine σ) β) (e : Engine σ) :
    ∃ woken, (onTimeline f >>= fun _ => wakeDelivering >>= fun _ => next).run e =
      next.run { e with timeline := (f e.timeline).2, woken } := by
  obtain ⟨woken, hwake⟩ := run_wakeDelivering { e with timeline := (f e.timeline).2 }
  have hchange : (onTimeline f).run e = ((f e.timeline).1, { e with timeline := (f e.timeline).2 }) := rfl
  refine ⟨woken, ?_⟩
  rw [StateT.run_bind, hchange]
  show (wakeDelivering >>= fun _ => next).run _ = _
  rw [StateT.run_bind, hwake]
  rfl

/-- A property that every step of a worker keeps, and that does not speak of the subscribers, of the time or
of who is to run next. -/
structure Steady (world : Surroundings σ) (holds : Engine σ → Prop) : Prop where
  work : ∀ w, Keeps holds (work world w)
  elsewhere : ∀ e timeline woken, holds e → holds { e with timeline, woken }

namespace Steady

theorem onTimeline (h : Steady world holds) (f : Timeline → α × Timeline) :
    Keeps holds (onTimeline f : StateM (Engine σ) α) := by
  intro e he
  exact h.elsewhere e (f e.timeline).2 e.woken he

theorem wake (h : Steady world holds) (w : WorkerId) : Keeps holds (wake w) := by
  intro e he
  obtain ⟨woken, hrun⟩ := run_wake w e
  rw [hrun]
  exact h.elsewhere e e.timeline woken he

theorem workOff (h : Steady world holds) (w : WorkerId) (n : Nat) : Keeps holds (workOff world w n) := by
  induction n with
  | zero => exact .pure ()
  | succ n ih =>
    refine .bind (h.work w) fun worked => ?_
    cases worked with
    | false => exact .pure _
    | true => exact ih

theorem runWoken (h : Steady world holds) : Keeps holds (runWoken world) := by
  intro e he
  -- the workers that are run are those that had been woken at the start
  exact Keeps.forM (fun w => h.workOff w e.load) e.woken _ (h.elsewhere e e.timeline [] he)

theorem wakeDelivering (h : Steady world holds) : Keeps holds wakeDelivering :=
  .wakeDelivering h.wake

theorem passTime (h : Steady world holds) (deliveries : List Delivery) :
    Keeps holds (passTime deliveries) := by
  cases deliveries with
  | nil => exact .pure ()
  | cons d rest =>
    refine .bind (.modify fun e he => ?_) fun _ => h.wakeDelivering
    exact h.elsewhere e _ e.woken he

theorem runUntil (h : Steady world holds) (stops : Engine σ → Bool) (n : Nat) :
    Keeps holds (runUntil world stops n) := by
  induction n with
  | zero => exact .pure ()
  | succ n ih =>
    refine .get_bind fun e => ?_
    by_cases hstops : stops e
    · simpa only [hstops, if_true] using Keeps.pure ()
    · simp only [hstops]
      refine .bind h.runWoken fun _ => .get_bind fun e => ?_
      by_cases hstops : stops e
      · simpa only [hstops, if_true] using Keeps.pure ()
      · simp only [hstops]
        cases e.awaited with
        | nil => exact .pure ()
        | cons d rest => exact .bind (h.passTime (d :: rest)) fun _ => ih

theorem settle (h : Steady world holds) : Keeps holds (settle world) :=
  .get_bind fun e => h.runUntil _ (e.load + 1)

theorem awaitRoom (h : Steady world holds) (w : WorkerId) : Keeps holds (awaitRoom world w) :=
  .get_bind fun e => h.runUntil _ (e.load + 1)

/-- A broadcast that waits for the subscribers keeps what is steady. -/
theorem announce (h : Steady world holds) (location : LocationId) (text : String) (timeout : Nat) :
    Keeps holds (announce world location text timeout) := by
  refine .bind (h.onTimeline _) fun delivery => .bind h.runWoken fun _ => ?_
  refine .bind (.modify fun e he => ?_) fun _ => .get_bind fun e => .pure _
  exact h.elsewhere e _ e.woken he

section Calls

variable {location : LocationId} (h : Steady world holds) (hresolve : Keeps holds (resolve location))
  (henqueue : ∀ w c, Keeps holds (enqueue w c))
include h hresolve henqueue

/-- What is steady survives that an observation is handed in, if asking for the location and entering its queue keep
it. -/
theorem update_of_keeps (o : Observation Float) : Keeps holds (Engine.update world location o) := by
  refine .bind hresolve fun outcome => ?_
  match outcome with
  | .error _ => exact .pure _
  | .ok none => exact .pure _
  | .ok (some w) => exact .bind (h.awaitRoom w) fun _ => henqueue w _

/-- The same for a caller who waits for the outcome. -/
theorem apply_of_keeps (hticket : Keeps holds newTicket) (o : Observation Float) :
    Keeps holds (apply world location o) := by
  refine .bind hresolve fun outcome => ?_
  match outcome with
  | .error _ => exact .pure _
  | .ok none => exact .pure _
  | .ok (some w) =>
    refine .bind (h.awaitRoom w) fun _ => .bind hticket fun ticket => .bind (henqueue w _) fun entered => ?_
    match entered with
    | .error _ => exact .pure _
    | .ok () => exact .get_bind fun e => .bind (h.runUntil _ _) fun _ => .get_bind fun e => .pure _

end Calls

/-- Handing an observation in keeps what is steady and does not speak of the registry. -/
theorem update (h : Steady world holds)
    (hregistry : ∀ e registry woken, holds e → holds { e with registry, woken }) (location : LocationId)
    (o : Observation Float) : Keeps holds (update world location o) := by
  have hresolve : Keeps holds (resolve location) := by
    intro e he
    obtain ⟨woken, hrun⟩ := run_resolve location e
    rw [hrun]
    exact hregistry e _ woken he
  have henqueue (w : WorkerId) (c : Command) : Keeps holds (enqueue w c) := by
    intro e he
    rcases run_enqueue w c e with ⟨lane, woken, -, -, hrun⟩ | ⟨-, hrun⟩
    · rw [hrun]
      exact hregistry e _ woken he
    · rw [hrun]
      exact he
  exact h.update_of_keeps hresolve henqueue o

end Steady

end Waterway.Engine
