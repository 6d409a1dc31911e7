import Waterway.Proofs.Registry.Actions

/-!
# Producers and workers in any order

Many producers hand observations in while workers take them out. A producer, a worker, and whatever else
goes on make one move at a time, and nothing is said about who is next.

## Main definitions

- `Move` — what can happen next
- `System` — an engine and the calls that producers have begun; `System.step`, `System.run` for its moves
- `System.Reachable` — a system that has come about from an empty registry
- `System.accepted` — the commands that producers have got into the queue of a worker
- `System.handled` — the commands that a worker has taken, with the thresholds that were had for each
- `Engine.Untouched` — nothing has changed for a worker but that others may have been answered

## Design notes

What was accepted is read off from what the producers are told, and what was handled from what the worker
finds in front of it, so that neither mentions what becomes of a queue.

A producer belongs to the worker that was found first. Where that worker is replaced meanwhile, the producer goes on
with it, or is refused.
-/

namespace Waterway

open Engine

/-- What can happen next. -/
inductive Move (σ : Type) where
  /-- A producer hands an observation in. -/
  | call (c : Call)
  /-- The producer who made a call tries again, if there was no room for the observation. -/
  | retry (number : Nat)
  /-- A worker does the next thing that it has to do. If it has been told to stop it may linger before it does. -/
  | work (w : WorkerId) (lingers : Bool := false)
  | register (devices : Devices) (site : Site Float)
  | shutdown
  /-- Something happens to the subscribers, to the clock or in the world outside. -/
  | elsewhere (timeline : Timeline) (outside : σ) (woken : List WorkerId)

/-- The command that a producer has got into a queue, if the call has come so far. -/
def Engine.Progress.entry (o : Observation Float) : Progress → Option Command
  | .ended (.ok _) => some ⟨o, none⟩
  | .ended (.error _) => none
  | .blocked _ _ => none
  | .pending _ ticket => some ⟨o, some ticket⟩

theorem Engine.Progress.entry_ofEntry (w : WorkerId) (c : Command) :
    (Progress.ofEntry w c).entry c.observation = some c := by
  obtain ⟨o, ticket⟩ := c
  cases ticket <;> rfl

/-- An engine and the calls that producers have begun. -/
structure System (σ : Type) where
  engine : Engine σ
  calls : List Progress := []

namespace System

variable {σ : Type}

/-- Before anything is registered. -/
def start (settings : RegistrySettings) (publishTimeout : Option Nat) (timeline : Timeline) (outside : σ) :
    System σ :=
  { engine := { registry := { settings }, timeline, outside, publishTimeout } }

def step (world : Surroundings σ) (s : System σ) : Move σ → System σ
  | .call c =>
    let begun := (begin c).run s.engine
    { engine := begun.2, calls := s.calls ++ [begun.1] }
  | .retry number =>
    match s.calls[number]? with
    | none => s
    | some p =>
      let tried := (Engine.retry p).run s.engine
      { engine := tried.2, calls := s.calls.set number tried.1 }
  | .work w lingers => { s with engine := ((work world w lingers).run s.engine).2 }
  | .register devices site => { s with engine := ((Engine.register devices site).run s.engine).2 }
  | .shutdown => { s with engine := (Engine.shutdown.run s.engine).2 }
  | .elsewhere timeline outside woken => { s with engine := { s.engine with timeline, outside, woken } }

/-- A producer who does not wait for room has nothing to try. -/
theorem step_retry {s : System σ} {number : Nat} {p : Progress} (world : Surroundings σ)
    (hcall : s.calls[number]? = some p) (hp : p.isBlocked = false) :
    s.step world (.retry number) = s := by
  obtain ⟨hlt, hget⟩ := List.getElem?_eq_some_iff.mp hcall
  have hretry : (Engine.retry p).run s.engine = (p, s.engine) := by
    cases p with
    | blocked w c => cases hp
    | ended result => rfl
    | pending w ticket => rfl
  simp only [step, hcall, hretry]
  rw [← hget, List.set_getElem_self]

/-- A producer who waits for room tries again. -/
theorem step_retry_blocked {s : System σ} {number : Nat} {w : WorkerId} {c : Command}
    (world : Surroundings σ) (hcall : s.calls[number]? = some (.blocked w c)) :
    s.step world (.retry number) =
      { engine := ((tryEnqueue w c).run s.engine).2
        calls := s.calls.set number ((tryEnqueue w c).run s.engine).1 } := by
  rw [step, hcall]
  rfl

/-- A sequence of moves. -/
def run (world : Surroundings σ) (s : System σ) (moves : List (Move σ)) : System σ :=
  moves.foldl (step world) s

/-- A system that has come about from an empty registry. -/
inductive Reachable (world : Surroundings σ) : System σ → Prop where
  | start (settings : RegistrySettings) (publishTimeout : Option Nat) (timeline : Timeline) (outside : σ) :
      Reachable world (start settings publishTimeout timeline outside)
  | step {s : System σ} (m : Move σ) : Reachable world s → Reachable world (s.step world m)

theorem Reachable.run {world : Surroundings σ} {s : System σ} (hs : s.Reachable world)
    (moves : List (Move σ)) : (s.run world moves).Reachable world := by
  induction moves generalizing s with
  | nil => exact hs
  | cons m moves ih => exact ih (hs.step m)

/-- The command that gets into the queue of a worker by a move, as the producer is told. -/
def accepts (w : WorkerId) (s : System σ) : Move σ → Option Command
  | .call c =>
    if s.engine.registry.found? c.location = some w then ((begin c).run s.engine).1.entry c.observation else none
  | .retry number =>
    match s.calls[number]? with
    | some (.blocked v c) => if v = w then ((tryEnqueue v c).run s.engine).1.entry c.observation else none
    | _ => none
  | _ => none

/-- The command that a worker takes by a move. -/
def handles (world : Surroundings σ) (w : WorkerId) (s : System σ) : Move σ → Option Handling
  | .work v lingers => if v = w then s.engine.handling world w lingers else none
  | _ => none

/-- What is seen of the moves of a run, in order. -/
def gather {α : Type} (world : Surroundings σ) (see : System σ → Move σ → Option α) :
    System σ → List (Move σ) → List α
  | _, [] => []
  | s, m :: moves => (see s m).toList ++ gather world see (s.step world m) moves

theorem gather_append {α : Type} (world : Surroundings σ) (see : System σ → Move σ → Option α) (s : System σ)
    (moves later : List (Move σ)) :
    gather world see s (moves ++ later) = gather world see s moves ++ gather world see (s.run world moves) later := by
  induction moves generalizing s with
  | nil => rfl
  | cons m moves ih =>
    rw [List.cons_append, gather, ih, gather, List.append_assoc]
    rfl

/-- The commands that got into the queue of a worker, in order. -/
def accepted (world : Surroundings σ) (w : WorkerId) (s : System σ) (moves : List (Move σ)) : List Command :=
  gather world (accepts w) s moves

/-- The commands that a worker has taken, in order. -/
def handled (world : Surroundings σ) (w : WorkerId) (s : System σ) (moves : List (Move σ)) : List Handling :=
  gather world (handles world w) s moves

end System

namespace Engine

variable {σ : Type} {w v : WorkerId} {e after : Engine σ} {p : Progress}

/-- The analyses of a location that have been handed over. -/
def publishedOn (location : LocationId) (e : Engine σ) : List (Analysis Float) :=
  e.published.filterMap fun (w, a) => if w.location = location then some a else none

/-- The analyses that a worker has handed over. -/
def publishedBy (w : WorkerId) (e : Engine σ) : List (Analysis Float) :=
  Keyed.under w e.published

/-- Nothing has changed for a worker but that others may have been answered. -/
structure Untouched (w : WorkerId) (e after : Engine σ) : Prop where
  lane : after.registry.laneOf? w = e.registry.laneOf? w
  publishedBy : after.publishedBy w = e.publishedBy w
  answers : e.answers <+: after.answers

theorem publishedBy_append (e : Engine σ) (w v : WorkerId) (publication : Option (Analysis Float)) :
    Keyed.under w (e.published ++ (publication.map fun a => (v, a)).toList) =
      e.publishedBy w ++ if v = w then publication.toList else [] := by
  rw [Keyed.under_append, publishedBy]
  by_cases h : v = w
  · subst h
    cases publication <;> simp [Keyed.under]
  · cases publication <;> simp [Keyed.under, h]

/-- Where only one worker of a location has handed analyses over, they are those of the location. -/
theorem publishedOn_of_publishedBy (hbegins : e.published <+: after.published)
    (hothers : ∀ v, v.location = w.location → v ≠ w → after.publishedBy v = e.publishedBy v)
    {publications : List (Analysis Float)} (hown : after.publishedBy w = e.publishedBy w ++ publications) :
    after.publishedOn w.location = e.publishedOn w.location ++ publications := by
  obtain ⟨new, hnew⟩ := hbegins
  have hsplit (v : WorkerId) : after.publishedBy v = e.publishedBy v ++ Keyed.under v new := by
    rw [publishedBy, ← hnew, Keyed.under_append, publishedBy]
  rw [hsplit w] at hown
  rw [publishedOn, ← hnew, List.filterMap_append, publishedOn, ← List.append_cancel_left hown]
  refine congrArg (_ ++ ·) (List.filterMap_congr ?_)
  rintro ⟨v, a⟩ hmem
  by_cases hv : v = w
  · simp [hv]
  · -- nobody else has handed anything over
    have hlocation : v.location ≠ w.location := by
      intro hlocation
      have hnone : Keyed.under v new = [] := by
        have hsame := hothers v hlocation hv
        rw [hsplit v] at hsame
        exact List.append_right_eq_self.mp hsame
      have ha := Keyed.mem_under.mpr hmem
      rw [hnone] at ha
      exact List.not_mem_nil ha
    simp [hv, hlocation]

/-- A worker touches itself alone. -/
theorem Worked.untouched {world : Surroundings σ} {lingers : Bool} (h : Worked world v lingers e after)
    (hother : w ≠ v) : Untouched w e after := by
  have hlane (f : Lane → Lane) : (e.registry.modifyLaneOf v f).laneOf? w = e.registry.laneOf? w := by
    rw [Registry.laneOf?_modifyLaneOf, if_neg hother]
  cases h with
  | idle => exact ⟨rfl, rfl, List.prefix_rfl⟩
  | ended => exact ⟨hlane _, rfl, List.prefix_append _ _⟩
  | delivered => exact ⟨hlane _, rfl, List.prefix_append _ _⟩
  | handled =>
    refine ⟨hlane _, ?_, List.prefix_append _ _⟩
    rw [publishedBy, publishedBy_append, if_neg (Ne.symm hother), List.append_nil]

/-- Who enters a queue touches its worker alone. -/
theorem Entered.untouched {c : Command} (h : Entered v c e p after) (hother : w ≠ v) : Untouched w e after := by
  cases h with
  | blocked => exact ⟨rfl, rfl, List.prefix_rfl⟩
  | refused => exact ⟨rfl, rfl, List.prefix_rfl⟩
  | entered =>
    refine ⟨?_, rfl, List.prefix_rfl⟩
    rw [Registry.enqueue, Registry.laneOf?_modifyLaneOf, if_neg hother]

/-- Who calls touches the workers of that location alone. -/
theorem Begun.untouched {call : Call} (h : Begun call e p after) (hother : w.location ≠ call.location) :
    Untouched w e after := by
  cases h with
  | ended => exact ⟨rfl, rfl, List.prefix_rfl⟩
  | @entered v _ _ _ hfound hentered =>
    have hne : w ≠ v := by
      rintro rfl
      exact hother (congrArg WorkerId.location (Registry.resolve_of_found? hfound).2)
    obtain ⟨hlane, hpublished, hanswers⟩ := hentered.untouched hne
    exact ⟨hlane.trans (Registry.laneOf?_resolve_of_ne hother), hpublished, hanswers⟩

theorem Worked.published_isPrefix {world : Surroundings σ} {lingers : Bool} (h : Worked world w lingers e after) :
    e.published <+: after.published := by
  cases h with
  | idle | ended | delivered => exact List.prefix_rfl
  | handled => exact List.prefix_append _ _

theorem Entered.published_eq {c : Command} (h : Entered w c e p after) : after.published = e.published := by
  cases h <;> rfl

theorem Begun.published_eq {call : Call} (h : Begun call e p after) : after.published = e.published := by
  cases h with
  | ended => rfl
  | entered _ hentered => exact hentered.published_eq

end Engine

namespace System

variable {σ : Type}

/-- What has been handed over stays so. -/
theorem published_run (world : Surroundings σ) (s : System σ) (moves : List (Move σ)) :
    s.engine.published <+: (s.run world moves).engine.published := by
  induction moves generalizing s with
  | nil => exact List.prefix_rfl
  | cons m moves ih =>
    refine List.IsPrefix.trans ?_ (ih (s.step world m))
    have hsame {after : System σ} (h : after.engine.published = s.engine.published) :
        s.engine.published <+: after.engine.published := h ▸ List.prefix_rfl
    cases m with
    | call c => exact hsame (begun_begin c s.engine).published_eq
    | retry number =>
      cases hcall : s.calls[number]? with
      | none => exact hsame (by rw [step, hcall])
      | some p =>
        cases p with
        | ended result => exact hsame (by rw [step_retry world hcall rfl])
        | pending w ticket => exact hsame (by rw [step_retry world hcall rfl])
        | blocked w c =>
          rw [step_retry_blocked world hcall]
          exact hsame (entered_tryEnqueue w c s.engine).published_eq
    | work w lingers => exact (worked_work world w lingers s.engine).published_isPrefix
    | register devices site =>
      obtain ⟨woken, hrun⟩ := run_register devices site s.engine
      exact hsame (by rw [step, hrun])
    | shutdown =>
      obtain ⟨woken, hrun⟩ := run_shutdown s.engine
      exact hsame (by rw [step, hrun])
    | elsewhere timeline outside woken => exact List.prefix_rfl

end System

end Waterway
