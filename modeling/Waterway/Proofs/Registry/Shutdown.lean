import Waterway.Proofs.Registry.Serialisation

/-!
# After a shutdown

A registry that has been shut down knows no location, and once the workers are gone no queue takes anything in. It stays
so unless the policy registers what is not known: then a call brings its location back, with a worker that has been told
to stop.

## Main definitions

- `Registry.queue` — the commands that wait for a worker
- `System.takes`, `System.taken` — what the queue of a worker takes in, by one move and in a run

## Main statements

- `System.taken_eq_nil_of_gone` — nothing is taken in for a location that stays unregistered and whose workers are gone
- `shutdown_final_iff` — for which locations a shutdown is the end

## Design notes

What a queue takes in is read off from the queue itself. A caller is told the same of an observation that was dropped
as of one that was taken in.
-/

namespace Waterway

open Engine

variable {σ : Type}

/-- The commands that wait for a worker. -/
def Registry.queue (r : Registry) (w : WorkerId) : List Command :=
  ((r.laneOf? w).map Lane.queue).getD []

theorem Move.IsTraffic.spares {m : Move σ} (h : m.IsTraffic) (location : LocationId) : m.Spares location := by
  cases m with
  | call | retry | work | elsewhere => trivial
  | register | shutdown => exact h.elim

namespace System

variable {world : Surroundings σ} {s : System σ} {location : LocationId}

/-- The command that the queue of a worker takes in by a move: the last one, if the queue has grown. -/
def takes (world : Surroundings σ) (w : WorkerId) (s : System σ) (m : Move σ) : Option Command :=
  let later := (s.step world m).engine.registry.queue w
  if (s.engine.registry.queue w).length < later.length then later.getLast? else none

/-- The commands that the queue of a worker takes in, in order. -/
def taken (world : Surroundings σ) (w : WorkerId) (s : System σ) (moves : List (Move σ)) : List Command :=
  gather world (takes world w) s moves

/-- Nothing is taken in for a location that stays unregistered and whose workers are gone. -/
theorem taken_eq_nil_of_gone {w : WorkerId} (habsent : ¬s.engine.registry.contains w.location)
    (hgone : ∀ lane ∈ s.engine.registry.laneOf? w, lane.activity = .stopped) {moves : List (Move σ)}
    (hmoves : ∀ m ∈ moves, m.IsTraffic)
    (hunasked : ¬(s.engine.registry.settings.policy = .register ∧ ∃ m ∈ moves, m.CallsFor w.location)) :
    s.taken world w moves = [] := by
  induction moves generalizing s with
  | nil => rfl
  | cons m moves ih =>
    obtain ⟨hm, hrest⟩ := List.forall_mem_cons.mp hmoves
    have hunasked' (hcalls : m.CallsFor w.location) : s.engine.registry.settings.policy ≠ .register := fun hpolicy =>
      hunasked ⟨hpolicy, m, List.mem_cons_self, hcalls⟩
    have habsent' : ¬(s.step world m).engine.registry.contains w.location := by
      rw [contains_step world hm]
      rintro (hknown | ⟨hpolicy, hcalls⟩)
      · exact habsent hknown
      · exact hunasked' hcalls hpolicy
    have hsettled (hcalls : m.CallsFor w.location) :
        (s.engine.registry.resolve w.location).2 = s.engine.registry := by
      refine (Registry.resolve_of_found?_eq_none ?_).2.1
      by_contra hfound
      obtain ⟨v, hv⟩ := Option.ne_none_iff_exists'.mp hfound
      obtain ⟨hresolve, -⟩ := Registry.resolve_of_found? hv
      have hcontains : (s.engine.registry.resolve w.location).2.contains w.location := by
        rw [hresolve, Registry.contains_insertOrReuse, beq_self_eq_true, Bool.true_or]
      rcases Registry.contains_resolve.mp hcontains with hknown | ⟨hpolicy, -⟩
      · exact habsent hknown
      · exact hunasked' hcalls hpolicy
    obtain ⟨-, hcarries⟩ := s.carries_step_of_spares world (hm.spares w.location) hsettled
    obtain ⟨hlane, -⟩ := (hcarries w rfl).gone hgone
    have htakes : s.takes world w m = none := by
      rw [takes, Registry.queue, Registry.queue, hlane]
      exact if_neg (Nat.lt_irrefl _)
    have hlater : (s.step world m).taken world w moves = [] := by
      refine ih habsent' (by rwa [hlane]) hrest ?_
      rw [settings_step]
      rintro ⟨hpolicy, m', hmem, hcalls⟩
      exact hunasked ⟨hpolicy, m', List.mem_cons_of_mem m hmem, hcalls⟩
    rw [taken, gather, htakes]
    exact hlater

theorem contains_shutdown (world : Surroundings σ) (s : System σ) (location : LocationId) :
    (s.step world .shutdown).engine.registry.contains location = false := by
  obtain ⟨woken, hrun⟩ := run_shutdown s.engine
  rw [step, hrun]
  rfl

end System

/-- A shutdown is the end of a location, unless the policy registers what is not known and the location is called for
afterwards: it is not found from then on, and once the workers that it had have stopped, none of them and no other takes
anything in. -/
theorem shutdown_final_iff (world : Surroundings σ) (s : System σ) {location : LocationId} {closing : List (Move σ)}
    (hclosing : ∀ m ∈ closing, m.IsTraffic ∧ ¬m.CallsFor location) {moves : List (Move σ)}
    (hmoves : ∀ m ∈ moves, m.IsTraffic) :
    let closed := (s.step world .shutdown).run world closing
    (closed.run world moves).engine.registry.Missing location ∧
      ((∀ w, w.location = location → ∀ lane ∈ closed.engine.registry.laneOf? w, lane.activity = .stopped) →
        ∀ w, w.location = location → closed.taken world w moves = []) ↔
      ¬(s.engine.registry.settings.policy = .register ∧ ∃ m ∈ moves, m.CallsFor location) := by
  intro closed
  have habsent : ¬closed.engine.registry.contains location := by
    rw [System.contains_run world fun m hm => (hclosing m hm).1, System.contains_shutdown]
    rintro (hknown | ⟨-, m, hm, hcalls⟩)
    · cases hknown
    · exact (hclosing m hm).2 hcalls
  have hsettings : closed.engine.registry.settings = s.engine.registry.settings := by
    rw [System.settings_run, System.settings_step]
  have hcontains : (closed.run world moves).engine.registry.contains location ↔
      s.engine.registry.settings.policy = .register ∧ ∃ m ∈ moves, m.CallsFor location := by
    rw [System.contains_run world hmoves, hsettings]
    simp [habsent]
  rw [Registry.missing_iff, hcontains]
  refine ⟨And.left, fun hunasked => ⟨hunasked, fun hgone w hw => ?_⟩⟩
  subst hw
  exact System.taken_eq_nil_of_gone habsent (hgone w rfl) hmoves (by rwa [hsettings])

/-- Two locations in a registry that registers what is not known. -/
def welcoming : System Memory :=
  (System.start { policy := .register } none {} {}).run Memory.surroundings
    [.register (.unmapped 7) .empty, .register (.unmapped 8) .empty]

/-- Their workers stop. -/
def farewell : List (Move Memory) :=
  [.work ⟨7, 1⟩, .work ⟨8, 1⟩]

/-- After the shutdown one of them is called for. -/
def lateVerdict : List (Move Memory) :=
  [.call ⟨7, verdict .clear, false⟩, .work ⟨7, 2⟩]

theorem stopped_farewell (w : WorkerId) (lane : Lane)
    (h : lane ∈ ((welcoming.step Memory.surroundings .shutdown).run Memory.surroundings
      farewell).engine.registry.laneOf? w) : lane.activity = .stopped := by
  rw [Registry.laneOf?_eq_lookup] at h
  obtain ⟨before, later, hsplit, -⟩ := List.lookup_eq_some_iff.mp h
  have hmem : (w, lane) ∈ ((welcoming.step Memory.surroundings .shutdown).run Memory.surroundings
      farewell).engine.registry.staff := by
    rw [hsplit]
    exact List.mem_append_right _ List.mem_cons_self
  rcases List.mem_cons.mp hmem with heq | hrest
  · cases heq
    rfl
  · cases List.mem_singleton.mp hrest
    rfl

/-- The other one is not found again, and its worker takes nothing in. -/
theorem shutdown_final_iff_lateVerdict :
    let closed := (welcoming.step Memory.surroundings .shutdown).run Memory.surroundings farewell
    let after := closed.run Memory.surroundings lateVerdict
    (after.engine.registry.Missing 8 ∧ closed.taken Memory.surroundings ⟨8, 1⟩ lateVerdict = []) ∧
    ¬after.engine.registry.Missing 7 := by
  have htraffic : ∀ m ∈ lateVerdict, m.IsTraffic := by
    simp [lateVerdict, Move.IsTraffic]
  have hclosing (location : LocationId) : ∀ m ∈ farewell, m.IsTraffic ∧ ¬m.CallsFor location := by
    simp [farewell, Move.IsTraffic, Move.CallsFor]
  obtain ⟨hmissing, hnothing⟩ := (shutdown_final_iff Memory.surroundings welcoming (hclosing 8) htraffic).mpr
    (by simp [lateVerdict, Move.CallsFor])
  refine ⟨⟨hmissing, hnothing (fun w _ => stopped_farewell w) ⟨8, 1⟩ rfl⟩, fun hmissing => ?_⟩
  have hfinal := (shutdown_final_iff Memory.surroundings welcoming (hclosing 7) htraffic).mp
    ⟨hmissing, fun hgone w hw => absurd hmissing.contains (by decide)⟩
  exact hfinal ⟨rfl, _, List.mem_cons_self, rfl⟩

/-- Nothing is registered after the shutdown, and both workers are gone. The call brings its location back, and the
queue of a new worker takes it in. -/
theorem shutdown_revived :
    let closed := (welcoming.step Memory.surroundings .shutdown).run Memory.surroundings farewell
    let after := closed.step Memory.surroundings (.call ⟨7, verdict .clear, false⟩)
    closed.engine.registry.locations = [] ∧
    (∀ w, ∀ lane ∈ closed.engine.registry.laneOf? w, lane.activity = .stopped) ∧
    7 ∈ after.engine.registry.locations ∧
    after.engine.registry.judgement 7 = .ok .unjudged ∧
    closed.taken Memory.surroundings ⟨7, 2⟩ [.call ⟨7, verdict .clear, false⟩] = [⟨verdict .clear, none⟩] :=
  ⟨List.mergeSort_nil, stopped_farewell, Registry.mem_locations.mpr rfl, rfl, rfl⟩

end Waterway
