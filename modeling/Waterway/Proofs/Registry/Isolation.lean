import Mathlib.Data.List.Zip
import Waterway.Proofs.Registry.Outcomes
import Waterway.Proofs.Registry.Serialisation

/-!
# Locations are isolated

Whatever is done with other locations and happens to them, and whenever the workers take their turns, what is done with
one location comes to the same. Two runs from one system with the same operations on the location are compared as far as
the same commands have been handled in both.

## Main definitions

- `SameThresholds` — as far as both runs have got, a worker was given the same thresholds
- `System.Alike` — in two runs callers are let in in order, and the worker is given the same thresholds

## Main statements

- `Abides.devices_eq`, `Abides.shown_eq`, `AbidesAt.publishedBy_eq` — what is told by the operations on a location and
  by what its workers have handled
- `System.Alike.isPrefix_or` — of two such runs one has got as far as the other
- `Outcome.eq_or_refused` — callers are told the same, unless the worker is gone
- `isolated` — two runs with the same operations on a location come to the same for it
-/

namespace Waterway

open Engine

variable {σ : Type} {location : LocationId}

/-! ## What the operations and the commands handled tell -/

section

variable {before e : Engine σ} {plan : Registry} {w : WorkerId}

/-- A worker has handed over what is told by the commands that it has handled. -/
theorem AbidesAt.publishedBy_eq {planned : Option Lane} {accepted : List Command} {handled : List Handling}
    (h : AbidesAt w before planned accepted handled e) :
    e.publishedBy w = before.publishedBy w ++
      planned.elim [] fun begun => begun.worker.publications (handled.map Handling.step) := by
  cases planned with
  | none =>
    obtain ⟨-, -, -, hpublished⟩ := h.gone (by simp)
    rw [hpublished, Option.elim_none, List.append_nil]
  | some begun =>
    obtain ⟨refused, lane, -, -, hserving⟩ := h.serving begun rfl
    exact hserving.published

variable {accepted : WorkerId → List Command} {handled : WorkerId → List Handling}

namespace Abides

/-- The present worker of a location is as planned, but for what it has done. -/
theorem exists_lane? (h : Abides location before plan accepted handled e) {begun : Lane}
    (hbegun : plan.lane? location = some begun) :
    ∃ lane, e.registry.lane? location = some lane ∧ lane.devices = begun.devices ∧
      lane.worker = begun.worker.replay ((handled (plan.latest location)).map Handling.step) := by
  obtain ⟨refused, lane, hdevices, -, hserving⟩ :=
    (h.workers (plan.latest location) rfl).serving begun (Registry.laneOf?_latest hbegun)
  have hemploys : e.registry.employs (plan.latest location) :=
    (h.agrees.employs_iff rfl).mpr (Registry.employs_latest (Registry.contains_of_lane? hbegun))
  exact ⟨lane, (Registry.laneOf?_of_employs hemploys).symm.trans hserving.found, hdevices, hserving.worker⟩

theorem lane?_eq_none (h : Abides location before plan accepted handled e) (hnone : plan.lane? location = none) :
    e.registry.lane? location = none := by
  have hcontains := h.agrees.contains
  rw [Registry.contains, Registry.contains, hnone, Option.isSome_none, Option.isSome_eq_false_iff] at hcontains
  exact Option.isNone_iff_eq_none.mp hcontains

/-- A location has the devices with which it was registered last. -/
theorem devices_eq (h : Abides location before plan accepted handled e) :
    e.registry.devices location = plan.devices location := by
  rw [Registry.devices, Registry.devices]
  cases hplan : plan.lane? location with
  | none => rw [h.lane?_eq_none hplan]
  | some begun =>
    obtain ⟨lane, hlane, hdevices, -⟩ := h.exists_lane? hplan
    rw [hlane]
    exact congrArg Except.ok hdevices

/-- What readers see is told by the commands that the present worker has handled. -/
theorem shown_eq (h : Abides location before plan accepted handled e) :
    e.registry.shown location = (plan.lane? location).elim (.error (.notRegistered location)) fun begun =>
      .ok (begun.worker.replay ((handled (plan.latest location)).map Handling.step)).shown := by
  rw [Registry.shown]
  cases hplan : plan.lane? location with
  | none =>
    rw [h.lane?_eq_none hplan]
    rfl
  | some begun =>
    obtain ⟨lane, hlane, -, hworker⟩ := h.exists_lane? hplan
    rw [hlane]
    exact congrArg (Except.ok ∘ Worker.shown) hworker

/-- Where no other worker of a location has had anything to do, its worker alone has handed analyses over. -/
theorem publishedOn_eq (h : Abides w.location before plan accepted handled e)
    (hbegins : before.published <+: e.published)
    (hothers : ∀ v, v.location = w.location → v ≠ w → handled v = []) :
    e.publishedOn w.location = before.publishedOn w.location ++
      (plan.laneOf? w).elim [] fun begun => begun.worker.publications ((handled w).map Handling.step) := by
  refine publishedOn_of_publishedBy hbegins (fun v hv hne => ?_) (h.workers w rfl).publishedBy_eq
  rw [(h.workers v hv).publishedBy_eq, hothers v hv hne]
  cases plan.laneOf? v <;> exact List.append_nil _

end Abides

end

/-- Every run of a system that has come about goes as the operations on a location tell, and as its workers do. -/
theorem System.Reachable.abides {world₀ : Surroundings σ} {s : System σ} (hs : s.Reachable world₀)
    (world : Surroundings σ) (location : LocationId) (moves : List (Move σ)) :
    Abides location s.engine (s.engine.registry.planned location (operations location moves))
      (fun w => s.accepted world w moves) (fun w => s.handled world w moves) (s.run world moves).engine :=
  (Abides.start (fun _ _ hlane hstopped => hs.isCancelled_of_stopped hlane hstopped) location).run world hs.numbered
    hs.numbered.keyed moves

/-! ## Two runs -/

/-- As far as both runs have got, a worker was given the same thresholds for its commands. -/
def SameThresholds (handled₁ handled₂ : List Handling) : Prop :=
  ∀ k ∈ handled₁.zip handled₂, k.1.thresholds = k.2.thresholds

theorem SameThresholds.symm {handled₁ handled₂ : List Handling} (h : SameThresholds handled₁ handled₂) :
    SameThresholds handled₂ handled₁ := by
  intro k hk
  rw [← List.zip_swap] at hk
  obtain ⟨pair, hpair, rfl⟩ := List.mem_map.mp hk
  exact (h pair hpair).symm

/-- With the same thresholds a run that has taken fewer observations has got less far, and that is all. -/
theorem SameThresholds.map_step_isPrefix {handled₁ handled₂ : List Handling} (h : SameThresholds handled₁ handled₂)
    (hbegins : handled₁.map Handling.observation <+: handled₂.map Handling.observation) :
    handled₁.map Handling.step <+: handled₂.map Handling.step := by
  induction handled₁ generalizing handled₂ with
  | nil => exact List.nil_prefix
  | cons k₁ handled₁ ih =>
    cases handled₂ with
    | nil => simp at hbegins
    | cons k₂ handled₂ =>
      obtain ⟨hobservation, hrest⟩ := List.cons_prefix_cons.mp hbegins
      have hthresholds := h (k₁, k₂) List.mem_cons_self
      have hsteps := ih (fun k hk => h k (List.mem_cons_of_mem _ hk)) hrest
      exact List.cons_prefix_cons.mpr ⟨Prod.ext hobservation hthresholds, hsteps⟩

/-- Where one list begins the other, they agree in every place that both have. -/
theorem append_cons_inj_of_isPrefix {α : Type} {xs₁ ys₁ xs₂ ys₂ : List α} {x₁ x₂ : α}
    (h : xs₁ ++ x₁ :: ys₁ <+: xs₂ ++ x₂ :: ys₂) (hlength : xs₁.length = xs₂.length) : xs₁ = xs₂ ∧ x₁ = x₂ := by
  obtain ⟨rest, hrest⟩ := h
  rw [List.append_assoc] at hrest
  obtain ⟨hbefore, hat⟩ := List.append_inj hrest hlength
  exact ⟨hbefore, (List.cons.inj hat).1⟩

/-- Callers are told the same in two runs of which one has got as far as the other, unless the worker is gone. -/
theorem Outcome.eq_or_refused {w : WorkerId} {begun : Worker} {handled₁ handled₂ : List Handling} {lane₁ lane₂ : Lane}
    {place : Nat} {waits : Bool} {result₁ result₂ : Except EngineError (Option Judgement)}
    (h₁ : Outcome w begun handled₁ lane₁ place waits result₁)
    (h₂ : Outcome w begun handled₂ lane₂ place waits result₂)
    (hbegins : handled₁.map Handling.step <+: handled₂.map Handling.step) :
    result₁ = result₂ ∨ (lane₁.activity = .stopped ∧ result₁ = .error (.workerStopped w.location)) ∨
      (lane₂.activity = .stopped ∧ result₂ = .error (.workerStopped w.location)) := by
  cases h₁ with
  | refused hstopped => exact .inr (.inl ⟨hstopped, rfl⟩)
  | accepted hwaits =>
    cases h₂ with
    | refused hstopped => exact .inr (.inr ⟨hstopped, rfl⟩)
    | accepted => exact .inl rfl
    | answered hwaits' => cases hwaits.symm.trans hwaits'
  | answered hwaits hhandled hplace =>
    cases h₂ with
    | refused hstopped => exact .inr (.inr ⟨hstopped, rfl⟩)
    | accepted hwaits' => cases hwaits.symm.trans hwaits'
    | answered _ hhandled' hplace' =>
      left
      rw [hhandled, hhandled', List.map_append, List.map_append, List.map_cons, List.map_cons] at hbegins
      obtain ⟨hbefore, hstep⟩ := append_cons_inj_of_isPrefix hbegins
        (by rw [List.length_map, List.length_map, hplace, hplace'])
      obtain ⟨hobservation, hthresholds⟩ := Prod.ext_iff.mp hstep
      rw [hbefore]
      exact congrArg _ (congrArg₂ (fun o t => (Worker.handle _ o t).2.answer) hobservation hthresholds)

namespace System

variable {world₀ world world₁ world₂ : Surroundings σ} {s : System σ} {w : WorkerId}
  {moves moves₁ moves₂ : List (Move σ)}

/-- In two runs callers get into the queue of a worker in order, and it is given the same thresholds. -/
structure Alike (world₁ world₂ : Surroundings σ) (w : WorkerId) (s : System σ) (moves₁ moves₂ : List (Move σ)) :
    Prop where
  orderly₁ : s.Orderly world₁ w moves₁
  orderly₂ : s.Orderly world₂ w moves₂
  thresholds : SameThresholds (s.handled world₁ w moves₁) (s.handled world₂ w moves₂)

namespace Reachable

theorem inLine (hs : s.Reachable world₀) (horderly : s.Orderly world w moves) :
    InLine w (s.waiting w ++ s.brought world w moves) (s.accepted world w moves) (s.run world moves) :=
  (InLine.start hs.isSome_laneOf?_of_waiting).run world hs.numbered horderly

/-- The operations on a location tell what is brought to its workers. -/
theorem map_observation_brought (hs : s.Reachable world₀) (world : Surroundings σ) (w : WorkerId)
    (moves : List (Move σ)) :
    (s.brought world w moves).map Command.observation =
      s.engine.registry.addressed w.location w (operations w.location moves) :=
  (Abides.start (fun _ _ hlane hstopped => hs.isCancelled_of_stopped hlane hstopped) w.location).map_observation_brought
    world hs.numbered hs.numbered.keyed moves

variable {begun : Lane}

/-- What a worker takes is the first of what is in front of it and of what the operations on its location bring. -/
theorem map_observation_isPrefix (hs : s.Reachable world₀) (horderly : s.Orderly world w moves)
    (hbegun : (s.engine.registry.planned w.location (operations w.location moves)).laneOf? w = some begun) :
    (s.handled world w moves).map Handling.observation <+:
      (begun.queue ++ s.waiting w).map Command.observation ++
        s.engine.registry.addressed w.location w (operations w.location moves) := by
  obtain ⟨refused, lane, -, -, hserving⟩ := ((hs.abides world w.location moves).workers w rfl).serving begun hbegun
  have hbegins := ((hs.inLine horderly).map_command_isPrefix hserving).map Command.observation
  rw [List.map_map, ← List.append_assoc, List.map_append, hs.map_observation_brought world w moves] at hbegins
  exact hbegins

/-- A worker at rest has taken all of it. -/
theorem map_observation_eq (hs : s.Reachable world₀) (horderly : s.Orderly world w moves)
    (hbegun : (s.engine.registry.planned w.location (operations w.location moves)).laneOf? w = some begun)
    (hrest : (s.run world moves).AtRest w) :
    (s.handled world w moves).map Handling.observation =
      (begun.queue ++ s.waiting w).map Command.observation ++
        s.engine.registry.addressed w.location w (operations w.location moves) := by
  obtain ⟨refused, lane, -, -, hserving⟩ := ((hs.abides world w.location moves).workers w rfl).serving begun hbegun
  have hall := congrArg (List.map Command.observation) ((hs.inLine horderly).map_command_eq hserving hrest)
  rw [List.map_map, ← List.append_assoc, List.map_append, hs.map_observation_brought world w moves] at hall
  exact hall

/-- Who is not planned to work has handled nothing. -/
theorem handled_eq_nil (hs : s.Reachable world₀) (world : Surroundings σ) (moves : List (Move σ))
    (hnone : (s.engine.registry.planned w.location (operations w.location moves)).laneOf? w = none) :
    s.handled world w moves = [] :=
  (((hs.abides world w.location moves).workers w rfl).gone (by simp [hnone])).2.2.1

end Reachable

namespace Alike

/-- Of two runs in which callers are let in in order one has got as far as the other. -/
theorem isPrefix_or (h : s.Alike world₁ world₂ w moves₁ moves₂) (hs : s.Reachable world₀)
    (hoperations : operations w.location moves₁ = operations w.location moves₂) :
    (s.handled world₁ w moves₁).map Handling.step <+: (s.handled world₂ w moves₂).map Handling.step ∨
      (s.handled world₂ w moves₂).map Handling.step <+: (s.handled world₁ w moves₁).map Handling.step := by
  cases hplanned : (s.engine.registry.planned w.location (operations w.location moves₁)).laneOf? w with
  | none =>
    rw [hs.handled_eq_nil world₁ moves₁ hplanned]
    exact .inl List.nil_prefix
  | some begun =>
    have hbegins₁ := hs.map_observation_isPrefix h.orderly₁ hplanned
    rw [hoperations] at hbegins₁ hplanned
    have hbegins₂ := hs.map_observation_isPrefix h.orderly₂ hplanned
    exact (List.prefix_or_prefix_of_prefix hbegins₁ hbegins₂).imp h.thresholds.map_step_isPrefix
      h.thresholds.symm.map_step_isPrefix

/-- Where the worker is at rest in the end, both have got equally far. -/
theorem map_step_eq (h : s.Alike world₁ world₂ w moves₁ moves₂) (hs : s.Reachable world₀)
    (hoperations : operations w.location moves₁ = operations w.location moves₂)
    (hrest₁ : (s.run world₁ moves₁).AtRest w) (hrest₂ : (s.run world₂ moves₂).AtRest w) :
    (s.handled world₁ w moves₁).map Handling.step = (s.handled world₂ w moves₂).map Handling.step := by
  cases hplanned : (s.engine.registry.planned w.location (operations w.location moves₁)).laneOf? w with
  | none =>
    rw [hs.handled_eq_nil world₁ moves₁ hplanned, hs.handled_eq_nil world₂ moves₂ (hoperations ▸ hplanned)]
  | some begun =>
    have hall := hs.map_observation_eq h.orderly₁ hplanned hrest₁
    rw [hoperations] at hall hplanned
    have hsame := hall.trans (hs.map_observation_eq h.orderly₂ hplanned hrest₂).symm
    refine (h.thresholds.map_step_isPrefix (hsame ▸ List.prefix_rfl)).eq_of_length ?_
    have hlength := congrArg List.length hsame
    rwa [List.length_map, List.length_map] at hlength ⊢

end Alike

/-! ## Calls -/

variable {before before₁ before₂ later later₁ later₂ : List (Move σ)} {c : Call}

/-- A worker that has been found is planned. -/
theorem Reachable.exists_planned (hs : s.Reachable world₀)
    (hfound : (s.run world before).engine.registry.found? c.location = some w) (later : List (Move σ)) :
    ∃ begun, (s.engine.registry.planned w.location
      (operations w.location (before ++ .call c :: later))).laneOf? w = some begun := by
  have hworker := (hs.abides world w.location (before ++ .call c :: later)).workers w rfl
  rw [← Option.isSome_iff_exists, Option.isSome_iff_ne_none]
  intro hnone
  have habsent := hworker.absent hnone
  obtain ⟨-, hnobody, -, -⟩ := hworker.gone (by simp [hnone])
  obtain ⟨p, -, hstanding⟩ := exists_standing hs.numbered hfound later
  cases hstanding with
  | waits hsome => simp [habsent] at hsome
  | refused hlane => cases habsent.symm.trans hlane
  | entered hmem =>
    rw [hnobody] at hmem
    cases hmem

/-- The place of a command in the line is told by the operations before. -/
theorem Reachable.outcome (hs : s.Reachable world₀) (horderly : s.Orderly world w (before ++ .call c :: later))
    (hfound : (s.run world before).engine.registry.found? c.location = some w) {begun : Lane}
    (hbegun : (s.engine.registry.planned w.location
      (operations w.location (before ++ .call c :: later))).laneOf? w = some begun)
    {result : Except EngineError (Option Judgement)}
    (hresult : (s.run world (before ++ .call c :: later)).outcome? (s.run world before).calls.length = some result) :
    ∃ lane, (s.run world (before ++ .call c :: later)).engine.registry.laneOf? w = some lane ∧
      (lane.activity = .stopped → lane.isCancelled) ∧
      Outcome w begun.worker (s.handled world w (before ++ .call c :: later)) lane
        (begun.queue.length + ((s.waiting w).length +
          (s.engine.registry.addressed w.location w (operations w.location before)).length)) c.waits result := by
  obtain ⟨refused, lane, -, -, hserving⟩ :=
    ((hs.abides world w.location (before ++ .call c :: later)).workers w rfl).serving begun hbegun
  have houtcome := hserving.outcome hs.numbered
    (fun k hk n hn => hs.numbered.lt_of_mem_queue hbegun hk hn) hfound (hs.inLine horderly) hresult
  have hlength := congrArg List.length (hs.map_observation_brought world w before)
  rw [List.length_map] at hlength
  rw [hlength] at houtcome
  exact ⟨lane, hserving.found, hserving.cancelled, houtcome⟩

/-- Where the worker is at rest, every caller has been told something. -/
theorem Reachable.isSome_outcome? (hs : s.Reachable world₀)
    (hfound : (s.run world before).engine.registry.found? c.location = some w)
    (hrest : (s.run world (before ++ .call c :: later)).AtRest w) :
    ((s.run world (before ++ .call c :: later)).outcome? (s.run world before).calls.length).isSome := by
  obtain ⟨begun, hbegun⟩ := hs.exists_planned hfound later
  obtain ⟨refused, lane, -, -, hserving⟩ :=
    ((hs.abides world w.location (before ++ .call c :: later)).workers w rfl).serving begun hbegun
  exact hserving.isSome_outcome? hs.numbered hfound hrest

namespace Alike

variable {result₁ result₂ : Except EngineError (Option Judgement)}

/-- Callers are told the same in two runs, unless the worker is gone. -/
theorem eq_or_refused
    (h : s.Alike world₁ world₂ w (before₁ ++ .call c :: later₁) (before₂ ++ .call c :: later₂))
    (hs : s.Reachable world₀)
    (hoperations : operations w.location (before₁ ++ .call c :: later₁) =
      operations w.location (before₂ ++ .call c :: later₂))
    (hbefore : operations w.location before₁ = operations w.location before₂)
    (hfound₁ : (s.run world₁ before₁).engine.registry.found? c.location = some w)
    (hfound₂ : (s.run world₂ before₂).engine.registry.found? c.location = some w)
    (hresult₁ : (s.run world₁ (before₁ ++ .call c :: later₁)).outcome? (s.run world₁ before₁).calls.length =
      some result₁)
    (hresult₂ : (s.run world₂ (before₂ ++ .call c :: later₂)).outcome? (s.run world₂ before₂).calls.length =
      some result₂) :
    result₁ = result₂ ∨
      (result₁ = .error (.workerStopped w.location) ∧ ∃ lane, lane.isCancelled ∧ lane.activity = .stopped ∧
        (s.run world₁ (before₁ ++ .call c :: later₁)).engine.registry.laneOf? w = some lane) ∨
      (result₂ = .error (.workerStopped w.location) ∧ ∃ lane, lane.isCancelled ∧ lane.activity = .stopped ∧
        (s.run world₂ (before₂ ++ .call c :: later₂)).engine.registry.laneOf? w = some lane) := by
  obtain ⟨begun, hbegun⟩ := hs.exists_planned hfound₁ later₁
  obtain ⟨lane₁, hlane₁, hcancelled₁, houtcome₁⟩ := hs.outcome h.orderly₁ hfound₁ hbegun hresult₁
  rw [hbefore] at houtcome₁
  rw [hoperations] at hbegun
  obtain ⟨lane₂, hlane₂, hcancelled₂, houtcome₂⟩ := hs.outcome h.orderly₂ hfound₂ hbegun hresult₂
  rcases h.isPrefix_or hs hoperations with hbegins | hbegins
  · refine (houtcome₁.eq_or_refused houtcome₂ hbegins).imp_right ?_
    rintro (⟨hstopped, hrefused⟩ | ⟨hstopped, hrefused⟩)
    · exact .inl ⟨hrefused, lane₁, hcancelled₁ hstopped, hstopped, hlane₁⟩
    · exact .inr ⟨hrefused, lane₂, hcancelled₂ hstopped, hstopped, hlane₂⟩
  · refine (houtcome₂.eq_or_refused houtcome₁ hbegins).imp Eq.symm ?_
    rintro (⟨hstopped, hrefused⟩ | ⟨hstopped, hrefused⟩)
    · exact .inr ⟨hrefused, lane₂, hcancelled₂ hstopped, hstopped, hlane₂⟩
    · exact .inl ⟨hrefused, lane₁, hcancelled₁ hstopped, hstopped, hlane₁⟩

/-- Where the worker is at rest in the end, callers have been told the same. -/
theorem outcome?_eq
    (h : s.Alike world₁ world₂ w (before₁ ++ .call c :: later₁) (before₂ ++ .call c :: later₂))
    (hs : s.Reachable world₀)
    (hoperations : operations w.location (before₁ ++ .call c :: later₁) =
      operations w.location (before₂ ++ .call c :: later₂))
    (hbefore : operations w.location before₁ = operations w.location before₂)
    (hfound₁ : (s.run world₁ before₁).engine.registry.found? c.location = some w)
    (hfound₂ : (s.run world₂ before₂).engine.registry.found? c.location = some w)
    (hrest₁ : (s.run world₁ (before₁ ++ .call c :: later₁)).AtRest w)
    (hrest₂ : (s.run world₂ (before₂ ++ .call c :: later₂)).AtRest w) :
    (s.run world₁ (before₁ ++ .call c :: later₁)).outcome? (s.run world₁ before₁).calls.length =
      (s.run world₂ (before₂ ++ .call c :: later₂)).outcome? (s.run world₂ before₂).calls.length := by
  obtain ⟨result₁, h₁⟩ := Option.isSome_iff_exists.mp (hs.isSome_outcome? hfound₁ hrest₁)
  obtain ⟨result₂, h₂⟩ := Option.isSome_iff_exists.mp (hs.isSome_outcome? hfound₂ hrest₂)
  -- nobody has been refused by a worker at rest
  rcases h.eq_or_refused hs hoperations hbefore hfound₁ hfound₂ h₁ h₂ with
    rfl | ⟨-, lane, -, hstopped, hlane⟩ | ⟨-, lane, -, hstopped, hlane⟩
  · exact h₁.trans h₂.symm
  · cases (hrest₁.2 lane hlane).2.symm.trans hstopped
  · cases (hrest₂.2 lane hlane).2.symm.trans hstopped

end Alike

end System

/-- Two runs from the same system in which the same is done with a location come to the same for it, whatever is done
with other locations, whenever the workers take their turns and whatever the world outside is like. The location is
registered in both or in neither, with the same devices and the same worker. Where a worker has handled the same
commands with the same thresholds, it shows and has handed over the same. Where callers are let in in order and the
worker is given the same thresholds, one of the runs has got as far as the other, both equally far if the worker is at
rest; and callers are told the same, unless the worker has been told to stop and has refused one of them. Every run
begins with runs, so that this is so at any moment. -/
theorem isolated {world₀ world₁ world₂ : Surroundings σ} {s : System σ} (hs : s.Reachable world₀)
    (location : LocationId) {moves₁ moves₂ : List (Move σ)}
    (hoperations : operations location moves₁ = operations location moves₂) :
    let s₁ := s.run world₁ moves₁
    let s₂ := s.run world₂ moves₂
    let handled₁ w := s.handled world₁ w moves₁
    let handled₂ w := s.handled world₂ w moves₂
    let worker := s₁.engine.registry.latest location
    s₁.engine.registry.devices location = s₂.engine.registry.devices location ∧
    s₂.engine.registry.latest location = worker ∧
    (∀ w, w.location = location → (handled₁ w).map Handling.step = (handled₂ w).map Handling.step →
      (w = worker → s₁.engine.registry.shown location = s₂.engine.registry.shown location) ∧
      s₁.engine.publishedBy w = s₂.engine.publishedBy w ∧
      -- where no other worker of the location has had anything to do, nobody else publishes for it
      ((∀ v, v.location = location → v ≠ w → handled₁ v = [] ∧ handled₂ v = []) →
        s₁.engine.publishedOn location = s₂.engine.publishedOn location)) ∧
    (∀ w, w.location = location → s.Alike world₁ world₂ w moves₁ moves₂ →
      ((handled₁ w).map Handling.step <+: (handled₂ w).map Handling.step ∨
        (handled₂ w).map Handling.step <+: (handled₁ w).map Handling.step) ∧
      (s₁.AtRest w → s₂.AtRest w → (handled₁ w).map Handling.step = (handled₂ w).map Handling.step)) ∧
    ∀ before₁ later₁ before₂ later₂ c, c.location = location →
      moves₁ = before₁ ++ .call c :: later₁ → moves₂ = before₂ ++ .call c :: later₂ →
      operations location before₁ = operations location before₂ →
      let found := (s.run world₁ before₁).engine.registry.found? location
      let outcome₁ := s₁.outcome? (s.run world₁ before₁).calls.length
      let outcome₂ := s₂.outcome? (s.run world₂ before₂).calls.length
      (found = none → outcome₁ = outcome₂ ∧ outcome₁.isSome) ∧
      ∀ w, found = some w → s.Alike world₁ world₂ w moves₁ moves₂ →
        (∀ result₁ result₂, outcome₁ = some result₁ → outcome₂ = some result₂ → result₁ = result₂ ∨
          (result₁ = .error (.workerStopped location) ∧
            ∃ lane, s₁.engine.registry.laneOf? w = some lane ∧ lane.isCancelled) ∨
          (result₂ = .error (.workerStopped location) ∧
            ∃ lane, s₂.engine.registry.laneOf? w = some lane ∧ lane.isCancelled)) ∧
        (s₁.AtRest w → s₂.AtRest w → outcome₁ = outcome₂ ∧ outcome₁.isSome) := by
  intro s₁ s₂ handled₁ handled₂ worker
  have habides₁ := hs.abides world₁ location moves₁
  have habides₂ := hs.abides world₂ location moves₂
  rw [← hoperations] at habides₂
  have hlatest := habides₂.agrees.latest.trans habides₁.agrees.latest.symm
  refine ⟨habides₁.devices_eq.trans habides₂.devices_eq.symm, hlatest, fun w hw hsteps => ?_, ?_, ?_⟩
  · refine ⟨fun hworker => ?_, ?_, fun hothers => ?_⟩
    · have hplanned : (s.engine.registry.planned location (operations location moves₁)).latest location = w :=
        habides₁.agrees.latest.symm.trans hworker.symm
      rw [habides₁.shown_eq, habides₂.shown_eq, hplanned, hsteps]
    · rw [(habides₁.workers w hw).publishedBy_eq, (habides₂.workers w hw).publishedBy_eq, hsteps]
    · subst hw
      rw [habides₁.publishedOn_eq (s.published_run world₁ moves₁) fun v hv hne => (hothers v hv hne).1,
        habides₂.publishedOn_eq (s.published_run world₂ moves₂) fun v hv hne => (hothers v hv hne).2, hsteps]
  · rintro w rfl halike
    exact ⟨halike.isPrefix_or hs hoperations, halike.map_step_eq hs hoperations⟩
  · rintro before₁ later₁ before₂ later₂ c rfl rfl rfl hbefore found outcome₁ outcome₂
    have hagrees₁ := (hs.abides world₁ c.location before₁).agrees
    have hagrees₂ := (hs.abides world₂ c.location before₂).agrees
    rw [← hbefore] at hagrees₂
    have hfound : (s.run world₂ before₂).engine.registry.found? c.location = found :=
      hagrees₂.found?_eq.trans hagrees₁.found?_eq.symm
    refine ⟨fun hnone => ?_, fun w hsome halike => ?_⟩
    · have houtcome₁ := System.outcome?_of_found?_eq_none hnone later₁
      have houtcome₂ := System.outcome?_of_found?_eq_none (hfound.trans hnone) later₂
      rw [hagrees₂.resolve_eq, ← hagrees₁.resolve_eq] at houtcome₂
      exact ⟨houtcome₁.trans houtcome₂.symm, Option.isSome_of_eq_some houtcome₁⟩
    · have hw : c.location = w.location := (congrArg WorkerId.location (Registry.resolve_of_found? hsome).2).symm
      have hsome₂ := hfound.trans hsome
      rw [hw] at hoperations hbefore
      refine ⟨fun result₁ result₂ h₁ h₂ => ?_, fun hrest₁ hrest₂ =>
        ⟨halike.outcome?_eq hs hoperations hbefore hsome hsome₂ hrest₁ hrest₂, hs.isSome_outcome? hsome hrest₁⟩⟩
      rw [hw]
      refine (halike.eq_or_refused hs hoperations hbefore hsome hsome₂ h₁ h₂).imp_right ?_
      rintro (⟨hrefused, lane, hcancelled, -, hlane⟩ | ⟨hrefused, lane, hcancelled, -, hlane⟩)
      · exact .inl ⟨hrefused, lane, hlane, hcancelled⟩
      · exact .inr ⟨hrefused, lane, hlane, hcancelled⟩

/-- Two locations of which nothing is known. -/
def neighbours : System Memory :=
  ((System.start {} none {} {}).step Memory.surroundings (.register (.unmapped 7) .empty)).step
    Memory.surroundings (.register (.unmapped 8) .empty)

/-- A verdict is judged. -/
def quietRun : List (Move Memory) :=
  [.call ⟨7, verdict .blocked, true⟩, .work ⟨7, 1⟩]

/-- The same with much going on elsewhere. -/
def busyRun : List (Move Memory) :=
  [.call ⟨8, verdict .clear, true⟩, .call ⟨7, verdict .blocked, true⟩, .work ⟨8, 1⟩,
    .register (.unmapped 9) .empty, .work ⟨7, 1⟩, .call ⟨9, verdict .partly, false⟩]

/-- The first location is judged the same, and its caller is told the same. -/
theorem isolated_neighbours :
    (neighbours.run Memory.surroundings quietRun).engine.registry.shown 7 =
        (neighbours.run Memory.surroundings busyRun).engine.registry.shown 7 ∧
      (neighbours.run Memory.surroundings quietRun).outcome? 0 =
        (neighbours.run Memory.surroundings busyRun).outcome? 1 ∧
      ((neighbours.run Memory.surroundings quietRun).outcome? 0).isSome := by
  have hreachable : neighbours.Reachable Memory.surroundings :=
    .step (.register (.unmapped 8) .empty) (.step (.register (.unmapped 7) .empty) (.start {} none {} _))
  have hsame : SameThresholds (neighbours.handled Memory.surroundings ⟨7, 1⟩ quietRun)
      (neighbours.handled Memory.surroundings ⟨7, 1⟩ busyRun) := by
    intro k hk
    obtain rfl := List.mem_singleton.mp hk
    rfl
  -- nobody ever waits for room
  have halike : neighbours.Alike Memory.surroundings Memory.surroundings ⟨7, 1⟩ quietRun busyRun := by
    refine ⟨⟨?_, ?_, trivial⟩, ⟨?_, ?_, ?_, ?_, ?_, ?_, trivial⟩, hsame⟩ <;> exact fun _ => by decide
  have hrest₁ : (neighbours.run Memory.surroundings quietRun).AtRest ⟨7, 1⟩ :=
    ⟨rfl, fun _ hlane => Option.some.inj hlane ▸ ⟨rfl, rfl⟩⟩
  have hrest₂ : (neighbours.run Memory.surroundings busyRun).AtRest ⟨7, 1⟩ :=
    ⟨rfl, fun _ hlane => Option.some.inj hlane ▸ ⟨rfl, rfl⟩⟩
  obtain ⟨-, -, hshown, hsteps, hcalls⟩ := @isolated Memory Memory.surroundings Memory.surroundings Memory.surroundings
    neighbours hreachable 7 quietRun busyRun rfl
  have hequal := (hsteps ⟨7, 1⟩ rfl halike).2 hrest₁ hrest₂
  obtain ⟨-, htold⟩ := hcalls [] [.work ⟨7, 1⟩] [.call ⟨8, verdict .clear, true⟩]
    [.work ⟨8, 1⟩, .register (.unmapped 9) .empty, .work ⟨7, 1⟩, .call ⟨9, verdict .partly, false⟩]
    ⟨7, verdict .blocked, true⟩ rfl rfl rfl rfl
  obtain ⟨houtcome, hisSome⟩ := (htold ⟨7, 1⟩ rfl halike).2 hrest₁ hrest₂
  exact ⟨(hshown ⟨7, 1⟩ rfl hequal).1 rfl, houtcome, hisSome⟩

/-- The turns of the workers make a difference, whatever else is the same. A location is read as it was while its worker
has not had its turn; and a worker that is replaced may answer first, or refuse. -/
theorem results_depend_on_turns :
    let call : Move Memory := .call ⟨7, verdict .blocked, true⟩
    let turn : Move Memory := .work ⟨7, 1⟩
    let replace : Move Memory := .register (.unmapped 7) .empty
    let conditions moves :=
      ((neighbours.run Memory.surroundings moves).engine.registry.judgement 7).map Judgement.conditions
    let told moves := (neighbours.run Memory.surroundings moves).outcome? 0
    operations 7 [call] = operations 7 [call, turn] ∧
      (neighbours.run Memory.surroundings [call]).run Memory.surroundings [turn] =
        neighbours.run Memory.surroundings [call, turn] ∧
      conditions [call] = .ok [] ∧
      conditions [call, turn] = .ok ["Conditions normal - Continue routine monitoring",
        "Waterway is BLOCKED - Immediate action required."] ∧
      operations 7 [call, turn, replace] = operations 7 [call, replace, turn] ∧
      (∃ judgement, told [call, turn, replace] = some (.ok (some judgement))) ∧
      told [call, replace, turn] = some (.error (.workerStopped 7)) :=
  ⟨rfl, rfl, rfl, rfl, rfl, ⟨_, rfl⟩, rfl⟩

end Waterway
