import Waterway.Proofs.Registry.Membership
import Waterway.Proofs.Registry.Operations
import Waterway.Registry.Memory

/-!
# One at a time

However producers and workers take turns, a worker handles the commands of its location one at a time and in
the order in which they got into its queue. The state of the site, what readers see, what is published and
what callers are answered are those of the account of the commands handled so far.

## Main definitions

- `Move.Spares` — a move leaves the worker of a location in its place

## Main statements

- `System.carries_run_of_spares`, `Serving.run_of_spares` — a worker that stays in its place goes on serving
- `serialised` — the account of a location, from any site that has come about
-/

namespace Waterway

open Engine

variable {σ : Type}

/-- Whether a move leaves the worker of a location in its place. -/
def Move.Spares (location : LocationId) : Move σ → Prop
  | .register devices _ => devices.location ≠ location
  | .shutdown => False
  | _ => True

/-- A call for which nobody needs to be registered may give a worker a command, and does nothing else. -/
theorem Engine.Begun.carries {call : Call} {e after : Engine σ} {p : Progress} (h : Begun call e p after)
    (hsettled : (e.registry.resolve call.location).2 = e.registry) :
    after.registry.Agrees call.location e.registry ∧ ∀ w, Carries w
      (if e.registry.found? call.location = some w then p.entry call.observation else none).toList [] e after := by
  cases h with
  | ended hnone =>
    simp only [hnone, reduceCtorEq, if_false]
    exact ⟨.refl _ _, fun w => Untouched.carries ⟨rfl, rfl, List.prefix_rfl⟩⟩
  | @entered v woken _ _ hfound hentered =>
    rw [hsettled] at hentered
    refine ⟨hentered.agrees, fun w => ?_⟩
    let numbered : Engine σ := { e with tickets := e.tickets + (call.ticket e).toList.length, woken }
    have hready : Untouched w e numbered := ⟨rfl, rfl, List.prefix_rfl⟩
    simp only [hfound, Option.some_inj]
    exact hready.carries.trans (hentered.carries w)

namespace System

variable {s : System σ} {location : LocationId}

/-- A move that leaves the worker of a location in its place, and starts none, gives commands to the workers of the
location, or lets them handle some, and does nothing else to them. -/
theorem carries_step_of_spares (world : Surroundings σ) {m : Move σ} (hspares : m.Spares location)
    (hsettled : m.CallsFor location → (s.engine.registry.resolve location).2 = s.engine.registry) :
    (s.step world m).engine.registry.Agrees location s.engine.registry ∧ ∀ w, w.location = location →
      Carries w (s.accepts w m).toList (s.handles world w m).toList s.engine (s.step world m).engine := by
  have hidle : Registry.Agrees location s.engine.registry s.engine.registry ∧ ∀ w, w.location = location →
      Carries w [] [] s.engine s.engine :=
    ⟨.refl location _, fun w _ => Untouched.carries ⟨rfl, rfl, List.prefix_rfl⟩⟩
  cases m with
  | call c =>
    have hbegun := begun_begin c s.engine
    simp only [accepts, handles, step, Option.toList_none]
    by_cases hlocation : c.location = location
    · subst hlocation
      obtain ⟨hagrees, hcarries⟩ := hbegun.carries (hsettled rfl)
      exact ⟨hagrees, fun w _ => hcarries w⟩
    · refine ⟨hbegun.agrees hlocation, fun w hw => ?_⟩
      have hnone : s.engine.registry.found? c.location ≠ some w := fun hfound =>
        hlocation ((congrArg WorkerId.location (Registry.resolve_of_found? hfound).2).symm.trans hw)
      rw [if_neg hnone]
      exact (hbegun.untouched fun heq => hlocation (heq.symm.trans hw)).carries
  | retry number =>
    cases hcall : s.calls[number]? with
    | none =>
      simp only [accepts, handles, step, hcall, Option.toList_none]
      exact hidle
    | some p =>
      cases p with
      | ended result =>
        simp only [accepts, handles, step_retry world hcall rfl, hcall, Option.toList_none]
        exact hidle
      | pending v ticket =>
        simp only [accepts, handles, step_retry world hcall rfl, hcall, Option.toList_none]
        exact hidle
      | blocked v c =>
        have h := entered_tryEnqueue v c s.engine
        simp only [accepts, handles, step_retry_blocked world hcall, hcall, Option.toList_none]
        exact ⟨h.agrees, fun w _ => h.carries w⟩
  | work v lingers =>
    have h := worked_work world v lingers s.engine
    simp only [accepts, handles, step, Option.toList_none]
    exact ⟨h.agrees, fun w _ => h.carries w⟩
  | register devices site =>
    obtain ⟨woken, hrun⟩ := run_register devices site s.engine
    simp only [accepts, handles, step, hrun, Option.toList_none]
    refine ⟨.register_of_ne hspares site, fun w hw => Untouched.carries ⟨?_, rfl, List.prefix_rfl⟩⟩
    exact Registry.laneOf?_register_of_ne (fun heq => hspares (heq.symm.trans hw)) site
  | shutdown => exact hspares.elim
  | elsewhere timeline outside woken =>
    exact ⟨.refl location _, fun w _ => Untouched.carries ⟨rfl, rfl, List.prefix_rfl⟩⟩

/-- In a run that leaves the worker of a location in its place, nothing else happens to the workers of the location. -/
theorem carries_run_of_spares (world : Surroundings σ) (hcontains : s.engine.registry.contains location)
    {moves : List (Move σ)} (hspares : ∀ m ∈ moves, m.Spares location) :
    (s.run world moves).engine.registry.Agrees location s.engine.registry ∧ ∀ w, w.location = location →
      Carries w (s.accepted world w moves) (s.handled world w moves) s.engine (s.run world moves).engine := by
  induction moves generalizing s with
  | nil => exact ⟨.refl location _, fun w _ => Untouched.carries ⟨rfl, rfl, List.prefix_rfl⟩⟩
  | cons m moves ih =>
    obtain ⟨hm, hmoves⟩ := List.forall_mem_cons.mp hspares
    have hsettled : (s.engine.registry.resolve location).2 = s.engine.registry := by
      rw [Registry.resolve_of_contains hcontains]
    obtain ⟨hagrees, hcarries⟩ := s.carries_step_of_spares world hm fun _ => hsettled
    obtain ⟨hagrees', hcarries'⟩ := ih (hagrees.contains.trans hcontains) hmoves
    exact ⟨hagrees'.trans hagrees, fun w hw => (hcarries w hw).trans (hcarries' w hw)⟩

end System

/-- A worker that has not been told to stop and stays in its place goes on serving. -/
theorem Serving.run_of_spares (world : Surroundings σ) {s : System σ} {location : LocationId}
    {begun : Lane} (hlane : s.engine.registry.lane? location = some begun) (hready : begun.activity = .ready)
    (hkept : begun.isCancelled = false) {moves : List (Move σ)} (hspares : ∀ m ∈ moves, m.Spares location) :
    let w := s.engine.registry.latest location
    ∃ lane, (s.run world moves).engine.registry.lane? location = some lane ∧ lane.isCancelled = false ∧
      Serving w begun.worker (s.engine.publishedBy w) (begun.queue ++ s.accepted world w moves)
        (s.handled world w moves) [] lane (s.run world moves).engine := by
  intro w
  have hcontains := Registry.contains_of_lane? hlane
  obtain ⟨hagrees, hcarries⟩ := s.carries_run_of_spares world hcontains hspares
  obtain ⟨refused, lane, -, hcancelled, hserving⟩ := (hcarries w rfl).serving
    (.start (Registry.laneOf?_latest hlane) fun hstopped => nomatch hready.symm.trans hstopped)
  rw [hkept] at hcancelled
  obtain rfl := hserving.refused_eq_nil hcancelled
  have hemploys : (s.run world moves).engine.registry.employs w :=
    (hagrees.employs_iff rfl).mpr (Registry.employs_latest hcontains)
  have hfound := hserving.found
  rw [Registry.laneOf?_of_employs hemploys] at hfound
  exact ⟨lane, hfound, hcancelled, hserving⟩

/-- The commands that a worker has handled are the first of those that were accepted, in order. The state of
the site, what readers see, what is published and what callers are answered are those of their account. -/
theorem serialised (world : Surroundings σ) {s : System σ} (hs : s.Reachable world) {location : LocationId}
    {devices : Devices} {site : Site Float} (hsite : site.Reachable)
    (hlane : s.engine.registry.lane? location = some { devices, worker := .start site })
    {moves : List (Move σ)} (hspares : ∀ m ∈ moves, m.Spares location) :
    let w := s.engine.registry.latest location
    let accepted := s.accepted world w moves
    let handled := s.handled world w moves
    let account := Account.replay site handled
    let after := (s.run world moves).engine
    ∃ lane, after.registry.lane? location = some lane ∧
      handled.map Handling.command ++ lane.queue = accepted ∧
      lane.worker.site = account.site ∧
      after.registry.shown location = .ok account.shown ∧
      after.publishedBy w = s.engine.publishedBy w ++ account.published ∧
      -- where the workers before it are gone, nobody else publishes for the location
      ((∀ v lane, v.location = location → v ≠ w → s.engine.registry.laneOf? v = some lane → lane.activity = .stopped) →
        after.publishedOn location = s.engine.publishedOn location ++ account.published) ∧
      -- every accepted command has a number of its own, or none
      (accepted.filterMap Command.ticket).Nodup ∧
      (∀ n answer, (n, answer) ∈ account.answers →
        after.answers.lookup n = some answer ∨
          (after.answers.lookup n = none ∧
            ∃ delivery, lane.activity = .delivering delivery (some n) answer)) ∧
      (∀ c ∈ lane.queue, ∀ n, c.ticket = some n → after.answers.lookup n = none) ∧
      -- every publication is of the three latest statuses and of a judgement of these
      ∀ a ∈ account.published, ∃ before k later t, handled = before ++ k :: later ∧
        k.thresholds = .ok t ∧
        ((before ++ [k]).map Handling.observation).foldl Evidence.put site.evidence =
          ⟨some a.blockage, some a.waterLevel, some a.weather⟩ ∧
        a.judgement = judge ⟨some a.blockage, some a.waterLevel, some a.weather⟩ t := by
  intro w accepted handled account after
  obtain ⟨lane, hfound, -, hserving⟩ := Serving.run_of_spares world hlane rfl rfl hspares
  have hnumbered := (hs.run moves).numbered
  have hworker : lane.worker = account.worker :=
    hserving.worker.trans (Account.worker_replay site handled).symm
  have hpublished : after.publishedBy w = s.engine.publishedBy w ++ account.published := by
    rw [Account.published_replay hsite]
    exact hserving.published
  have hqueue : handled.map Handling.command ++ lane.queue = accepted := by
    have hqueue := hserving.queue
    rwa [List.append_nil] at hqueue
  refine ⟨lane, hfound, hqueue, ?_, ?_, hpublished, fun hgone => ?_, hserving.nodup_tickets hnumbered, ?_, ?_, ?_⟩
  · rw [hworker]
    rfl
  · rw [Registry.shown, hfound]
    exact congrArg (Except.ok ∘ Worker.shown) hworker
  · refine publishedOn_of_publishedBy (w := w) (s.published_run world moves) (fun v hv hne => ?_) hpublished
    obtain ⟨-, hcarries⟩ := s.carries_run_of_spares world (Registry.contains_of_lane? hlane) hspares
    exact ((hcarries v hv).gone fun lane hlane => hgone v lane hv hne hlane).2.2.2
  · intro n answer hmem
    rw [Account.answers_replay] at hmem
    exact hserving.lookup_answers hnumbered (List.mem_append_left _ hmem)
  · intro c hc n hn
    refine Serving.lookup_answers_eq_none hnumbered hserving.found (List.mem_append_left _ ?_)
    exact List.mem_filterMap.mpr ⟨c, hc, hn⟩
  · intro a ha
    exact Account.of_mem_published ha

/-- A location of which nothing is known, in a world whose thresholds can be had once. -/
def thresholdsOnce : System Memory :=
  (System.start {} none {} { supply := { provision := ⟨.ok Provision.standard, some 1⟩ } }).step
    Memory.surroundings (.register (.unmapped 7) .empty)

/-- A verdict of the blockage classifier. -/
def verdict (level : BlockageLevel) : Observation Float :=
  .blockage ⟨level, .year2000⟩

/-- Three producers wait for a judgement, and the worker gets as far as the second. -/
def threeCalls : List (Move Memory) :=
  [.call ⟨7, verdict .clear, true⟩, .call ⟨7, verdict .partly, true⟩, .work ⟨7, 1⟩,
    .call ⟨7, verdict .blocked, true⟩, .work ⟨7, 1⟩]

/-- The first caller gets a judgement, the second the error, and the third waits. -/
theorem serialised_threeCalls :
    ∃ lane, (thresholdsOnce.run Memory.surroundings threeCalls).engine.registry.lane? 7 = some lane ∧
      lane.queue = [⟨verdict .blocked, some 2⟩] ∧
      (thresholdsOnce.run Memory.surroundings threeCalls).engine.answers.lookup 2 = none := by
  have hreachable : thresholdsOnce.Reachable Memory.surroundings :=
    .step (.register (.unmapped 7) .empty) (.start {} none {} _)
  have hlane : thresholdsOnce.engine.registry.lane? 7 =
      some { devices := .unmapped 7, worker := .start .empty } := rfl
  have hspares : ∀ m ∈ threeCalls, m.Spares 7 := by
    simp [threeCalls, Move.Spares]
  obtain ⟨lane, hfound, hqueue, -, -, -, -, -, -, hwaiting, -⟩ :=
    serialised Memory.surroundings hreachable .empty hlane hspares
  have haccepted : thresholdsOnce.accepted Memory.surroundings ⟨7, 1⟩ threeCalls =
      [⟨verdict .clear, some 0⟩, ⟨verdict .partly, some 1⟩, ⟨verdict .blocked, some 2⟩] := rfl
  have hhandled : (thresholdsOnce.handled Memory.surroundings ⟨7, 1⟩ threeCalls).map Handling.command =
      [⟨verdict .clear, some 0⟩, ⟨verdict .partly, some 1⟩] := rfl
  have hlast : lane.queue = [⟨verdict .blocked, some 2⟩] := by
    have hlatest : thresholdsOnce.engine.registry.latest 7 = ⟨7, 1⟩ := rfl
    rw [hlatest, hhandled, haccepted] at hqueue
    exact List.append_cancel_left hqueue
  have hmem : (⟨verdict .blocked, some 2⟩ : Command) ∈ lane.queue := by
    rw [hlast]
    exact List.mem_singleton_self _
  exact ⟨lane, hfound, hlast, hwaiting _ hmem 2 rfl⟩

end Waterway
