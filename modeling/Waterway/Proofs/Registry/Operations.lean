import Waterway.Proofs.Registry.Serving

/-!
# What is done with a location

Who works for a location, from which state of the site on, and whether it has been told to stop, is told by the
operations that are addressed to the location, whatever else goes on and however the workers take their turns.

## Main definitions

- `Operation`, `operations` — what is done with a location in a run
- `Registry.planned` — the registry after some operations on a location, in which no worker has done anything
- `Abides` — a location is as planned, but for what its workers have done

## Main statements

- `Abides.step`, `Abides.run` — so it is in every run, and its workers have handled what was accepted, in order
- `System.Reachable.isCancelled_of_stopped` — no worker stops unless it has been told to
-/

namespace Waterway

open Engine

variable {σ : Type} {location : LocationId}

/-- What can be done with a location. The end is for all of them. -/
inductive Operation where
  | call (o : Observation Float) (waits : Bool)
  | register (devices : Devices) (site : Site Float)
  | shutdown

/-- What a move does with a location, if it is addressed to it. -/
def Move.operation? (location : LocationId) : Move σ → Option Operation
  | .call c => if c.location = location then some (.call c.observation c.waits) else none
  | .register devices site => if devices.location = location then some (.register devices site) else none
  | .shutdown => some .shutdown
  | .retry _ | .work _ _ | .elsewhere _ _ _ => none

/-- What is done with a location in a run, in order. -/
def operations (location : LocationId) (moves : List (Move σ)) : List Operation :=
  moves.filterMap (Move.operation? location)

namespace Registry

/-- What an operation on a location does, as far as it does not wait for a worker. -/
def perform (location : LocationId) (r : Registry) : Operation → Registry
  | .call _ _ => (r.resolve location).2
  | .register devices site => r.register devices site
  | .shutdown => r.shutdown

/-- The registry after some operations on a location, in which no worker has done anything. -/
def planned (location : LocationId) (r : Registry) (operations : List Operation) : Registry :=
  operations.foldl (perform location) r

theorem IsKeyed.perform {r : Registry} (h : r.IsKeyed) (location : LocationId) (op : Operation) :
    (r.perform location op).IsKeyed := by
  cases op with
  | call => exact h.resolve location
  | register devices site => exact h.register devices site
  | shutdown => exact h.shutdown

theorem IsKeyed.planned {r : Registry} (h : r.IsKeyed) (location : LocationId) (ops : List Operation) :
    (r.planned location ops).IsKeyed := by
  induction ops generalizing r with
  | nil => exact h
  | cons op ops ih => exact ih (h.perform location op)

/-- Two registries have come to the same for a location, its workers apart. -/
structure Agrees (location : LocationId) (r plan : Registry) : Prop where
  settings : r.settings = plan.settings
  isShutDown : r.isShutDown = plan.isShutDown
  contains : r.contains location = plan.contains location
  latest : r.latest location = plan.latest location

namespace Agrees

variable {r r' plan : Registry}

theorem refl (location : LocationId) (r : Registry) : r.Agrees location r :=
  ⟨rfl, rfl, rfl, rfl⟩

theorem trans (h : r'.Agrees location r) (hplan : r.Agrees location plan) : r'.Agrees location plan :=
  ⟨h.settings.trans hplan.settings, h.isShutDown.trans hplan.isShutDown, h.contains.trans hplan.contains,
    h.latest.trans hplan.latest⟩

theorem modifyLaneOf (r : Registry) (w : WorkerId) (f : Lane → Lane) : (r.modifyLaneOf w f).Agrees location r := by
  refine ⟨?_, ?_, contains_modifyLaneOf r w f location, latest_modifyLaneOf r w f location⟩ <;>
    obtain ⟨lanes, former, h⟩ := r.exists_modifyLaneOf_eq w f <;> rw [h]

/-- What is registered in another place makes no difference. -/
theorem register_of_ne {devices : Devices} (h : devices.location ≠ location) (site : Site Float) :
    (r.register devices site).Agrees location r := by
  refine ⟨rfl, rfl, ?_, ?_⟩
  · rw [contains_register, beq_false_of_ne (Ne.symm h), Bool.false_or]
  · rw [latest_register, if_neg (Ne.symm h)]

theorem resolve_of_ne {other : LocationId} (h : other ≠ location) : (r.resolve other).2.Agrees location r := by
  rcases r.resolve_snd other with hsame | ⟨-, hnew⟩
  · rw [hsame]
    exact refl location r
  · rw [hnew]
    exact register_of_ne h .empty

theorem employs_iff (h : r.Agrees location plan) {w : WorkerId} (hw : w.location = location) :
    r.employs w ↔ plan.employs w := by
  subst hw
  rw [Registry.employs_iff, Registry.employs_iff, h.contains, h.latest]

theorem newLane_eq (h : r.Agrees location plan) (devices : Devices) (site : Site Float) :
    r.newLane devices site = plan.newLane devices site := by
  rw [newLane, newLane, h.isShutDown]

theorem register (h : r.Agrees location plan) {devices : Devices} (hdevices : devices.location = location)
    (site : Site Float) : (r.register devices site).Agrees location (plan.register devices site) := by
  refine ⟨h.settings, h.isShutDown, ?_, ?_⟩
  · rw [contains_register, contains_register, h.contains]
  · have hnumber := congrArg WorkerId.number h.latest
    rw [latest_register, latest_register, if_pos hdevices.symm, if_pos hdevices.symm]
    exact congrArg (fun n => (⟨location, n + 1⟩ : WorkerId)) hnumber

theorem shutdown (h : r.Agrees location plan) : r.shutdown.Agrees location plan.shutdown :=
  ⟨h.settings, rfl, rfl, h.latest⟩

/-- Both registries do the same with an observation. -/
theorem resolve_eq (h : r.Agrees location plan) : (r.resolve location).1 = (plan.resolve location).1 := by
  cases hcontains : plan.contains location with
  | true => rw [resolve_of_contains (h.contains.trans hcontains), resolve_of_contains hcontains, h.latest]
  | false =>
    have hlocation : (Devices.unmapped location).location = location := rfl
    have hregister := (h.register hlocation .empty).latest
    have habsent := h.contains.trans hcontains
    have hpolicy : r.settings.policy = plan.settings.policy := by rw [h.settings]
    rw [resolve, resolve, habsent, hcontains, hpolicy]
    cases plan.settings.policy with
    | ignore => rfl
    | reject => rfl
    | register => simp only [Bool.false_eq_true, if_false, insertOrReuse, habsent, hcontains, hregister]

theorem found?_eq (h : r.Agrees location plan) : r.found? location = plan.found? location := by
  rw [found?, found?, h.resolve_eq]

end Agrees

end Registry

namespace Engine

variable {w : WorkerId} {e after : Engine σ} {p : Progress}

theorem Worked.agrees {world : Surroundings σ} {lingers : Bool} (h : Worked world w lingers e after) :
    after.registry.Agrees location e.registry := by
  cases h with
  | idle => exact .refl location _
  | ended | delivered | handled => exact .modifyLaneOf _ _ _

theorem Entered.agrees {c : Command} (h : Entered w c e p after) : after.registry.Agrees location e.registry := by
  cases h with
  | blocked | refused => exact .refl location _
  | entered => exact .modifyLaneOf _ _ _

theorem Begun.agrees {call : Call} (h : Begun call e p after) (hother : call.location ≠ location) :
    after.registry.Agrees location e.registry := by
  cases h with
  | ended => exact .refl location _
  | entered hfound hentered => exact hentered.agrees.trans (.resolve_of_ne hother)

end Engine

/-- A worker is as planned, but for what it has done: it has handled some of the commands that were accepted. -/
structure AbidesAt (w : WorkerId) (before : Engine σ) (planned : Option Lane) (accepted : List Command)
    (handled : List Handling) (e : Engine σ) : Prop where
  absent : planned = none → e.registry.laneOf? w = none
  gone : (∀ begun ∈ planned, begun.activity = .stopped) →
    (∀ lane ∈ e.registry.laneOf? w, lane.activity = .stopped) ∧ accepted = [] ∧ handled = [] ∧
      e.publishedBy w = before.publishedBy w
  serving : ∀ begun, planned = some begun → ∃ refused lane, lane.devices = begun.devices ∧
    lane.isCancelled = begun.isCancelled ∧ Serving w begun.worker (before.publishedBy w) (begun.queue ++ accepted)
      handled refused lane e

namespace AbidesAt

variable {w : WorkerId} {before e after : Engine σ} {planned : Option Lane} {accepted : List Command}
  {handled : List Handling}

theorem carry (h : AbidesAt w before planned accepted handled e) {more : List Command} {done : List Handling}
    (hcarries : Carries w more done e after) :
    AbidesAt w before planned (accepted ++ more) (handled ++ done) after where
  absent hnone := hcarries.absent (h.absent hnone)
  gone hgone := by
    obtain ⟨hlane, rfl, rfl, hpublished⟩ := h.gone hgone
    obtain ⟨hafter, rfl, rfl, hsame⟩ := hcarries.gone hlane
    exact ⟨hafter ▸ hlane, rfl, rfl, hsame.trans hpublished⟩
  serving begun hbegun := by
    obtain ⟨refused, lane, hdevices, hcancelled, hserving⟩ := h.serving begun hbegun
    obtain ⟨refused', lane', hdevices', hcancelled', hserving'⟩ := hcarries.serving hserving
    rw [List.append_assoc] at hserving'
    exact ⟨refused', lane', hdevices'.trans hdevices, hcancelled'.trans hcancelled, hserving'⟩

/-- Who is told to stop, if it is told, has been told so as planned. -/
theorem dismiss (h : AbidesAt w before planned accepted handled e) (told : Bool)
    (hlane : after.registry.laneOf? w =
      (e.registry.laneOf? w).map fun l => if told then { l with isCancelled := true } else l)
    (hpublished : after.published = e.published) (hanswers : after.answers = e.answers) :
    AbidesAt w before (planned.map fun l => if told then { l with isCancelled := true } else l) accepted handled
      after where
  absent hnone := by rw [hlane, h.absent (Option.map_eq_none_iff.mp hnone), Option.map_none]
  gone hgone := by
    have hkept (l : Lane) : (if told then { l with isCancelled := true } else l : Lane).activity = l.activity := by
      cases told <;> rfl
    obtain ⟨hstopped, haccepted, hhandled, hsame⟩ := h.gone fun begun hbegun =>
      (hkept begun).symm.trans (hgone _ (Option.mem_map_of_mem _ hbegun))
    refine ⟨fun lane hfound => ?_, haccepted, hhandled, ?_⟩
    · rw [hlane] at hfound
      obtain ⟨l, hl, rfl⟩ := Option.map_eq_some_iff.mp hfound
      exact (hkept l).trans (hstopped l hl)
    · rw [publishedBy, hpublished]
      exact hsame
  serving begun hbegun := by
    obtain ⟨begun, hplanned, rfl⟩ := Option.map_eq_some_iff.mp hbegun
    obtain ⟨refused, lane, hdevices, hcancelled, hserving⟩ := h.serving begun hplanned
    rw [hserving.found, Option.map_some] at hlane
    cases told with
    | false =>
      refine ⟨refused, lane, hdevices, hcancelled, hserving.of_untouched ⟨hlane.trans hserving.found.symm, ?_, ?_⟩⟩
      · rw [publishedBy, hpublished, publishedBy]
      · exact hanswers ▸ List.prefix_rfl
    | true =>
      exact ⟨refused, { lane with isCancelled := true }, hdevices, rfl, hserving.cancel hlane hpublished hanswers⟩

/-- A worker that has just been started has done nothing. -/
theorem of_new (h : AbidesAt w before none accepted handled e) {lane : Lane}
    (hlane : after.registry.laneOf? w = some lane) (hready : lane.activity = .ready)
    (hpublished : after.published = e.published) : AbidesAt w before (some lane) accepted handled after where
  absent hnone := nomatch hnone
  gone hgone := nomatch hready.symm.trans (hgone lane rfl)
  serving begun hbegun := by
    obtain rfl := Option.some.inj hbegun
    have hnobody : ∀ begun ∈ (none : Option Lane), begun.activity = .stopped := by simp
    obtain ⟨-, rfl, rfl, hsame⟩ := h.gone hnobody
    have hserving := Serving.start hlane fun hstopped => nomatch hready.symm.trans hstopped
    refine ⟨[], lane, rfl, rfl, ?_⟩
    rw [← hsame, List.append_nil, publishedBy, ← hpublished]
    exact hserving

end AbidesAt

/-- A location is as planned, but for what its workers have done since. -/
structure Abides (location : LocationId) (before : Engine σ) (plan : Registry) (accepted : WorkerId → List Command)
    (handled : WorkerId → List Handling) (e : Engine σ) : Prop where
  agrees : e.registry.Agrees location plan
  workers : ∀ w, w.location = location →
    AbidesAt w before (plan.laneOf? w) (accepted w) (handled w) e

namespace Abides

variable {before e after : Engine σ} {plan : Registry} {accepted : WorkerId → List Command}
  {handled : WorkerId → List Handling}

theorem start {e : Engine σ}
    (hcancelled : ∀ w lane, e.registry.laneOf? w = some lane → lane.activity = .stopped → lane.isCancelled)
    (location : LocationId) : Abides location e e.registry (fun _ => []) (fun _ => []) e where
  agrees := .refl location e.registry
  workers w _ := by
    refine ⟨id, fun hgone => ⟨hgone, rfl, rfl, rfl⟩, fun begun hbegun => ⟨[], begun, rfl, rfl, ?_⟩⟩
    rw [List.append_nil]
    exact .start hbegun (hcancelled w begun hbegun)

theorem carry (h : Abides location before plan accepted handled e) (hagrees : after.registry.Agrees location e.registry)
    {more : WorkerId → List Command} {done : WorkerId → List Handling}
    (hcarries : ∀ w, w.location = location → Carries w (more w) (done w) e after) :
    Abides location before plan (fun w => accepted w ++ more w) (fun w => handled w ++ done w) after where
  agrees := hagrees.trans h.agrees
  workers w hw := (h.workers w hw).carry (hcarries w hw)

/-- What does not touch the workers of the location makes no difference. -/
theorem of_untouched (h : Abides location before plan accepted handled e)
    (hagrees : after.registry.Agrees location e.registry)
    (huntouched : ∀ w, w.location = location → Untouched w e after) :
    Abides location before plan accepted handled after where
  agrees := hagrees.trans h.agrees
  workers w hw := by
    have hworker := (h.workers w hw).carry (huntouched w hw).carries
    rwa [List.append_nil, List.append_nil] at hworker

theorem register (h : Abides location before plan accepted handled e) (hkeyed : e.registry.IsKeyed)
    (hplan : plan.IsKeyed) {devices : Devices} (hdevices : devices.location = location) (site : Site Float)
    (hregistry : after.registry = e.registry.register devices site) (hpublished : after.published = e.published)
    (hanswers : after.answers = e.answers) :
    Abides location before (plan.register devices site) accepted handled after where
  agrees := by
    rw [hregistry]
    exact h.agrees.register hdevices site
  workers w hw := by
    have hworker := h.workers w hw
    have hlatest : (plan.register devices site).latest devices.location =
        (e.registry.register devices site).latest devices.location := by
      rw [hdevices]
      exact (h.agrees.register hdevices site).latest.symm
    have hlane := Registry.laneOf?_register hkeyed devices site w
    rw [← hregistry] at hlane
    rw [Registry.laneOf?_register hplan, hlatest, ← hregistry]
    by_cases hnew : w = after.registry.latest devices.location
    · have hnone : plan.laneOf? w = none := by
        refine hplan.laneOf?_eq_none ?_
        rw [hnew, hregistry, ← hlatest, Registry.latest_register, if_pos rfl]
        exact Nat.lt_succ_self _
      rw [if_pos hnew] at hlane ⊢
      rw [hnone] at hworker
      rw [h.agrees.newLane_eq] at hlane
      exact hworker.of_new hlane rfl hpublished
    · rw [if_neg hnew] at hlane ⊢
      have htold : (w.location = devices.location ∧ plan.employs w) ↔
          (w.location = devices.location ∧ e.registry.employs w) := by
        rw [h.agrees.employs_iff hw]
      simp only [htold]
      let told := decide (w.location = devices.location ∧ e.registry.employs w)
      have hlane : after.registry.laneOf? w =
          (e.registry.laneOf? w).map fun l => if told then { l with isCancelled := true } else l := by
        simpa [told] using hlane
      have hdismissed := hworker.dismiss told hlane hpublished hanswers
      simpa [told] using hdismissed

theorem resolve (h : Abides location before plan accepted handled e) (hkeyed : e.registry.IsKeyed)
    (hplan : plan.IsKeyed) (hregistry : after.registry = (e.registry.resolve location).2)
    (hpublished : after.published = e.published) (hanswers : after.answers = e.answers) :
    Abides location before (plan.resolve location).2 accepted handled after := by
  have hsame (hregistry : after.registry = e.registry) : Abides location before plan accepted handled after := by
    refine h.of_untouched (hregistry ▸ .refl location _) fun w _ => ⟨by rw [hregistry], ?_, hanswers ▸ List.prefix_rfl⟩
    rw [publishedBy, hpublished, publishedBy]
  have hfound := h.agrees.found?_eq
  cases hplanned : plan.found? location with
  | none =>
    rw [(Registry.resolve_of_found?_eq_none (hfound.trans hplanned)).2.1] at hregistry
    rw [(Registry.resolve_of_found?_eq_none hplanned).2.1]
    exact hsame hregistry
  | some w =>
    rw [(Registry.resolve_of_found? (hfound.trans hplanned)).1, Registry.insertOrReuse, h.agrees.contains] at hregistry
    rw [(Registry.resolve_of_found? hplanned).1]
    show Abides location before (plan.insertOrReuse location) accepted handled after
    rw [Registry.insertOrReuse]
    split
    · next hcontains =>
      rw [if_pos hcontains] at hregistry
      exact hsame hregistry
    · next habsent =>
      have hlocation : (Devices.unmapped location).location = location := rfl
      rw [if_neg habsent] at hregistry
      exact h.register hkeyed hplan hlocation .empty hregistry hpublished hanswers

theorem shutdown (h : Abides location before plan accepted handled e) (hkeyed : e.registry.IsKeyed)
    (hplan : plan.IsKeyed) (hregistry : after.registry = e.registry.shutdown)
    (hpublished : after.published = e.published) (hanswers : after.answers = e.answers) :
    Abides location before plan.shutdown accepted handled after where
  agrees := by
    rw [hregistry]
    exact h.agrees.shutdown
  workers w hw := by
    have hlane := Registry.laneOf?_shutdown hkeyed w
    rw [← hregistry] at hlane
    have hdismissed := (h.workers w hw).dismiss (e.registry.employs w) hlane hpublished hanswers
    have htold : e.registry.employs w = plan.employs w := by
      rw [Bool.eq_iff_iff]
      exact h.agrees.employs_iff hw
    rw [Registry.laneOf?_shutdown hplan w, ← htold]
    exact hdismissed

/-- Who is brought to a worker of the location, or to another, may leave a command there. -/
theorem entered (h : Abides location before plan accepted handled e) {v : WorkerId} {c : Command} {p : Progress}
    (hentered : Entered v c e p after) :
    Abides location before plan (fun w => accepted w ++ (if v = w then p.entry c.observation else none).toList) handled
      after := by
  have hcarried := h.carry hentered.agrees fun w _ => hentered.carries w
  simpa only [List.append_nil] using hcarried

theorem worked (h : Abides location before plan accepted handled e) {world : Surroundings σ} {v : WorkerId}
    {lingers : Bool} (hworked : Worked world v lingers e after) :
    Abides location before plan accepted
      (fun w => handled w ++ (if v = w then e.handling world w lingers else none).toList) after := by
  have hcarried := h.carry hworked.agrees fun w _ => hworked.carries w
  simpa only [List.append_nil] using hcarried

theorem begun (h : Abides location before plan accepted handled e) (hkeyed : e.registry.IsKeyed) (hplan : plan.IsKeyed)
    {call : Call} {p : Progress} (hbegun : Begun call e p after) :
    Abides location before (if call.location = location then (plan.resolve location).2 else plan)
      (fun w => accepted w ++
        (if e.registry.found? call.location = some w then p.entry call.observation else none).toList) handled
      after := by
  by_cases hlocation : call.location = location
  · subst hlocation
    rw [if_pos rfl]
    cases hbegun with
    | @ended woken hnone =>
      have hregistry := (Registry.resolve_of_found?_eq_none hnone).2.1.symm
      have hresolved : Abides call.location before (plan.resolve call.location).2 accepted handled { e with woken } :=
        h.resolve hkeyed hplan hregistry rfl rfl
      simpa [hnone] using hresolved
    | @entered v woken _ _ hfound hentered =>
      let resolved : Engine σ := { e with
        registry := (e.registry.resolve call.location).2
        tickets := e.tickets + (call.ticket e).toList.length
        woken }
      have hresolved : Abides call.location before (plan.resolve call.location).2 accepted handled resolved :=
        h.resolve hkeyed hplan rfl rfl rfl
      simpa only [hfound, Option.some_inj] using hresolved.entered hentered
  · rw [if_neg hlocation]
    have hnone (w : WorkerId) (hw : w.location = location) : e.registry.found? call.location ≠ some w := by
      intro hfound
      rw [(Registry.resolve_of_found? hfound).2] at hw
      exact hlocation hw
    have huntouched (w : WorkerId) (hw : w.location = location) : Untouched w e after :=
      hbegun.untouched fun heq => hlocation (heq.symm.trans hw)
    have hsame := h.of_untouched (hbegun.agrees hlocation) huntouched
    refine ⟨hsame.agrees, fun w hw => ?_⟩
    rw [if_neg (hnone w hw), Option.toList_none, List.append_nil]
    exact hsame.workers w hw

variable {s : System σ}

/-- After every move the location is as planned, but for what its workers have done. -/
theorem step (world : Surroundings σ) (hs : s.Numbered)
    (h : Abides location before plan accepted handled s.engine) (hplan : plan.IsKeyed) (m : Move σ) :
    Abides location before (plan.planned location (m.operation? location).toList)
      (fun w => accepted w ++ (s.accepts w m).toList) (fun w => handled w ++ (s.handles world w m).toList)
      (s.step world m).engine := by
  cases m with
  | call c =>
    have hbegun := h.begun hs.keyed hplan (begun_begin c s.engine)
    simp only [Move.operation?, System.accepts, System.handles, Option.toList_none, List.append_nil]
    split
    · next hlocation =>
      rw [if_pos hlocation] at hbegun
      exact hbegun
    · next hother =>
      rw [if_neg hother] at hbegun
      exact hbegun
  | retry number =>
    simp only [System.handles, Move.operation?, Option.toList_none, List.append_nil]
    cases hcall : s.calls[number]? with
    | none =>
      simp only [System.step, System.accepts, hcall, Option.toList_none, List.append_nil]
      exact h
    | some p =>
      cases p with
      | ended result =>
        simp only [System.step_retry world hcall rfl, System.accepts, hcall, Option.toList_none, List.append_nil]
        exact h
      | pending v ticket =>
        simp only [System.step_retry world hcall rfl, System.accepts, hcall, Option.toList_none, List.append_nil]
        exact h
      | blocked v c =>
        simp only [System.step_retry_blocked world hcall, System.accepts, hcall]
        exact h.entered (entered_tryEnqueue v c s.engine)
  | work v lingers =>
    simp only [System.accepts, System.handles, Option.toList_none, List.append_nil]
    exact h.worked (worked_work world v lingers s.engine)
  | register devices site =>
    obtain ⟨woken, hrun⟩ := run_register devices site s.engine
    simp only [System.accepts, System.handles, Option.toList_none, List.append_nil, Move.operation?, System.step, hrun]
    split
    · next hdevices => exact h.register hs.keyed hplan hdevices site rfl rfl rfl
    · next hother =>
      refine h.of_untouched (.register_of_ne hother site) fun w hw => ⟨?_, rfl, List.prefix_rfl⟩
      exact Registry.laneOf?_register_of_ne (fun heq => hother (heq.symm.trans hw)) site
  | shutdown =>
    obtain ⟨woken, hrun⟩ := run_shutdown s.engine
    simp only [System.accepts, System.handles, Option.toList_none, List.append_nil, System.step, hrun]
    exact h.shutdown hs.keyed hplan rfl rfl rfl
  | elsewhere timeline outside woken =>
    simp only [System.accepts, System.handles, Option.toList_none, List.append_nil]
    exact h.of_untouched (.refl location _) fun w _ => ⟨rfl, rfl, List.prefix_rfl⟩

/-- At the end of a run the location is as planned, but for what its workers have done. -/
theorem run (world : Surroundings σ) (hs : s.Numbered)
    (h : Abides location before plan accepted handled s.engine) (hplan : plan.IsKeyed) (moves : List (Move σ)) :
    Abides location before (plan.planned location (operations location moves))
      (fun w => accepted w ++ s.accepted world w moves) (fun w => handled w ++ s.handled world w moves)
      (s.run world moves).engine := by
  induction moves generalizing s plan accepted handled with
  | nil =>
    simp only [System.accepted, System.handled, System.gather, List.append_nil]
    exact h
  | cons m moves ih =>
    have hrun := ih (hs.step world m) (h.step world hs hplan m) (hplan.planned location _)
    have hplanned : (plan.planned location (m.operation? location).toList).planned location
        (operations location moves) = plan.planned location (operations location (m :: moves)) := by
      rw [operations, operations, List.filterMap_cons]
      cases m.operation? location <;> rfl
    simp only [hplanned, List.append_assoc] at hrun
    exact hrun

end Abides

/-- In every system that has come about no worker has stopped but those that had been told to. -/
theorem System.Reachable.isCancelled_of_stopped {world : Surroundings σ} {s : System σ} (hs : s.Reachable world)
    {w : WorkerId} {lane : Lane} (hlane : s.engine.registry.laneOf? w = some lane)
    (hstopped : lane.activity = .stopped) : lane.isCancelled := by
  have habides : ∃ before plan accepted handled, plan.IsKeyed ∧
      Abides w.location before plan accepted handled s.engine := by
    clear hlane
    induction hs with
    | start settings publishTimeout timeline outside =>
      let e : Engine σ := (System.start settings publishTimeout timeline outside).engine
      have hnobody (w : WorkerId) : e.registry.laneOf? w = none := rfl
      have hstart := Abides.start (fun w lane hlane => nomatch (hnobody w).symm.trans hlane) w.location
      exact ⟨e, e.registry, _, _, .empty settings, hstart⟩
    | step m hs ih =>
      obtain ⟨before, plan, accepted, handled, hplan, habides⟩ := ih
      exact ⟨_, _, _, _, hplan.planned _ _, habides.step world hs.numbered hplan m⟩
  obtain ⟨before, plan, accepted, handled, -, habides⟩ := habides
  have hworker := habides.workers w rfl
  cases hplanned : plan.laneOf? w with
  | none => cases (hworker.absent hplanned).symm.trans hlane
  | some begun =>
    obtain ⟨refused, found, -, -, hserving⟩ := hworker.serving begun hplanned
    obtain rfl := Option.some.inj (hserving.found.symm.trans hlane)
    exact hserving.cancelled hstopped

end Waterway
