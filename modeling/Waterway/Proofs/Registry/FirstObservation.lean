import Waterway.Proofs.Registry.Crowd
import Waterway.Proofs.Registry.Serialisation

/-!
# The first observation of a location

While one call is about to register a location, other calls may have found it unknown as well. However the steps of many
calls are mixed, one worker is started for the location, and all observations of it go to that worker.

## Main definitions

- `WorkerId.Serves` — a worker is the first of its location
- `Crowd.Staffed` — what holds of the workers at any time
- `Crowd.Advance` — one call comes further, or begins
- `Crowd.Sound` — what holds of the calls and of the workers at any time

## Main statements

- `Crowd.Sound.step`, `Crowd.Sound.run` — a turn keeps what holds at any time, and so does a run
- `first_observation` — one worker for all observations of a location
-/

namespace Waterway

open Engine

variable {σ : Type}

namespace WorkerId

/-- A worker is the first of its location, which is registered. -/
def Serves (w : WorkerId) (r : Registry) : Prop :=
  w.number = 1 ∧ r.contains w.location

theorem Serves.eq_first {w : WorkerId} {r : Registry} (h : w.Serves r) : w = first w.location :=
  congrArg (WorkerId.mk w.location) h.1

theorem serves_first {location : LocationId} {r : Registry} : (first location).Serves r ↔ r.contains location :=
  and_iff_right rfl

theorem serves_congr {w : WorkerId} {r r' : Registry} (h : r'.contains w.location = r.contains w.location) :
    w.Serves r' ↔ w.Serves r := by
  rw [Serves, Serves, h]

theorem serves_insertOrReuse {w : WorkerId} {r : Registry} {location : LocationId} :
    w.Serves (r.insertOrReuse location) ↔ w.Serves r ∨ w = first location := by
  rw [Serves, Serves, Registry.contains_insertOrReuse, Bool.or_eq_true, or_comm, and_or_left]
  refine or_congr_right ⟨fun h => ?_, ?_⟩
  · exact eq_of_beq h.2 ▸ congrArg (WorkerId.mk w.location) h.1
  · rintro rfl
    exact ⟨rfl, beq_self_eq_true _⟩

end WorkerId

/-- Where there is no worker, one is started that knows nothing of its location. -/
theorem Registry.lane?_insertOrReuse_self {r : Registry} {location : LocationId}
    (hunknown : r.contains location = false) (hopen : r.isShutDown = false) :
    (r.insertOrReuse location).lane? location = some { devices := .unmapped location, worker := .start .empty } := by
  have hregister : r.insertOrReuse location = r.register (.unmapped location) .empty := if_neg (by simp [hunknown])
  rw [hregister, Registry.lane?_register, newLane, hopen]
  exact if_pos rfl

/-- A worker that has not been told to stop has room for a command, or lets its caller wait. -/
theorem Serving.tried {w : WorkerId} {begun : Worker} {earlier : List (Analysis Float)} {accepted : List Command}
    {handled : List Handling} {refused : List Command} {lane : Lane} {e : Engine σ}
    (h : Serving w begun earlier accepted handled refused lane e) (hkept : lane.isCancelled = false) (c : Command) :
    ((tryEnqueue w c).run e).1 = .blocked w c ∨ ((tryEnqueue w c).run e).1 = .ofEntry w c := by
  by_cases hroom : e.registry.hasRoom lane
  · obtain ⟨woken, hrun⟩ := run_tryEnqueue_of_open h.found (h.isAccepting hkept) hroom c
    exact .inr (congrArg Prod.fst hrun)
  · exact .inl (congrArg Prod.fst (run_tryEnqueue_of_full h.found (h.isAccepting hkept) hroom c))

namespace Crowd

/-- The workers have handled, in order, the first of what they were sent, and every location has had one of them at
most. -/
structure Staffed (s : Crowd σ) : Prop where
  policy : s.engine.registry.settings.policy = .register
  isOpen : s.engine.registry.isShutDown = false
  once : ∀ location, s.engine.registry.latest location =
    ⟨location, if s.engine.registry.contains location then 1 else 0⟩
  absent : ∀ w : WorkerId, ¬w.Serves s.engine.registry → s.engine.registry.laneOf? w = none
  accepted : ∀ w c, (w, c) ∈ s.accepted → w.Serves s.engine.registry
  handled : ∀ w h, (w, h) ∈ s.handled → w.Serves s.engine.registry
  serving : ∀ w : WorkerId, w.Serves s.engine.registry → ∃ earlier lane, lane.isCancelled = false ∧
    Serving w (.start .empty) earlier (Keyed.under w s.accepted) (Keyed.under w s.handled) [] lane s.engine

namespace Staffed

variable {s : Crowd σ} {location : LocationId}

theorem latest_eq (h : s.Staffed) (hcontains : s.engine.registry.contains location) :
    s.engine.registry.latest location = .first location := by
  rw [h.once, if_pos hcontains, WorkerId.first]

/-- What was sent to a worker, and handled by it, is nothing if it does not serve. -/
theorem under_eq_nil (h : s.Staffed) {w : WorkerId} (hnot : ¬w.Serves s.engine.registry) :
    Keyed.under w s.accepted = [] ∧ Keyed.under w s.handled = [] := by
  simp only [List.eq_nil_iff_forall_not_mem, Keyed.mem_under]
  exact ⟨fun c hc => hnot (h.accepted w c hc), fun k hk => hnot (h.handled w k hk)⟩

/-- Something happens to workers, and nobody is registered. -/
theorem carry (h : s.Staffed) {e : Engine σ} (hagrees : ∀ location, e.registry.Agrees location s.engine.registry)
    {taken : List (WorkerId × Command)} {worked : List (WorkerId × Handling)}
    (hcarries : ∀ w, Carries w (Keyed.under w taken) (Keyed.under w worked) s.engine e) (calls : List CallStage) :
    Staffed { engine := e, calls, accepted := s.accepted ++ taken, handled := s.handled ++ worked } := by
  have hserves (w : WorkerId) : w.Serves e.registry ↔ w.Serves s.engine.registry :=
    WorkerId.serves_congr (hagrees w.location).contains
  -- nothing happens to a worker that does not serve
  have hnone (w : WorkerId) (hnot : ¬w.Serves s.engine.registry) :
      Keyed.under w taken = [] ∧ Keyed.under w worked = [] := by
    have hgone : ∀ lane ∈ s.engine.registry.laneOf? w, lane.activity = .stopped := by
      rw [h.absent w hnot]
      simp
    obtain ⟨-, htaken, hworked, -⟩ := (hcarries w).gone hgone
    exact ⟨htaken, hworked⟩
  refine ⟨?_, ?_, fun location => ?_, fun w hnot => ?_, fun w c hc => ?_, fun w k hk => ?_, fun w hw => ?_⟩
  · exact (congrArg RegistrySettings.policy (hagrees 0).settings).trans h.policy
  · exact (hagrees 0).isShutDown.trans h.isOpen
  · rw [(hagrees location).latest, (hagrees location).contains]
    exact h.once location
  · exact (hcarries w).absent (h.absent w (mt (hserves w).mpr hnot))
  · refine (hserves w).mpr ((List.mem_append.mp hc).elim (h.accepted w c) fun hnew => ?_)
    by_contra hnot
    exact List.not_mem_nil ((hnone w hnot).1 ▸ Keyed.mem_under.mpr hnew)
  · refine (hserves w).mpr ((List.mem_append.mp hk).elim (h.handled w k) fun hnew => ?_)
    by_contra hnot
    exact List.not_mem_nil ((hnone w hnot).2 ▸ Keyed.mem_under.mpr hnew)
  · obtain ⟨earlier, lane, hkept, hserving⟩ := h.serving w ((hserves w).mp hw)
    obtain ⟨refused, lane', -, hcancelled, hserving⟩ := (hcarries w).serving hserving
    rw [hkept] at hcancelled
    obtain rfl := hserving.refused_eq_nil hcancelled
    rw [Keyed.under_append, Keyed.under_append]
    exact ⟨earlier, lane', hcancelled, hserving⟩

/-- Nothing happens to any worker. -/
theorem aside (h : s.Staffed) {e : Engine σ} (hregistry : e.registry = s.engine.registry)
    (huntouched : ∀ w, Untouched w s.engine e) (calls : List CallStage) : Staffed { s with engine := e, calls } := by
  have hcarried := @carry _ _ h e (fun location => hregistry ▸ .refl location _) [] []
    (fun w => (huntouched w).carries) calls
  rwa [List.append_nil, List.append_nil] at hcarried

/-- A worker is started where there is none, and the others stay. -/
theorem insertOrReuse (h : s.Staffed) (location : LocationId) :
    Staffed { s with engine := s.engine.insertOrReuse location } := by
  obtain ⟨woken, hinsert⟩ := s.engine.insertOrReuse_eq location
  rw [hinsert]
  cases hcontains : s.engine.registry.contains location with
  | true =>
    have hsame : s.engine.registry.insertOrReuse location = s.engine.registry := if_pos hcontains
    rw [hsame]
    exact h.aside (e := { s.engine with woken }) rfl (fun _ => ⟨rfl, rfl, List.prefix_rfl⟩) s.calls
  | false =>
    have hnew : s.engine.registry.insertOrReuse location = s.engine.registry.register (.unmapped location) .empty :=
      if_neg (by simp [hcontains])
    have hfirst : (s.engine.registry.insertOrReuse location).latest location = .first location := by
      have hcount := congrArg WorkerId.number (h.once location)
      rw [hcontains] at hcount
      rw [hnew]
      refine (Registry.latest_register ..).trans ((if_pos rfl).trans ?_)
      exact congrArg (fun n => (⟨location, n + 1⟩ : WorkerId)) hcount
    refine ⟨hnew ▸ h.policy, hnew ▸ h.isOpen, fun other => ?_, fun w hnot => ?_, fun w c hc => ?_, fun w k hk => ?_,
      fun w hw => ?_⟩
    · by_cases hother : other = location
      · subst hother
        simp [hfirst, WorkerId.first, Registry.contains_insertOrReuse]
      · simp [Registry.latest_insertOrReuse_of_ne hother, h.once other, Registry.contains_insertOrReuse, hother]
    · rw [WorkerId.serves_insertOrReuse, not_or] at hnot
      by_cases hlocation : w.location = location
      · have hemploys : ¬(s.engine.registry.insertOrReuse location).employs w := by
          rw [Registry.employs_iff, hlocation, hfirst]
          exact fun hboth => hnot.2 hboth.2
        have hbefore : ¬s.engine.registry.employs w := by
          rw [Registry.employs_iff, hlocation, hcontains]
          exact fun hboth => Bool.false_ne_true hboth.1
        have hlane := h.absent w hnot.1
        rw [Registry.laneOf?_of_not_employs hbefore] at hlane
        rw [Registry.laneOf?_of_not_employs hemploys, hnew, Registry.lookup_former_register,
          if_neg fun hboth => hbefore hboth.2, hlane, Option.or_none]
      · rw [hnew, Registry.laneOf?_register_of_ne hlocation]
        exact h.absent w hnot.1
    · exact WorkerId.serves_insertOrReuse.mpr (.inl (h.accepted w c hc))
    · exact WorkerId.serves_insertOrReuse.mpr (.inl (h.handled w k hk))
    · rcases WorkerId.serves_insertOrReuse.mp hw with hold | rfl
      · obtain ⟨earlier, lane, hkept, hserving⟩ := h.serving w hold
        have hlocation : w.location ≠ location := by
          rintro rfl
          exact Bool.false_ne_true (hcontains.symm.trans hold.2)
        refine ⟨earlier, lane, hkept, hserving.of_untouched ⟨?_, rfl, List.prefix_rfl⟩⟩
        rw [hnew]
        exact Registry.laneOf?_register_of_ne hlocation .empty
      · obtain ⟨haccepted, hhandled⟩ := h.under_eq_nil (w := .first location) fun hserves =>
          Bool.false_ne_true (hcontains.symm.trans hserves.2)
        let started : Lane := { devices := .unmapped location, worker := .start .empty }
        have hlane : (s.engine.registry.insertOrReuse location).laneOf? (.first location) = some started := by
          rw [← hfirst]
          exact Registry.laneOf?_latest (Registry.lane?_insertOrReuse_self hcontains h.isOpen)
        rw [haccepted, hhandled]
        exact ⟨_, started, rfl, Serving.start (e := { s.engine with
          registry := s.engine.registry.insertOrReuse location, woken }) hlane nofun⟩

end Staffed

/-- Calls among which one has come further, or has begun. -/
structure Advance (calls : List CallStage) (stage : CallStage) (after : List CallStage) : Prop where
  sub : ∀ other ∈ after, other ∈ calls ∨ other = stage
  workers : ∀ w, w ∈ after.filterMap CallStage.worker? ↔
    w ∈ calls.filterMap CallStage.worker? ∨ stage.worker? = some w
  entries : (after.filterMap CallStage.taken?).Perm (calls.filterMap CallStage.taken? ++ stage.taken?.toList)

namespace Advance

variable {calls : List CallStage}

theorem concat (calls : List CallStage) (stage : CallStage) : Advance calls stage (calls ++ [stage]) where
  sub other hother := by simpa using hother
  workers w := by
    rw [List.filterMap_append, List.mem_append]
    cases hworker : stage.worker? <;> simp [hworker, eq_comm]
  entries := by
    rw [List.filterMap_append]
    cases hentry : stage.taken? <;> simp [hentry]

/-- A call keeps hold of the worker that it has found. -/
theorem set {number : Nat} {old stage : CallStage} (hcall : calls[number]? = some old)
    (hworker : ∀ w, old.worker? = some w → stage.worker? = some w) (hentry : old.taken? = none) :
    Advance calls stage (calls.set number stage) where
  sub other hother := List.mem_or_eq_of_mem_set hother
  workers w := by
    obtain ⟨hlt, rfl⟩ := List.getElem?_eq_some_iff.mp hcall
    have hbefore := ((List.getElem_cons_eraseIdx_perm hlt).filterMap CallStage.worker?).mem_iff (a := w)
    have hafter := ((List.set_perm_cons_eraseIdx hlt stage).filterMap CallStage.worker?).mem_iff (a := w)
    rw [hafter, ← hbefore, List.mem_filterMap, List.mem_filterMap, List.exists_mem_cons_iff,
      List.exists_mem_cons_iff, or_assoc, or_comm]
    -- the old entry contributes nothing that the new one does not
    exact ⟨.inr, Or.rec (fun hold => .inr (hworker w hold)) id⟩
  entries := by
    obtain ⟨hlt, rfl⟩ := List.getElem?_eq_some_iff.mp hcall
    have hbefore := (List.getElem_cons_eraseIdx_perm hlt).filterMap CallStage.taken?
    have hafter := (List.set_perm_cons_eraseIdx hlt stage).filterMap CallStage.taken?
    rw [List.filterMap_cons_none hentry] at hbefore
    refine hafter.trans (List.Perm.trans ?_ (hbefore.append_right _))
    cases hnew : stage.taken? with
    | none => rw [List.filterMap_cons_none hnew, Option.toList_none, List.append_nil]
    | some entry =>
      rw [List.filterMap_cons_some hnew]
      exact (List.perm_append_singleton _ _).symm

end Advance

/-- What holds at any time: the calls agree with the workers about who has found whom, and who has entered. -/
structure Sound (s : Crowd σ) : Prop extends Staffed s where
  /-- Nobody has been turned away. -/
  heard : ∀ result, .ended result ∉ s.calls
  found : ∀ w, w ∈ s.workers ↔ w.Serves s.engine.registry
  entries : (s.calls.filterMap CallStage.taken?).Perm s.accepted

namespace Sound

variable {s : Crowd σ}

/-- A call comes further, and nothing else happens but that a worker is started for it, or takes it in. -/
theorem advance (h : s.Sound) {after : Crowd σ} (hstaffed : after.Staffed) {stage : CallStage}
    (hadvance : Advance s.calls stage after.calls) (hheard : ∀ result, stage ≠ .ended result)
    (hserves : ∀ w : WorkerId, w.Serves after.engine.registry ↔
      w.Serves s.engine.registry ∨ stage.worker? = some w)
    (haccepted : after.accepted = s.accepted ++ stage.taken?.toList) : after.Sound where
  toStaffed := hstaffed
  heard result hmem := by
    rcases hadvance.sub _ hmem with hbefore | hnew
    · exact h.heard result hbefore
    · exact hheard result hnew.symm
  found w := by
    rw [hserves, ← h.found w]
    exact hadvance.workers w
  entries := by
    rw [haccepted]
    exact hadvance.entries.trans (h.entries.append_right _)

theorem lookUp (h : s.Sound) (call : Call) : (s.lookUp call).Sound := by
  cases hcontains : s.engine.registry.contains call.location with
  | true =>
    rw [Crowd.lookUp, if_pos hcontains, binding, h.latest_eq hcontains]
    have hstaffed := h.aside (e := s.engine.numbered call) rfl (fun _ => ⟨rfl, rfl, List.prefix_rfl⟩)
    refine h.advance (hstaffed _) (.concat _ _) (fun _ => CallStage.noConfusion) ?_ (List.append_nil _).symm
    intro w
    refine (or_iff_left_of_imp fun hnew => ?_).symm
    cases hnew
    exact WorkerId.serves_first.mpr hcontains
  | false =>
    rw [Crowd.lookUp, if_neg (by simp [hcontains]), h.policy]
    have hstaffed := h.aside (e := s.engine) rfl (fun _ => ⟨rfl, rfl, List.prefix_rfl⟩)
    refine h.advance (hstaffed _) (.concat _ _) (fun _ => CallStage.noConfusion) ?_ (List.append_nil _).symm
    intro w
    exact (or_iff_left (Option.some_ne_none w).symm).symm

theorem insert (h : s.Sound) {number : Nat} {call : Call} (hcall : s.calls[number]? = some (.unknown call)) :
    (s.insert number call).Sound := by
  obtain ⟨woken, hinsert⟩ := s.engine.insertOrReuse_eq call.location
  have hstaffed := h.toStaffed.insertOrReuse call.location
  have hcontains : (s.engine.insertOrReuse call.location).registry.contains call.location := by
    simp [hinsert, Registry.contains_insertOrReuse]
  have hserves (w : WorkerId) : w.Serves (s.engine.insertOrReuse call.location).registry ↔
      w.Serves s.engine.registry ∨ some (WorkerId.first call.location) = some w := by
    rw [hinsert, WorkerId.serves_insertOrReuse, Option.some_inj, eq_comm]
  have hnumbered := hstaffed.aside (e := (s.engine.insertOrReuse call.location).numbered call) rfl
    (fun _ => ⟨rfl, rfl, List.prefix_rfl⟩)
  rw [Crowd.insert, binding, hstaffed.latest_eq hcontains]
  refine h.advance (hnumbered _) (.set hcall ?_ rfl) (fun _ => CallStage.noConfusion) hserves
    (List.append_nil _).symm
  intro w hnone
  exact absurd hnone.symm (Option.some_ne_none w)

theorem send (h : s.Sound) {number : Nat} {w : WorkerId} {c : Command}
    (hcall : s.calls[number]? = some (.bound w c)) : (s.send number w c).Sound := by
  have hserves : w.Serves s.engine.registry :=
    (h.found w).mp (List.mem_filterMap.mpr ⟨_, List.mem_of_getElem? hcall, rfl⟩)
  obtain ⟨earlier, lane, hkept, hserving⟩ := h.serving w hserves
  have hentered := entered_tryEnqueue w c s.engine
  have htried := hserving.tried hkept c
  rw [Crowd.send]
  generalize (tryEnqueue w c).run s.engine = tried at hentered htried ⊢
  have hcarries (v : WorkerId) : Carries v (Keyed.under v ((tried.1.entry c.observation).toList.map (w, ·)))
      (Keyed.under v ([] : List (WorkerId × Handling))) s.engine tried.2 := by
    have hentered := hentered.carries v
    by_cases hv : w = v
    · subst hv
      rw [Keyed.under_map_self]
      rwa [if_pos rfl] at hentered
    · rw [Keyed.under_map_of_ne hv]
      rwa [if_neg hv] at hentered
  have hstaffed := h.carry (fun _ => hentered.agrees) hcarries (s.calls.set number (.ofAttempt w c tried.1))
  rw [List.append_nil] at hstaffed
  -- whether there is room or not, the call stays with the worker that it has found
  have hstage : (CallStage.ofAttempt w c tried.1).worker? = some w ∧
      (tried.1.entry c.observation).toList.map (w, ·) = (CallStage.ofAttempt w c tried.1).taken?.toList ∧
      ∀ result, CallStage.ofAttempt w c tried.1 ≠ .ended result := by
    rcases htried with hblocked | hentry
    · rw [hblocked]
      exact ⟨rfl, rfl, fun _ => CallStage.noConfusion⟩
    · rw [hentry, CallStage.ofAttempt_ofEntry, Progress.entry_ofEntry]
      exact ⟨rfl, rfl, fun _ => CallStage.noConfusion⟩
  obtain ⟨hworker, hentry, hheard⟩ := hstage
  refine h.advance hstaffed (.set hcall (fun _ hold => hworker.trans hold) rfl) hheard (fun other => ?_)
    (congrArg (s.accepted ++ ·) hentry)
  rw [WorkerId.serves_congr hentered.agrees.contains, hworker]
  exact (or_iff_left_of_imp fun hsame => Option.some.inj hsame ▸ hserves).symm

theorem work (h : s.Sound) (world : Surroundings σ) (w : WorkerId) : (s.step world (.work w)).Sound := by
  have hworked := worked_work world w false s.engine
  have hcarries (v : WorkerId) : Carries v (Keyed.under v ([] : List (WorkerId × Command)))
      (Keyed.under v ((s.engine.handling world w).toList.map (w, ·))) s.engine
      ((Engine.work world w).run s.engine).2 := by
    have hworked := hworked.carries v
    by_cases hv : w = v
    · subst hv
      rw [Keyed.under_map_self]
      rwa [if_pos rfl] at hworked
    · rw [Keyed.under_map_of_ne hv]
      rwa [if_neg hv] at hworked
  have hstaffed := h.carry (fun _ => hworked.agrees) hcarries s.calls
  rw [List.append_nil] at hstaffed
  exact ⟨hstaffed, h.heard, fun v => (h.found v).trans (WorkerId.serves_congr hworked.agrees.contains).symm, h.entries⟩

/-- A turn keeps what holds at any time. -/
theorem step (h : s.Sound) (world : Surroundings σ) (t : Turn σ) : (s.step world t).Sound := by
  cases t with
  | lookUp call => exact h.lookUp call
  | insert number =>
    rw [Crowd.step]
    split
    · next call hcall => exact h.insert hcall
    · exact h
  | send number =>
    rw [Crowd.step]
    split
    · next w c hcall => exact h.send hcall
    · exact h
  | work w => exact h.work world w
  | elsewhere timeline outside woken =>
    have hstaffed := h.aside (e := { s.engine with timeline, outside, woken }) rfl
      (fun _ => ⟨rfl, rfl, List.prefix_rfl⟩) s.calls
    exact ⟨hstaffed, h.heard, h.found, h.entries⟩

/-- A run keeps what holds at any time. -/
theorem run (h : s.Sound) (world : Surroundings σ) (turns : List (Turn σ)) : (s.run world turns).Sound := by
  induction turns generalizing s with
  | nil => exact h
  | cons t turns ih => exact ih (h.step world t)

theorem start {settings : RegistrySettings} (hpolicy : settings.policy = .register) (publishTimeout : Option Nat)
    (timeline : Timeline) (outside : σ) : (Crowd.start settings publishTimeout timeline outside).Sound := by
  have hnone (location : LocationId) : ¬({ settings } : Registry).contains location := by
    simp [Registry.contains, Registry.lane?]
  refine ⟨⟨hpolicy, rfl, fun _ => rfl, fun _ _ => rfl, ?_, ?_, ?_⟩, fun _ => List.not_mem_nil, ?_, .nil⟩
  · exact fun _ _ hmem => absurd hmem List.not_mem_nil
  · exact fun _ _ hmem => absurd hmem List.not_mem_nil
  · exact fun w hserves => absurd hserves.2 (hnone w.location)
  · exact fun w => iff_of_false List.not_mem_nil fun hserves => hnone w.location hserves.2

end Sound

/-- Whatever was taken in for a location was taken in by its first worker. -/
theorem Staffed.acceptedFor_eq {s : Crowd σ} (h : s.Staffed) (location : LocationId) :
    s.acceptedFor location = Keyed.under (.first location) s.accepted := by
  rw [acceptedFor, Keyed.under, Keyed.under, List.filterMap_map]
  refine List.filterMap_congr fun entry hentry => ?_
  obtain ⟨w, c⟩ := entry
  have hfirst := (h.accepted w c hentry).eq_first
  by_cases hlocation : w.location = location
  · subst hlocation
    simp [← hfirst]
  · have hne : w ≠ .first location := fun heq => hlocation (congrArg WorkerId.location heq)
    simp [hlocation, hne]

end Crowd

open Crowd in
/-- However the steps of the calls and of the workers are mixed, one worker is started for a location, when the first
call registers it. Whatever is taken in for the location is in the queue of this worker or has been taken from it, in
order. When the queue is empty, the evidence is what all of it says, and readers see it once it could be judged. -/
theorem first_observation (world : Surroundings σ) {settings : RegistrySettings}
    (hpolicy : settings.policy = .register) (publishTimeout : Option Nat) (timeline : Timeline) (outside : σ)
    (turns : List (Turn σ)) (location : LocationId) :
    let crowd := (start settings publishTimeout timeline outside).run world turns
    let accepted := crowd.acceptedFor location
    let handled := crowd.handledFor location
    crowd.started.count location ≤ 1 ∧
    (crowd.started.count location = 1 ↔ .first location ∈ crowd.workers) ∧
    (∀ w ∈ crowd.workers, w.location = location → w = .first location) ∧
    -- nobody is turned away, and what was taken in is what calls have brought into a queue
    (∀ result, .ended result ∉ crowd.calls) ∧
    (crowd.calls.filterMap CallStage.taken?).Perm crowd.accepted ∧
    (crowd.started.count location = 0 → accepted = []) ∧
    (crowd.started.count location = 1 → ∃ lane, crowd.engine.registry.lane? location = some lane ∧
      handled.map Handling.command ++ lane.queue = accepted ∧
      (lane.queue = [] →
        lane.worker.site.evidence = (accepted.map Command.observation).foldl Evidence.put {}) ∧
      ∀ k t, handled.getLast? = some k → k.thresholds = .ok t →
        crowd.engine.registry.shown location = .ok lane.worker.site) := by
  intro crowd accepted handled
  have hsound : crowd.Sound := (Sound.start hpolicy publishTimeout timeline outside).run world turns
  have honce : crowd.started.count location = if crowd.engine.registry.contains location then 1 else 0 :=
    congrArg WorkerId.number (hsound.once location)
  have haccepted : accepted = Keyed.under (.first location) crowd.accepted := hsound.acceptedFor_eq location
  refine ⟨?_, ?_, ?_, hsound.heard, hsound.entries, ?_, ?_⟩
  · rw [honce]
    split <;> omega
  · rw [honce, hsound.found, WorkerId.serves_first]
    split <;> simp_all
  · rintro w hw rfl
    exact ((hsound.found w).mp hw).eq_first
  · intro hnone
    rw [haccepted]
    refine (hsound.under_eq_nil fun hserves => ?_).1
    rw [if_pos (WorkerId.serves_first.mp hserves)] at honce
    omega
  · intro hone
    have hcontains : crowd.engine.registry.contains location := by
      by_contra hunknown
      rw [if_neg hunknown] at honce
      omega
    obtain ⟨earlier, lane, -, hserving⟩ := hsound.serving (.first location) (WorkerId.serves_first.mpr hcontains)
    have hlane : crowd.engine.registry.lane? location = some lane := by
      have hfound := hserving.found
      rwa [← hsound.latest_eq hcontains, Registry.laneOf?_of_employs (Registry.employs_latest hcontains)] at hfound
    have hworker : lane.worker = (Account.replay .empty handled).worker :=
      hserving.worker.trans (Account.worker_replay .empty handled).symm
    have hsite : lane.worker.site = (Account.replay .empty handled).site := congrArg Worker.site hworker
    have hqueue : handled.map Handling.command ++ lane.queue = accepted := by
      rw [haccepted, ← hserving.queue, List.append_nil]
      rfl
    refine ⟨lane, hlane, hqueue, ?_, ?_⟩
    · intro hempty
      rw [hempty, List.append_nil] at hqueue
      rw [hsite, Account.evidence_replay, ← hqueue, List.map_map]
      rfl
    · intro k t hlast hthresholds
      rw [Registry.shown, hlane, hsite, ← Account.shown_replay hlast hthresholds]
      exact congrArg (Except.ok ∘ Worker.shown) hworker

/-- Two calls look a location up before either of them registers it. The second to do so is the first to send. -/
def race : List (Turn Memory) :=
  [.lookUp ⟨7, verdict .clear, false⟩, .lookUp ⟨7, verdict .blocked, true⟩, .insert 0, .insert 1, .send 1, .send 0,
    .work ⟨7, 1⟩, .work ⟨7, 1⟩]

/-- Both are served by one worker, and what was sent last stays. -/
theorem first_observation_race :
    let crowd := (Crowd.start { policy := .register } none {} {}).run Memory.surroundings race
    crowd.started.count 7 = 1 ∧ ∃ lane, crowd.engine.registry.lane? 7 = some lane ∧
      lane.worker.site.evidence = { blockage := some ⟨.clear, .year2000⟩ } := by
  intro crowd
  have hpolicy : ({ policy := .register } : RegistrySettings).policy = .register := rfl
  obtain ⟨-, hone, -, -, -, -, hserved⟩ := first_observation Memory.surroundings hpolicy none {} {} race 7
  have hstarted : crowd.started.count 7 = 1 := hone.mpr (by decide)
  obtain ⟨lane, hlane, hqueue, hdrained, -⟩ := hserved hstarted
  have haccepted : crowd.acceptedFor 7 = [⟨verdict .blocked, some 0⟩, ⟨verdict .clear, none⟩] := rfl
  have hhandled : (crowd.handledFor 7).map Handling.command =
      [⟨verdict .blocked, some 0⟩, ⟨verdict .clear, none⟩] := rfl
  have hempty : lane.queue = [] := by
    have hlengths := congrArg List.length hqueue
    rw [List.length_append, hhandled, haccepted] at hlengths
    exact List.eq_nil_of_length_eq_zero (by simpa using hlengths)
  refine ⟨hstarted, lane, hlane, (hdrained hempty).trans ?_⟩
  rw [haccepted]
  rfl

end Waterway
