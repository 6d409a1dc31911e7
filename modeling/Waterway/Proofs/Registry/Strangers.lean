import Waterway.Proofs.Registry.Membership
import Waterway.Proofs.Registry.Scheduling
import Waterway.Registry.Memory

/-!
# Observations of unknown locations

What becomes of an observation whose location is not registered is up to the policy. If the policy registers what is not
known, the call goes as if the location had been registered just before it, with no devices and with nothing known of
it. Otherwise nothing comes of the call but its result.

## Main definitions

- `Engine.Lists` — which settings an engine has, and who is registered
- `Engine.handIn` — an observation is handed in, with or without waiting for its outcome

## Main statements

- `Engine.run_resolve_register` — to register on demand is to register beforehand
- `Engine.locations_handIn` — calls register nobody unless the policy says so
- `unknown_exact` — what becomes of a call for an unknown location
-/

namespace Waterway

open Engine

variable {σ : Type}

namespace Registry

theorem locations_modifyLaneOf (r : Registry) (w : WorkerId) (f : Lane → Lane) :
    (r.modifyLaneOf w f).locations = r.locations := by
  rw [modifyLaneOf]
  split
  · rw [locations, modifyLane, Keyed.map_fst_update, locations]
  · rfl

end Registry

namespace Engine

variable {world : Surroundings σ} {location : LocationId} {e : Engine σ} {α β : Type} {holds : Engine σ → Prop}

theorem Keeps.mapM {action : α → StateM (Engine σ) β} (haction : ∀ a, Keeps holds (action a)) (xs : List α) :
    Keeps holds (xs.mapM action) := by
  induction xs with
  | nil => exact .pure []
  | cons a xs ih =>
    rw [List.mapM_cons]
    exact .bind (haction a) fun _ => .bind ih fun _ => .pure _

/-! ## Who is registered -/

/-- An engine that has certain settings and certain locations registered. -/
def Lists (settings : RegistrySettings) (locations : List LocationId) (e : Engine σ) : Prop :=
  e.registry.settings = settings ∧ e.registry.locations = locations

/-- Workers register nobody. -/
theorem steady_lists (world : Surroundings σ) (settings : RegistrySettings) (locations : List LocationId) :
    Steady world (Lists settings locations) where
  work := by
    rintro w e ⟨rfl, rfl⟩
    have hworked := worked_work world w false e
    refine ⟨congrArg Prod.fst hworked.terms_eq, ?_⟩
    generalize ((work world w).run e).2 = after at hworked
    cases hworked with
    | idle => rfl
    | ended | delivered | handled => exact Registry.locations_modifyLaneOf ..
  elsewhere := fun _ _ _ h => h

theorem keeps_lists_enqueue (settings : RegistrySettings) (locations : List LocationId) (w : WorkerId)
    (c : Command) : Keeps (Lists settings locations) (enqueue w c : StateM (Engine σ) _) := by
  rintro e ⟨rfl, rfl⟩
  rcases run_enqueue w c e with ⟨_, _, -, -, hrun⟩ | ⟨-, hrun⟩
  · rw [hrun]
    refine ⟨?_, Registry.locations_modifyLaneOf ..⟩
    exact congrArg Prod.fst (e.terms_modifyLaneOf w _)
  · rw [hrun]
    exact ⟨rfl, rfl⟩

/-- Who asks for a location registers it only if the policy says so. -/
theorem keeps_lists_resolve {settings : RegistrySettings} (hpolicy : settings.policy ≠ .register)
    (locations : List LocationId) (location : LocationId) :
    Keeps (Lists settings locations) (resolve location : StateM (Engine σ) _) := by
  rintro e ⟨rfl, rfl⟩
  cases hcontains : e.registry.contains location with
  | true =>
    rw [run_resolve_of_contains hcontains]
    exact ⟨rfl, rfl⟩
  | false =>
    rw [run_resolve_of_found?_eq_none (Registry.found?_of_policy_ne hcontains hpolicy)]
    exact ⟨rfl, rfl⟩

/-- An observation is handed in, with or without waiting for its outcome. -/
def handIn (world : Surroundings σ) (call : Call) : StateM (Engine σ) (Except EngineError (Option Judgement)) := do
  if call.waits then return (← apply world call.location call.observation).map some
  else return (← update world call.location call.observation).map fun _ => none

/-- Calls register nobody unless the policy says so. -/
theorem locations_handIn (hpolicy : e.registry.settings.policy ≠ .register) (calls : List Call) :
    ((calls.mapM (handIn world)).run e).2.registry.locations = e.registry.locations := by
  have hsteady := steady_lists world e.registry.settings e.registry.locations
  have hresolve := keeps_lists_resolve (σ := σ) hpolicy e.registry.locations
  have henqueue := keeps_lists_enqueue (σ := σ) e.registry.settings e.registry.locations
  have hcall (call : Call) : Keeps (Lists e.registry.settings e.registry.locations) (handIn world call) := by
    rw [handIn]
    split
    · exact .bind (hsteady.apply_of_keeps (hresolve _) henqueue (fun _ h => h) _) fun _ => .pure _
    · exact .bind (hsteady.update_of_keeps (hresolve _) henqueue _) fun _ => .pure _
  exact (Keeps.mapM hcall calls e ⟨rfl, rfl⟩).2

/-! ## A call for a location that is not registered -/

/-- Two engines in which an action goes in one way differ no more. -/
theorem run_bind_congr {action : StateM (Engine σ) α} {e' : Engine σ} (h : action.run e = action.run e')
    {next : α → StateM (Engine σ) β} : (action >>= next).run e = (action >>= next).run e' := by
  rw [StateT.run_bind, StateT.run_bind, h]

/-- To register on demand is to register beforehand. -/
theorem run_resolve_register (hunknown : e.registry.contains location = false)
    (hpolicy : e.registry.settings.policy = .register) :
    (resolve location).run e =
      (resolve location).run ((register (.unmapped location) .empty).run e).2 := by
  have hnew : e.registry.insertOrReuse location = e.registry.register (.unmapped location) .empty := by
    rw [Registry.insertOrReuse, hunknown]
    rfl
  have hfound : e.registry.found? location =
      some ((e.registry.register (.unmapped location) .empty).latest location) := by
    simp [Registry.found?, Registry.resolve, hunknown, hpolicy, hnew]
  have hregister : (register (.unmapped location) .empty).run e =
      (wake ((e.registry.register (.unmapped location) .empty).latest location)).run
        { e with registry := e.registry.register (.unmapped location) .empty } := by
    simp [register, Devices.unmapped, hunknown, run_onRegistry]
    rfl
  have hcontains : (e.registry.register (.unmapped location) .empty).contains location := by
    rw [Registry.contains_register, Devices.unmapped, beq_self_eq_true, Bool.true_or]
  obtain ⟨woken, hwake⟩ := run_wake ((e.registry.register (.unmapped location) .empty).latest location)
    { e with registry := e.registry.register (.unmapped location) .empty }
  rw [run_resolve_of_found? hunknown hfound, hnew, hregister, hwake, run_resolve_of_contains hcontains]

end Engine

/-- What becomes of a call for a location that is not registered. If the policy does not register it, an observation is
dropped or refused, as the policy says, and a caller who waits for the outcome is always refused; the engine stays as it
is. If the policy registers it, the call has the same result and leaves the same engine as if the location had been
registered before, with no devices and with nothing known of it; so it does when others are at work in between. Unless
the policy registers what is not known, no sequence of calls changes who is registered, not even when others are at work
in between. -/
theorem unknown_exact (world : Surroundings σ) (s : System σ) {location : LocationId}
    (hunknown : s.engine.registry.contains location = false) (o : Observation Float) :
    let e := s.engine
    let policy := e.registry.settings.policy
    let registered := ((register (.unmapped location) .empty).run e).2
    (policy ≠ .register →
      (update world location o).run e =
        (if policy = .ignore then .ok () else .error (.unknownLocation location), e) ∧
      (apply world location o).run e = (.error (.unknownLocation location), e)) ∧
    (policy = .register →
      (update world location o).run e = (update world location o).run registered ∧
      (apply world location o).run e = (apply world location o).run registered ∧
      ∀ waits, s.step world (.call ⟨location, o, waits⟩) =
        (s.step world (.register (.unmapped location) .empty)).step world (.call ⟨location, o, waits⟩)) ∧
    (policy ≠ .register →
      (∀ calls : List Call, ((calls.mapM (handIn world)).run e).2.registry.locations = e.registry.locations) ∧
      ∀ moves : List (Move σ), (∀ m ∈ moves, m.IsTraffic) → ∀ other,
        (s.run world moves).engine.registry.contains other ↔ e.registry.contains other) := by
  intro e policy registered
  refine ⟨fun hpolicy => ?_, fun hpolicy => ?_, fun hpolicy => ⟨locations_handIn hpolicy, fun moves hmoves other => ?_⟩⟩
  · have hresolve : (resolve location).run e =
        (if policy = .ignore then .ok none else .error (.unknownLocation location), e) := by
      rw [run_resolve_of_found?_eq_none (Registry.found?_of_policy_ne hunknown hpolicy), Registry.resolve, hunknown]
      cases hchosen : e.registry.settings.policy with
      | ignore => simp [policy, e, hchosen]
      | reject => simp [policy, e, hchosen]
      | register => exact absurd hchosen hpolicy
    constructor
    · rw [update, StateT.run_bind, hresolve]
      by_cases hignore : policy = .ignore <;> simp only [hignore, if_true, if_false] <;> rfl
    · rw [apply, StateT.run_bind, hresolve]
      by_cases hignore : policy = .ignore <;> simp only [hignore, if_true, if_false] <;> rfl
  · have hresolve := run_resolve_register hunknown hpolicy
    refine ⟨run_bind_congr hresolve, run_bind_congr hresolve, fun waits => ?_⟩
    have hbegin : (begin ⟨location, o, waits⟩).run e = (begin ⟨location, o, waits⟩).run registered :=
      run_bind_congr hresolve
    show System.mk ((begin ⟨location, o, waits⟩).run e).2 (s.calls ++ [((begin ⟨location, o, waits⟩).run e).1]) = _
    rw [hbegin]
    rfl
  · rw [System.contains_run world hmoves]
    exact or_iff_left fun h => hpolicy h.1

/-- Nobody is registered, and there are no thresholds. -/
def deserted (policy : UnknownPolicy) : System Memory :=
  .start { policy } none {} { supply := { provision := ⟨.error Provision.settingNotFound, none⟩ } }

/-- Nobody gets a judgement: one caller is told nothing, one that the location is not known, and one that there are no
thresholds, as it would have been told of a location that was registered. -/
theorem unknown_exact_deserted :
    let o : Observation Float := .blockage ⟨.blocked, .year2000⟩
    let registered := ((register (.unmapped 7) .empty).run (deserted .register).engine).2
    (deserted .ignore).engine.registry.contains 7 = false ∧
      ((update Memory.surroundings 7 o).run (deserted .ignore).engine).1 = .ok () ∧
      ((apply Memory.surroundings 7 o).run (deserted .reject).engine).1 = .error (.unknownLocation 7) ∧
      (apply Memory.surroundings 7 o).run (deserted .register).engine =
        (apply Memory.surroundings 7 o).run registered ∧
      ((apply Memory.surroundings 7 o).run registered).1 = .error Provision.settingNotFound := by
  intro o registered
  have hunknown (policy : UnknownPolicy) : (deserted policy).engine.registry.contains 7 = false := rfl
  obtain ⟨hignored, -⟩ := unknown_exact Memory.surroundings _ (hunknown .ignore) o
  obtain ⟨hrejected, -⟩ := unknown_exact Memory.surroundings _ (hunknown .reject) o
  obtain ⟨-, hregistered, -⟩ := unknown_exact Memory.surroundings _ (hunknown .register) o
  obtain ⟨hupdate, -⟩ := hignored nofun
  obtain ⟨-, happly⟩ := hrejected nofun
  exact ⟨rfl, congrArg Prod.fst hupdate, congrArg Prod.fst happly, (hregistered rfl).2.1, rfl⟩

end Waterway
