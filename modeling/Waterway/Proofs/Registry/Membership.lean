import Waterway.Proofs.Registry.Interleaving

/-!
# Who is registered

A location gets into the registry in two ways: somebody registers it, or somebody calls for it while the policy
registers what is not known. What workers do and what happens in queues makes no difference.

## Main definitions

- `Registry.Missing` — a location is not registered, and whoever asks for it is told so
- `Move.IsTraffic`, `Move.CallsFor` — a move that is neither a registration nor a shutdown; a call for a location

## Main statements

- `Registry.missing_iff` — whoever is not told so asks for a registered location
- `System.contains_step`, `System.contains_run` — who is registered after some traffic
-/

namespace Waterway

open Engine

variable {σ : Type}

namespace Registry

/-- A location that is looked for is registered if the policy says so. -/
theorem contains_resolve {r : Registry} {location other : LocationId} :
    (r.resolve location).2.contains other ↔
      r.contains other ∨ (r.settings.policy = .register ∧ location = other) := by
  cases hcontains : r.contains location with
  | true =>
    rw [resolve_of_contains hcontains]
    refine ⟨.inl, ?_⟩
    rintro (hknown | ⟨-, rfl⟩)
    · exact hknown
    · exact hcontains
  | false =>
    rw [resolve, hcontains]
    cases r.settings.policy with
    | ignore => simp
    | reject => simp
    | register =>
      simp only [Bool.false_eq_true, if_false, contains_insertOrReuse, Bool.or_eq_true, beq_iff_eq, true_and]
      exact or_comm.trans (or_congr_right eq_comm)

theorem mem_locations {r : Registry} {location : LocationId} : location ∈ r.locations ↔ r.contains location := by
  rw [locations, List.mem_mergeSort, List.mem_map, contains, lane?, Option.isSome_iff_exists]
  constructor
  · rintro ⟨⟨_, lane⟩, hmem, rfl⟩
    cases hlookup : r.lanes.lookup _ with
    | some found => exact ⟨found, rfl⟩
    | none => simpa using List.lookup_eq_none_iff.mp hlookup _ hmem
  · rintro ⟨lane, hlookup⟩
    obtain ⟨before, later, hsplit, -⟩ := List.lookup_eq_some_iff.mp hlookup
    exact ⟨(location, lane), by simp [hsplit], rfl⟩

/-- A location is not registered, and whoever asks for it is told so. -/
structure Missing (r : Registry) (location : LocationId) : Prop where
  contains : r.contains location = false
  unlisted : location ∉ r.locations
  devices : r.devices location = .error (.notRegistered location)
  analysis : r.analysis location = .error (.notRegistered location)
  judgement : r.judgement location = .error (.notRegistered location)

theorem missing_iff {r : Registry} {location : LocationId} : r.Missing location ↔ ¬r.contains location := by
  refine ⟨fun h => by simp [h.contains], fun h => ?_⟩
  have hlane : r.lane? location = none := by simpa [Registry.contains] using h
  have hshown : r.shown location = .error (.notRegistered location) := by rw [shown, hlane]
  refine ⟨by simpa using h, mt mem_locations.mp h, ?_, ?_, ?_⟩
  · rw [Registry.devices, hlane]
  · rw [Registry.analysis, hshown]
    rfl
  · rw [Registry.judgement, hshown]
    rfl

end Registry

namespace Engine

variable {w : WorkerId} {e after : Engine σ}

/-- A worker registers nobody. -/
theorem Worked.contains_eq {world : Surroundings σ} {lingers : Bool} (h : Worked world w lingers e after)
    (other : LocationId) : after.registry.contains other = e.registry.contains other := by
  cases h with
  | idle => rfl
  | ended | delivered | handled => exact Registry.contains_modifyLaneOf ..

/-- Who enters a queue registers nobody. -/
theorem Entered.contains_eq {c : Command} {p : Progress} (h : Entered w c e p after) (other : LocationId) :
    after.registry.contains other = e.registry.contains other := by
  cases h with
  | blocked | refused => rfl
  | entered => exact Registry.contains_modifyLaneOf ..

theorem Begun.contains_eq {call : Call} {p : Progress} (h : Begun call e p after) (other : LocationId) :
    after.registry.contains other = (e.registry.resolve call.location).2.contains other := by
  cases h with
  | ended hnone => rw [(Registry.resolve_of_found?_eq_none hnone).2.1]
  | entered hfound hentered => exact hentered.contains_eq other

/-- A call registers its location if the policy says so, and no other. -/
theorem contains_begin (call : Call) (e : Engine σ) (other : LocationId) :
    ((begin call).run e).2.registry.contains other ↔
      e.registry.contains other ∨ (e.registry.settings.policy = .register ∧ call.location = other) := by
  rw [← Registry.contains_resolve, ← Bool.eq_iff_iff]
  exact (begun_begin call e).contains_eq other

end Engine

/-- Whether a move is neither a registration nor a shutdown. -/
def Move.IsTraffic : Move σ → Prop
  | .register .. | .shutdown => False
  | _ => True

/-- Whether a move calls for a location. -/
def Move.CallsFor (location : LocationId) : Move σ → Prop
  | .call c => c.location = location
  | _ => False

namespace System

variable {s : System σ} {location : LocationId} {m : Move σ}

/-- A location is registered by traffic if it is called for and the policy registers what is not known. -/
theorem contains_step (world : Surroundings σ) (hm : m.IsTraffic) :
    (s.step world m).engine.registry.contains location ↔
      s.engine.registry.contains location ∨
        (s.engine.registry.settings.policy = .register ∧ m.CallsFor location) := by
  cases m with
  | call c => exact contains_begin c s.engine location
  | retry number =>
    simp only [Move.CallsFor, and_false, or_false]
    cases hcall : s.calls[number]? with
    | none => simp only [step, hcall]
    | some p =>
      cases p with
      | ended result => rw [step_retry world hcall rfl]
      | pending w ticket => rw [step_retry world hcall rfl]
      | blocked w c =>
        rw [step_retry_blocked world hcall]
        exact Bool.eq_iff_iff.mp ((entered_tryEnqueue w c s.engine).contains_eq location)
  | work w lingers =>
    simp only [Move.CallsFor, and_false, or_false]
    exact Bool.eq_iff_iff.mp ((worked_work world w lingers s.engine).contains_eq location)
  | register => exact hm.elim
  | shutdown => exact hm.elim
  | elsewhere => exact (or_iff_left fun h => h.2).symm

theorem settings_step (world : Surroundings σ) (s : System σ) (m : Move σ) :
    (s.step world m).engine.registry.settings = s.engine.registry.settings := by
  -- the settings are among what no operation on a location changes
  have hterms {after : Engine σ} (h : after.terms = s.engine.terms) :
      after.registry.settings = s.engine.registry.settings := congrArg Prod.fst h
  cases m with
  | call c => exact hterms (begun_begin c s.engine).terms_eq
  | retry number =>
    cases hcall : s.calls[number]? with
    | none => simp only [step, hcall]
    | some p =>
      cases p with
      | ended result => rw [step_retry world hcall rfl]
      | pending w ticket => rw [step_retry world hcall rfl]
      | blocked w c =>
        rw [step_retry_blocked world hcall]
        exact hterms (entered_tryEnqueue w c s.engine).terms_eq
  | work w lingers => exact hterms (worked_work world w lingers s.engine).terms_eq
  | register devices site =>
    obtain ⟨woken, hrun⟩ := run_register devices site s.engine
    rw [step, hrun]
    rfl
  | shutdown =>
    obtain ⟨woken, hrun⟩ := run_shutdown s.engine
    rw [step, hrun]
    rfl
  | elsewhere => rfl

theorem settings_run (world : Surroundings σ) (s : System σ) (moves : List (Move σ)) :
    (s.run world moves).engine.registry.settings = s.engine.registry.settings := by
  induction moves generalizing s with
  | nil => rfl
  | cons m moves ih => exact (ih (s.step world m)).trans (settings_step world s m)

theorem contains_run (world : Surroundings σ) {moves : List (Move σ)} (hmoves : ∀ m ∈ moves, m.IsTraffic) :
    (s.run world moves).engine.registry.contains location ↔
      s.engine.registry.contains location ∨
        (s.engine.registry.settings.policy = .register ∧ ∃ m ∈ moves, m.CallsFor location) := by
  induction moves generalizing s with
  | nil => simp [run]
  | cons m moves ih =>
    obtain ⟨hm, hrest⟩ := List.forall_mem_cons.mp hmoves
    have hrun := ih (s := s.step world m) hrest
    rw [contains_step world hm, settings_step] at hrun
    simp only [List.mem_cons, exists_eq_or_imp, and_or_left]
    exact hrun.trans or_assoc

end System

end Waterway
