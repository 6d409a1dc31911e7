import Mathlib.Data.List.Nodup
import Waterway.Proofs.Keyed
import Waterway.Registry.Basic

/-!
# Workers and their lanes

A lane can be looked up by its location, as long as its worker is the present one, and at any time by its worker. What
the operations of the registry do is said for both.

## Main definitions

- `Registry.found?` — the worker that an observation of a location is brought to
- `Registry.IsKeyed` — no location and no worker has two lanes, and who has left is not the present worker

## Main statements

- `Registry.lane?_modifyLaneOf`, `Registry.laneOf?_modifyLaneOf` — a change reaches the lane of its worker and no other
- `Registry.lane?_register`, `Registry.laneOf?_register` — who is replaced keeps its lane, and is told to stop
- `Registry.laneOf?_shutdown` — so do all workers at the end
- `Registry.IsKeyed.register`, `Registry.IsKeyed.shutdown` — lanes stay apart
-/

namespace Waterway.Registry

variable {r : Registry} {location other : LocationId} {w : WorkerId} {f : Lane → Lane}

theorem employs_iff : r.employs w ↔ r.contains w.location ∧ w = r.latest w.location := by
  simp [employs]

theorem contains_of_lane? {l : Lane} (h : r.lane? location = some l) : r.contains location := by
  rw [contains, h, Option.isSome_some]

theorem employs_latest (h : r.contains location) : r.employs (r.latest location) :=
  employs_iff.mpr ⟨h, rfl⟩

theorem laneOf?_of_employs (h : r.employs w) : r.laneOf? w = r.lane? w.location :=
  if_pos h

theorem laneOf?_of_not_employs (h : ¬r.employs w) : r.laneOf? w = r.former.lookup w :=
  if_neg h

theorem laneOf?_latest {l : Lane} (h : r.lane? location = some l) : r.laneOf? (r.latest location) = some l :=
  (laneOf?_of_employs (employs_latest (contains_of_lane? h))).trans h

theorem latest_injective (r : Registry) : r.latest.Injective := by
  intro location other h
  exact congrArg WorkerId.location h

/-! ## Changes of a lane -/

theorem lane?_modifyLane (r : Registry) (location other : LocationId) (f : Lane → Lane) :
    (r.modifyLane location f).lane? other =
      if other = location then (r.lane? other).map f else r.lane? other :=
  Keyed.lookup_update location other f r.lanes

theorem modifyLaneOf_of_employs (h : r.employs w) (f : Lane → Lane) :
    r.modifyLaneOf w f = r.modifyLane w.location f :=
  if_pos h

theorem modifyLaneOf_of_not_employs (h : ¬r.employs w) (f : Lane → Lane) :
    r.modifyLaneOf w f = { r with former := Keyed.update w f r.former } :=
  if_neg h

/-- A change of a lane is a change of the lanes alone. -/
theorem exists_modifyLaneOf_eq (r : Registry) (w : WorkerId) (f : Lane → Lane) :
    ∃ lanes former, r.modifyLaneOf w f = { r with lanes, former } := by
  rw [modifyLaneOf]
  split
  · exact ⟨_, r.former, rfl⟩
  · exact ⟨r.lanes, _, rfl⟩

@[simp]
theorem latest_modifyLaneOf (r : Registry) (w : WorkerId) (f : Lane → Lane) (location : LocationId) :
    (r.modifyLaneOf w f).latest location = r.latest location := by
  obtain ⟨lanes, former, h⟩ := r.exists_modifyLaneOf_eq w f
  rw [h]
  rfl

/-- A change reaches the lane of its worker and no other. -/
theorem lane?_modifyLaneOf (r : Registry) (w : WorkerId) (f : Lane → Lane) (location : LocationId) :
    (r.modifyLaneOf w f).lane? location =
      if r.employs w ∧ location = w.location then (r.lane? location).map f else r.lane? location := by
  by_cases h : r.employs w
  · rw [modifyLaneOf_of_employs h, lane?_modifyLane]
    simp only [h, true_and]
  · rw [modifyLaneOf_of_not_employs h, if_neg fun hboth => h hboth.1]
    rfl

@[simp]
theorem contains_modifyLaneOf (r : Registry) (w : WorkerId) (f : Lane → Lane) (location : LocationId) :
    (r.modifyLaneOf w f).contains location = r.contains location := by
  rw [contains, contains, lane?_modifyLaneOf]
  split
  · exact Option.isSome_map
  · rfl

@[simp]
theorem employs_modifyLaneOf (r : Registry) (w : WorkerId) (f : Lane → Lane) (v : WorkerId) :
    (r.modifyLaneOf w f).employs v = r.employs v := by
  rw [employs, employs, contains_modifyLaneOf, latest_modifyLaneOf]

theorem laneOf?_modifyLaneOf (r : Registry) (w v : WorkerId) (f : Lane → Lane) :
    (r.modifyLaneOf w f).laneOf? v = if v = w then (r.laneOf? v).map f else r.laneOf? v := by
  rw [laneOf?, employs_modifyLaneOf, laneOf?]
  by_cases hv : r.employs v
  · rw [if_pos hv, if_pos hv, lane?_modifyLaneOf]
    by_cases h : v = w
    · subst h
      rw [if_pos ⟨hv, rfl⟩, if_pos rfl]
    · -- no location has two present workers
      rw [if_neg h, if_neg]
      rintro ⟨hw, hlocation⟩
      rw [(employs_iff.mp hv).2, (employs_iff.mp hw).2, hlocation] at h
      exact h rfl
  · rw [if_neg hv, if_neg hv]
    by_cases hw : r.employs w
    · rw [modifyLaneOf_of_employs hw, if_neg]
      · rfl
      · rintro rfl
        exact hv hw
    · rw [modifyLaneOf_of_not_employs hw]
      exact Keyed.lookup_update w v f r.former

theorem modifyLaneOf_id (r : Registry) (w : WorkerId) : r.modifyLaneOf w id = r := by
  rw [modifyLaneOf, modifyLane, Keyed.update_id, Keyed.update_id, ite_self]

theorem modifyLaneOf_modifyLaneOf (r : Registry) (w : WorkerId) (f g : Lane → Lane) :
    (r.modifyLaneOf w f).modifyLaneOf w g = r.modifyLaneOf w (g ∘ f) := by
  by_cases h : r.employs w
  · rw [modifyLaneOf_of_employs ((employs_modifyLaneOf r w f w).trans h), modifyLaneOf_of_employs h,
      modifyLaneOf_of_employs h, modifyLane, modifyLane, modifyLane, Keyed.update_update]
  · have h' : ¬(r.modifyLaneOf w f).employs w := by rwa [employs_modifyLaneOf]
    rw [modifyLaneOf_of_not_employs h', modifyLaneOf_of_not_employs h, modifyLaneOf_of_not_employs h,
      Keyed.update_update]

/-! ## All lanes -/

/-- Among the lanes of the locations a worker has its lane if it is the present one. -/
theorem lookup_lanes (r : Registry) (w : WorkerId) (f : Lane → Lane) :
    (r.lanes.map fun e => (r.latest e.1, f e.2)).lookup w =
      if r.employs w then (r.lane? w.location).map f else none := by
  by_cases h : r.employs w
  · obtain ⟨-, hw⟩ := employs_iff.mp h
    rw [if_pos h]
    calc (r.lanes.map fun e => (r.latest e.1, f e.2)).lookup w
      _ = (r.lanes.map fun e => (r.latest e.1, f e.2)).lookup (r.latest w.location) := by rw [← hw]
      _ = (r.lane? w.location).map f := Keyed.lookup_map r.latest_injective f w.location r.lanes
  · rw [if_neg h, List.lookup_eq_none_iff]
    intro _ hmem
    obtain ⟨⟨location, l⟩, hlane, rfl⟩ := List.mem_map.mp hmem
    have hcontains : r.contains location := by
      by_contra hnone
      rw [contains, Option.not_isSome_iff_eq_none] at hnone
      exact absurd (List.lookup_eq_none_iff.mp hnone _ hlane) (by simp)
    have hne : w ≠ r.latest location := fun hw => h (hw ▸ employs_latest hcontains)
    simpa using hne

/-- A worker is looked up among those of the locations and among those that have left. -/
theorem laneOf?_eq_lookup (r : Registry) (w : WorkerId) : r.laneOf? w = r.staff.lookup w := by
  have hpresent := r.lookup_lanes w id
  rw [staff, List.lookup_append]
  refine Eq.trans ?_ (congrArg (Option.or · _) hpresent.symm)
  by_cases h : r.employs w
  · obtain ⟨l, hlane⟩ := Option.isSome_iff_exists.mp (employs_iff.mp h).1
    rw [laneOf?_of_employs h, if_pos h, hlane, Option.map_some, Option.some_or]
    rfl
  · rw [laneOf?_of_not_employs h, if_neg h, Option.none_or]

/-- No location and no worker has two lanes, and who has left is not the present worker. -/
structure IsKeyed (r : Registry) : Prop where
  lanes : (r.lanes.map Prod.fst).Nodup
  former : (r.former.map Prod.fst).Nodup
  started : ∀ w ∈ r.former.map Prod.fst, w.number ≤ r.started.count w.location
  left : ∀ w ∈ r.former.map Prod.fst, ¬r.employs w

namespace IsKeyed

theorem empty (settings : RegistrySettings) : ({ settings } : Registry).IsKeyed :=
  ⟨List.nodup_nil, List.nodup_nil, nofun, nofun⟩

theorem staff (h : r.IsKeyed) : (r.staff.map Prod.fst).Nodup := by
  have hnames : r.staff.map Prod.fst = (r.lanes.map Prod.fst).map r.latest ++ r.former.map Prod.fst := by
    simp [Registry.staff]
  rw [hnames, List.nodup_append]
  refine ⟨List.Nodup.map r.latest_injective h.lanes, h.former, ?_⟩
  rintro _ hpresent w hw rfl
  obtain ⟨location, hlocation, rfl⟩ := List.mem_map.mp hpresent
  obtain ⟨⟨_, l⟩, hmem, rfl⟩ := List.mem_map.mp hlocation
  have hlane : r.lane? _ = some l := Keyed.lookup_of_mem h.lanes hmem
  exact h.left _ hw (employs_latest (contains_of_lane? hlane))

theorem staff_modifyLaneOf (h : r.IsKeyed) (w : WorkerId) (f : Lane → Lane) :
    (r.modifyLaneOf w f).staff = Keyed.update w f r.staff := by
  by_cases hw : r.employs w
  · have habsent : Keyed.update w f r.former = r.former := by
      refine (List.map_congr_left fun e he => ?_).trans (List.map_id' _)
      have hne : e.1 ≠ w := fun heq => h.left e.1 (List.mem_map_of_mem he) (heq ▸ hw)
      simp [hne]
    have hpresent (e : LocationId × Lane) : (e.1 == w.location) = (r.latest e.1 == w) := by
      have hiff : e.1 = w.location ↔ r.latest e.1 = w := by
        rw [(employs_iff.mp hw).2]
        exact r.latest_injective.eq_iff.symm
      rw [Bool.eq_iff_iff]
      simpa using hiff
    have hsplit : Keyed.update w f r.staff = Keyed.update w f (r.lanes.map fun e => (r.latest e.1, e.2)) ++ r.former :=
      List.map_append.trans (congrArg (_ ++ ·) habsent)
    rw [modifyLaneOf_of_employs hw, hsplit]
    refine congrArg (· ++ r.former) ?_
    simp only [modifyLane, Keyed.update, List.map_map]
    refine List.map_congr_left fun e _ => ?_
    simp only [Function.comp_apply, ← hpresent]
    split <;> rfl
  · rw [modifyLaneOf_of_not_employs hw, Registry.staff, Registry.staff, Keyed.update, Keyed.update, List.map_append]
    refine congrArg (· ++ _) ?_
    have hsame : ∀ e ∈ r.lanes.map fun e => (r.latest e.1, e.2),
        (if e.1 == w then (e.1, f e.2) else (e.1, e.2)) = e := by
      rintro _ he
      obtain ⟨⟨location, l⟩, hmem, rfl⟩ := List.mem_map.mp he
      have hlane : r.lane? location = some l := Keyed.lookup_of_mem h.lanes hmem
      have hne : r.latest location ≠ w := fun heq => hw (heq ▸ employs_latest (contains_of_lane? hlane))
      simp [hne]
    exact ((List.map_congr_left hsame).trans (List.map_id' _)).symm

theorem modifyLaneOf (h : r.IsKeyed) (w : WorkerId) (f : Lane → Lane) : (r.modifyLaneOf w f).IsKeyed := by
  by_cases hw : r.employs w
  · have hemploys := r.employs_modifyLaneOf w f
    rw [modifyLaneOf_of_employs hw] at hemploys ⊢
    refine ⟨?_, h.former, h.started, fun v hv => ?_⟩
    · rw [modifyLane, Keyed.map_fst_update]
      exact h.lanes
    · rw [hemploys]
      exact h.left v hv
  · have hemploys := r.employs_modifyLaneOf w f
    rw [modifyLaneOf_of_not_employs hw] at hemploys ⊢
    have hnames := Keyed.map_fst_update w f r.former
    refine ⟨h.lanes, ?_, fun v hv => ?_, fun v hv => ?_⟩
    · rw [hnames]
      exact h.former
    · rw [hnames] at hv
      exact h.started v hv
    · rw [hnames] at hv
      rw [hemploys]
      exact h.left v hv

end IsKeyed

/-! ## A location is registered -/

theorem lane?_register (r : Registry) (devices : Devices) (site : Site Float) (location : LocationId) :
    (r.register devices site).lane? location =
      if location = devices.location then some (r.newLane devices site) else r.lane? location := by
  by_cases h : location = devices.location
  · simp [register, lane?, h]
  · simp [register, lane?, h, Keyed.lookup_put_of_ne h]

theorem contains_register (r : Registry) (devices : Devices) (site : Site Float) (location : LocationId) :
    (r.register devices site).contains location = (location == devices.location || r.contains location) := by
  rw [contains, lane?_register, contains]
  by_cases h : location = devices.location <;> simp [h]

theorem latest_register (r : Registry) (devices : Devices) (site : Site Float) (location : LocationId) :
    (r.register devices site).latest location =
      if location = devices.location then ⟨location, r.started.count location + 1⟩ else r.latest location := by
  by_cases h : location = devices.location
  · subst h
    simp [latest, register, List.count_append]
  · simp [latest, register, List.count_append, h, Ne.symm h]

theorem employs_register (r : Registry) (devices : Devices) (site : Site Float) (w : WorkerId) :
    (r.register devices site).employs w ↔
      if w.location = devices.location then w.number = r.started.count w.location + 1 else r.employs w := by
  rw [employs_iff, contains_register, latest_register]
  by_cases h : w.location = devices.location
  · obtain ⟨location, number⟩ := w
    obtain rfl : location = devices.location := h
    simp
  · simp [h, employs_iff]

/-- Who is replaced has left. -/
theorem lookup_former_register (r : Registry) (devices : Devices) (site : Site Float) (w : WorkerId) :
    (r.register devices site).former.lookup w = (r.former.lookup w).or
      (if w.location = devices.location ∧ r.employs w then
        (r.lane? w.location).map fun l => { l with isCancelled := true } else none) := by
  show (r.former ++ _).lookup w = _
  rw [List.lookup_append]
  congr 1
  cases hlane : r.lane? devices.location with
  | none =>
    rw [if_neg]
    · rfl
    · rintro ⟨hlocation, hemploys⟩
      simpa [contains, hlocation, hlane] using (employs_iff.mp hemploys).1
  | some l =>
    have hiff : w = r.latest devices.location ↔ w.location = devices.location ∧ r.employs w := by
      constructor
      · rintro rfl
        exact ⟨rfl, employs_latest (contains_of_lane? hlane)⟩
      · rintro ⟨hlocation, hemploys⟩
        rw [(employs_iff.mp hemploys).2, hlocation]
    by_cases hw : w = r.latest devices.location
    · rw [if_pos (hiff.mp hw), (hiff.mp hw).1, hlane, hw]
      simp [leave]
    · rw [if_neg (mt hiff.mpr hw)]
      simp [leave, List.lookup_cons, beq_false_of_ne hw]

theorem IsKeyed.lookup_former (h : r.IsKeyed) (hemploys : r.employs w) : r.former.lookup w = none := by
  rw [List.lookup_eq_none_iff]
  rintro ⟨v, l⟩ hmem
  have hne : w ≠ v := by
    rintro rfl
    exact h.left w (List.mem_map_of_mem hmem) hemploys
  simpa using hne

/-- What is registered in another place makes no difference to a worker. -/
theorem laneOf?_register_of_ne {devices : Devices} (h : w.location ≠ devices.location) (site : Site Float) :
    (r.register devices site).laneOf? w = r.laneOf? w := by
  have hemploys := r.employs_register devices site w
  rw [if_neg h] at hemploys
  by_cases hpresent : r.employs w
  · rw [laneOf?_of_employs (hemploys.mpr hpresent), laneOf?_of_employs hpresent, lane?_register, if_neg h]
  · rw [laneOf?_of_not_employs (mt hemploys.mp hpresent), laneOf?_of_not_employs hpresent, lookup_former_register,
      if_neg fun hboth => h hboth.1, Option.or_none]

/-- Who is replaced keeps its lane, and is told to stop. -/
theorem laneOf?_register (hr : r.IsKeyed) (devices : Devices) (site : Site Float) (w : WorkerId) :
    (r.register devices site).laneOf? w =
      if w = (r.register devices site).latest devices.location then some (r.newLane devices site)
      else (r.laneOf? w).map fun l =>
        if w.location = devices.location ∧ r.employs w then { l with isCancelled := true } else l := by
  have hnew : w = (r.register devices site).latest devices.location ↔
      w.location = devices.location ∧ w.number = r.started.count w.location + 1 := by
    obtain ⟨location, number⟩ := w
    rw [latest_register, if_pos rfl, WorkerId.mk.injEq]
    refine and_congr_right fun hlocation => ?_
    rw [hlocation]
  have hemploys := r.employs_register devices site w
  by_cases hlocation : w.location = devices.location
  · rw [if_pos hlocation] at hemploys
    by_cases hnumber : w.number = r.started.count w.location + 1
    · rw [laneOf?_of_employs (hemploys.mpr hnumber), lane?_register, if_pos hlocation,
        if_pos (hnew.mpr ⟨hlocation, hnumber⟩)]
    · rw [laneOf?_of_not_employs (mt hemploys.mp hnumber), lookup_former_register,
        if_neg fun heq => hnumber (hnew.mp heq).2]
      by_cases hpresent : r.employs w
      · rw [if_pos ⟨hlocation, hpresent⟩, hr.lookup_former hpresent, laneOf?_of_employs hpresent]
        simp [hlocation, hpresent]
      · rw [if_neg fun h => hpresent h.2, laneOf?_of_not_employs hpresent]
        simp [hpresent]
  · rw [laneOf?_register_of_ne hlocation, if_neg fun heq => hlocation (hnew.mp heq).1]
    simp [hlocation]

theorem IsKeyed.register (h : r.IsKeyed) (devices : Devices) (site : Site Float) :
    (r.register devices site).IsKeyed := by
  -- whoever has left now had left before, or was the present worker
  have hformer (w : WorkerId) (hw : w ∈ (r.register devices site).former.map Prod.fst) :
      w ∈ r.former.map Prod.fst ∨ (w = r.latest devices.location ∧ r.contains devices.location) := by
    rw [Registry.register, List.map_append, List.mem_append] at hw
    refine hw.imp_right fun hw => ?_
    cases hlane : r.lane? devices.location with
    | none =>
      rw [hlane] at hw
      cases hw
    | some l =>
      rw [hlane] at hw
      exact ⟨List.mem_singleton.mp hw, contains_of_lane? hlane⟩
  have hnumber (w : WorkerId) (hw : w ∈ (r.register devices site).former.map Prod.fst) :
      w.number ≤ r.started.count w.location := by
    rcases hformer w hw with hold | ⟨rfl, -⟩
    · exact h.started w hold
    · exact Nat.le_refl _
  refine ⟨Keyed.nodup_map_fst_put _ h.lanes, ?_, fun w hw => ?_, fun w hw hemploys => ?_⟩
  · rw [Registry.register, List.map_append]
    cases hlane : r.lane? devices.location with
    | none => simpa using h.former
    | some l =>
      have habsent : r.latest devices.location ∉ r.former.map Prod.fst :=
        fun hmem => h.left _ hmem (employs_latest (contains_of_lane? hlane))
      rw [List.nodup_append]
      refine ⟨h.former, by simp, ?_⟩
      rintro w hw _ hv rfl
      obtain rfl := List.mem_singleton.mp hv
      exact habsent hw
  · refine Nat.le_trans (hnumber w hw) ?_
    rw [Registry.register, List.count_append]
    exact Nat.le_add_right _ _
  · rw [employs_register] at hemploys
    have hle := hnumber w hw
    split at hemploys
    · omega
    · next hlocation =>
      rcases hformer w hw with hold | ⟨rfl, -⟩
      · exact h.left w hold hemploys
      · exact hlocation rfl

/-! ## A location is registered for want of a lane -/

theorem lane?_insertOrReuse_of_ne (h : other ≠ location) : (r.insertOrReuse location).lane? other = r.lane? other := by
  rw [insertOrReuse]
  split
  · rfl
  · rw [lane?_register]
    exact if_neg h

/-- A location that has a lane keeps it when it is registered for want of one. -/
theorem lane?_insertOrReuse (h : r.contains other) : (r.insertOrReuse location).lane? other = r.lane? other := by
  by_cases hother : other = location
  · subst hother
    rw [insertOrReuse, if_pos h]
  · exact lane?_insertOrReuse_of_ne hother

theorem contains_insertOrReuse (r : Registry) (location other : LocationId) :
    (r.insertOrReuse location).contains other = (other == location || r.contains other) := by
  rw [insertOrReuse]
  split
  · next hknown =>
    by_cases h : other = location
    · rw [h, hknown, Bool.or_true]
    · rw [beq_false_of_ne h, Bool.false_or]
  · exact r.contains_register (.unmapped location) .empty other

theorem latest_insertOrReuse_of_ne (h : other ≠ location) :
    (r.insertOrReuse location).latest other = r.latest other := by
  rw [insertOrReuse]
  split
  · rfl
  · rw [latest_register]
    exact if_neg h

/-- Nobody has the name of a worker that has not been started. -/
theorem IsKeyed.laneOf?_eq_none (h : r.IsKeyed) (hnumber : r.started.count w.location < w.number) :
    r.laneOf? w = none := by
  have hnot : ¬r.employs w := by
    rw [employs_iff]
    rintro ⟨-, hw⟩
    rw [hw] at hnumber
    exact Nat.lt_irrefl _ hnumber
  rw [laneOf?_of_not_employs hnot, List.lookup_eq_none_iff]
  rintro ⟨v, l⟩ hmem
  have hne : w ≠ v := by
    rintro rfl
    exact Nat.not_le.mpr hnumber (h.started w (List.mem_map_of_mem hmem))
  simpa using hne

theorem IsKeyed.insertOrReuse (h : r.IsKeyed) (location : LocationId) : (r.insertOrReuse location).IsKeyed := by
  rw [Registry.insertOrReuse]
  split
  · exact h
  · exact h.register _ _

/-- The worker that an observation of a location is brought to. -/
def found? (r : Registry) (location : LocationId) : Option WorkerId :=
  match (r.resolve location).1 with
  | .ok found => found
  | .error _ => none

theorem resolve_of_contains (h : r.contains location) : r.resolve location = (.ok (some (r.latest location)), r) :=
  if_pos h

theorem found?_of_contains (h : r.contains location) : r.found? location = some (r.latest location) := by
  rw [found?, resolve_of_contains h]

/-- Unless the policy registers it, nobody is found for a location that is not known. -/
theorem found?_of_policy_ne (hunknown : r.contains location = false)
    (hpolicy : r.settings.policy ≠ .register) : r.found? location = none := by
  rw [found?, resolve, hunknown]
  cases hchosen : r.settings.policy with
  | ignore => rfl
  | reject => rfl
  | register => exact absurd hchosen hpolicy

/-- Where an observation is brought to a worker, the location has been registered for want of one. -/
theorem resolve_of_found? (h : r.found? location = some w) :
    r.resolve location = (.ok (some w), r.insertOrReuse location) ∧ w = (r.insertOrReuse location).latest location := by
  cases hcontains : r.contains location with
  | true =>
    rw [found?_of_contains hcontains, Option.some_inj] at h
    rw [resolve_of_contains hcontains, insertOrReuse, if_pos hcontains, h]
    exact ⟨rfl, rfl⟩
  | false =>
    rw [found?, resolve, hcontains] at h
    rw [resolve, hcontains]
    cases hpolicy : r.settings.policy with
    | ignore => simp [hpolicy] at h
    | reject => simp [hpolicy] at h
    | register =>
      simp only [hpolicy, Bool.false_eq_true, if_false, Option.some_inj] at h ⊢
      rw [h]
      exact ⟨rfl, rfl⟩

/-- Where it is not, the registry stays as it is. -/
theorem resolve_of_found?_eq_none (h : r.found? location = none) :
    r.contains location = false ∧ (r.resolve location).2 = r ∧ ∀ w, (r.resolve location).1 ≠ .ok (some w) := by
  have habsent : r.contains location = false := by
    by_contra hcontains
    rw [Bool.not_eq_false] at hcontains
    rw [found?_of_contains hcontains] at h
    cases h
  refine ⟨habsent, ?_, fun w hw => ?_⟩
  · rw [found?, resolve, habsent] at h
    rw [resolve, habsent]
    cases hpolicy : r.settings.policy with
    | ignore => simp
    | reject => simp
    | register => simp [hpolicy] at h
  · rw [found?, hw] at h
    cases h

/-- To look for a worker changes nothing, or registers a location that is not known. -/
theorem resolve_snd (r : Registry) (location : LocationId) :
    (r.resolve location).2 = r ∨
      (r.contains location = false ∧ (r.resolve location).2 = r.register (.unmapped location) .empty) := by
  cases hfound : r.found? location with
  | none => exact .inl (resolve_of_found?_eq_none hfound).2.1
  | some w =>
    rw [(resolve_of_found? hfound).1, insertOrReuse]
    cases r.contains location with
    | true => exact .inl rfl
    | false => exact .inr ⟨rfl, rfl⟩

/-- What is looked for in another place makes no difference to a worker. -/
theorem laneOf?_resolve_of_ne (h : w.location ≠ location) : (r.resolve location).2.laneOf? w = r.laneOf? w := by
  rcases r.resolve_snd location with hsame | ⟨-, hnew⟩
  · rw [hsame]
  · rw [hnew]
    exact laneOf?_register_of_ne h .empty

/-! ## The end -/

/-- All workers keep their lanes at the end, and are told to stop. -/
theorem laneOf?_shutdown (hr : r.IsKeyed) (w : WorkerId) :
    r.shutdown.laneOf? w =
      (r.laneOf? w).map fun l => if r.employs w then { l with isCancelled := true } else l := by
  have hgone : ¬r.shutdown.employs w := fun h => by cases (employs_iff.mp h).1
  have hformer : r.shutdown.former =
      r.former ++ r.lanes.map fun e => (r.latest e.1, { e.2 with isCancelled := true }) := rfl
  rw [laneOf?_of_not_employs hgone, hformer, List.lookup_append,
    r.lookup_lanes w fun l => { l with isCancelled := true }]
  by_cases hpresent : r.employs w
  · simp [hr.lookup_former hpresent, laneOf?_of_employs hpresent, hpresent]
  · simp [laneOf?_of_not_employs hpresent, hpresent]

theorem IsKeyed.shutdown (h : r.IsKeyed) : r.shutdown.IsKeyed := by
  have hnames : r.shutdown.former.map Prod.fst = r.former.map Prod.fst ++ (r.lanes.map Prod.fst).map r.latest := by
    simp [Registry.shutdown, leave, Function.comp_def]
  have hstaff := h.staff
  rw [Registry.staff, List.map_append, List.map_map] at hstaff
  refine ⟨List.nodup_nil, ?_, fun w hw => ?_, fun w _ hemploys => ?_⟩
  · rw [hnames, List.map_map]
    exact List.perm_append_comm.nodup_iff.mp hstaff
  · rw [hnames, List.mem_append] at hw
    rcases hw with hold | hpresent
    · exact h.started w hold
    · obtain ⟨location, -, rfl⟩ := List.mem_map.mp hpresent
      exact Nat.le_refl _
  · cases (employs_iff.mp hemploys).1

end Waterway.Registry
