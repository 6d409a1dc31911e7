import Mathlib.Data.List.Forall2
import Waterway.Http.Failure
import Waterway.Proofs.Ingest.Intake
import Waterway.Proofs.StoredSettings

/-!
# Malformed calibrations behind a mask

A report is taken in on two databases that differ only in calibrations that are malformed in both. The two runs end with
the same receipt, or with errors for which a client gets one and the same response.

## Main definitions

- `Database.Masked` — two databases differ at most in calibrations that are malformed in both
- `Intake.Alike` — a client cannot tell two outcomes apart
- `Intake.Indistinct` — two requests have such outcomes whenever they start from related states

## Main statements

- `Intake.Indistinct.bind` — requests are compared step by step
- `ingestSensor_indistinct`, `ingestBlockage_indistinct`, `ingestWeather_indistinct` — the three feeds

## Design notes

What is announced and handed to the worker may find the two databases different, since the engine keeps the wording of
failures. So the states are no longer compared from there on, and the receipt is made of what is known before.
-/

namespace Waterway

/-- Two sensors that differ at most in calibrations that are malformed. -/
structure SensorDevice.Masked (s s' : SensorDevice) : Prop where
  rest : s' = { s with calibration := s'.calibration }
  calibration : s'.calibration = s.calibration ∨
    (∃ error, s.config = .error error) ∧ ∃ error, s'.config = .error error

/-- Two databases that differ at most in calibrations that are malformed in both. -/
structure Database.Masked (db db' : Database) : Prop where
  rest : db' = { db with sensors := db'.sensors }
  sensors : List.Forall₂ SensorDevice.Masked db.sensors db'.sensors

/-- Two engines that differ at most in such databases. -/
structure Engine.Masked (e e' : Engine Database) : Prop where
  outside : e.outside.Masked e'.outside
  rest : e' = { e with outside := e'.outside }

namespace SensorDevice.Masked

variable {s s' : SensorDevice}

theorem id_eq (h : s.Masked s') : s'.id = s.id := by
  rw [h.rest]

theorem location_eq (h : s.Masked s') : s'.location = s.location := by
  rw [h.rest]

/-- It stays so when both have been heard of. -/
theorem touched (h : s.Masked s') (lastSeen : Option Instant) :
    Masked { s with lastSeen } { s' with lastSeen } where
  rest := by
    rw [h.rest]
  calibration := h.calibration

end SensorDevice.Masked

namespace Database.Masked

variable {db db' : Database}

theorem fault_eq (h : db.Masked db') (s : Statement) : db'.fault s = db.fault s := by
  rw [h.rest]
  rfl

/-- Sensors are found by what is not masked. -/
theorem find? {p : SensorDevice → Bool} (hp : ∀ s s' : SensorDevice, s.Masked s' → p s' = p s) (h : db.Masked db') :
    Option.Rel SensorDevice.Masked (db.sensors.find? p) (db'.sensors.find? p) := by
  have hsensors := h.sensors
  generalize db.sensors = sensors at hsensors
  generalize db'.sensors = sensors' at hsensors
  induction hsensors with
  | nil => exact .none
  | cons hmasked _ ih =>
    rw [List.find?_cons, List.find?_cons, hp _ _ hmasked]
    split
    · exact .some hmasked
    · exact ih

theorem withTouch (h : db.Masked db') (id : RowId) : (db.withTouch id).Masked (db'.withTouch id) where
  rest := by
    rw [h.rest]
    rfl
  sensors := by
    have hnow : db'.now = db.now := by rw [h.rest]
    refine List.forall₂_map_left_iff.mpr (List.forall₂_map_right_iff.mpr (h.sensors.imp fun s s' hmasked => ?_))
    by_cases hid : s.id = id
    · rw [if_pos hid, if_pos (hmasked.id_eq.trans hid), hnow]
      exact hmasked.touched _
    · rw [if_neg hid, if_neg (hmasked.id_eq.trans_ne hid)]
      exact hmasked

end Database.Masked

namespace Intake

variable {σ α β γ δ : Type}

/-- A client cannot tell two outcomes apart: the results correspond, and so do the states, or both are errors with one
response. -/
inductive Alike (S : α → β → Prop) (R : Engine σ → Engine σ → Prop) :
    Except ServiceError α × Engine σ → Except ServiceError β × Engine σ → Prop
  | ok {a : α} {b : β} {after after' : Engine σ} (hresult : S a b) (hstate : R after after') :
      Alike S R (.ok a, after) (.ok b, after')
  | error {error error' : ServiceError} {after after' : Engine σ} (hresponse : error.response = error'.response) :
      Alike S R (.error error, after) (.error error', after')

/-- Two requests that start from states related by `R` have outcomes that a client cannot tell apart. -/
def Indistinct (R : Engine σ → Engine σ → Prop) (S : α → β → Prop) (R' : Engine σ → Engine σ → Prop)
    (action : Intake σ α) (action' : Intake σ β) : Prop :=
  ∀ e e', R e e' → Alike S R' (action.run.run e) (action'.run.run e')

namespace Indistinct

variable {R R' R'' : Engine σ → Engine σ → Prop} {S : α → β → Prop} {T : γ → δ → Prop}

/-- Requests are compared step by step. -/
theorem bind {action : Intake σ α} {action' : Intake σ β} {next : α → Intake σ γ} {next' : β → Intake σ δ}
    (h : Indistinct R S R' action action') (hnext : ∀ a b, S a b → Indistinct R' T R'' (next a) (next' b)) :
    Indistinct R T R'' (action >>= next) (action' >>= next') := by
  intro e e' hstart
  have halike := h e e' hstart
  rcases hrun : action.run.run e with ⟨error | a, after⟩ <;>
    rcases hrun' : action'.run.run e' with ⟨error' | b, after'⟩ <;> rw [hrun, hrun'] at halike
  · rw [run_bind_error hrun, run_bind_error hrun']
    cases halike with
    | error hresponse => exact .error hresponse
  · cases halike
  · cases halike
  · rw [run_bind_ok hrun, run_bind_ok hrun']
    cases halike with
    | ok hresult hstate => exact hnext a b hresult after after' hstate

theorem pure {a : α} {b : β} (h : S a b) : Indistinct R S R (Pure.pure a) (Pure.pure b) :=
  fun _ _ hstart => .ok h hstart

theorem ofDomain (result : Except DomainError α) :
    Indistinct R (· = ·) R (ofDomain result : Intake σ α) (Intake.ofDomain result) := by
  intro e e' hstart
  cases result with
  | ok a => exact .ok rfl hstart
  | error error => exact .error rfl

/-- All settings that are malformed look the same. -/
theorem ofDomain_error {result : Except DomainError α} {result' : Except DomainError β} {error error' : DomainError}
    (h : result = .error error) (h' : result' = .error error') (hcomplaint : error.complaint = error'.complaint) :
    Indistinct R S R (Intake.ofDomain result : Intake σ α) (Intake.ofDomain result') := by
  intro e e' hstart
  rw [run_ofDomain_error h, run_ofDomain_error h']
  exact .error (congrArg Http.Complaint.response hcomplaint)

theorem found (entity : String) (location : LocationId) {o : Option α} {o' : Option β} (h : Option.Rel S o o') :
    Indistinct R S R (Intake.found entity location o : Intake σ α) (Intake.found entity location o') := by
  intro e e' hstart
  cases h with
  | some hresult => exact .ok hresult hstart
  | none => exact .error rfl

/-- What is done without a result tells nothing. -/
theorem lift (action action' : StateM (Engine σ) Unit) :
    Indistinct R (· = ·) (fun _ _ => True) (liftM action : Intake σ Unit) (liftM action') :=
  fun _ _ _ => .ok rfl trivial

/-- A statement is run on two databases that are masked. -/
theorem statement {s : Statement} {run run' : Database → α × Database} {S : α → α → Prop}
    (h : ∀ db db' : Database, db.Masked db' → S (run db).1 (run' db').1 ∧ (run db).2.Masked (run' db').2) :
    Indistinct Engine.Masked S Engine.Masked (query DatabaseSource.backend (Query.statement s run))
      (query DatabaseSource.backend (Query.statement s run')) := by
  intro e e' hstart
  have hfault := hstart.outside.fault_eq s
  cases he : e.outside.fault s with
  | some error =>
    rw [he] at hfault
    rw [run_query_error (Query.run_statement_of_some he run), run_query_error (Query.run_statement_of_some hfault run')]
    exact .error rfl
  | none =>
    rw [he] at hfault
    rw [run_query_ok (Query.run_statement_of_none he run), run_query_ok (Query.run_statement_of_none hfault run')]
    obtain ⟨hresult, hdb⟩ := h _ _ hstart.outside
    exact .ok hresult ⟨hdb, by rw [hstart.rest]⟩

/-- What is read is the same if it is read from what is not masked. -/
theorem select {s : Statement} {read : Database → α}
    (h : ∀ db db' : Database, db.Masked db' → read db' = read db) :
    Indistinct Engine.Masked (· = ·) Engine.Masked (query DatabaseSource.backend (Query.select s read))
      (query DatabaseSource.backend (Query.select s read)) :=
  statement fun db db' hdb => ⟨(h db db' hdb).symm, hdb⟩

/-- A row is added that is made of what is not masked. -/
theorem insert {s : Statement} (row : Database → α) (add : Database → α → Database)
    (hrow : ∀ (db : Database) sensors, row { db with sensors } = row db)
    (hadd : ∀ (db : Database) sensors a, add { db with sensors } a = { add db a with sensors })
    (hsensors : ∀ db a, (add db a).sensors = db.sensors) :
    Indistinct Engine.Masked (· = ·) Engine.Masked
      (query DatabaseSource.backend (Query.statement s fun db => (row db, add db (row db))))
      (query DatabaseSource.backend (Query.statement s fun db => (row db, add db (row db)))) := by
  refine statement fun db db' hdb => ?_
  have hsame : row db' = row db := by
    rw [hdb.rest]
    exact hrow db db'.sensors
  refine ⟨hsame.symm, ?_, ?_⟩
  · rw [hsensors, hsame, hdb.rest]
    exact hadd db db'.sensors (row db)
  · rw [hsensors, hsensors]
    exact hdb.sensors

end Indistinct

end Intake

variable (now : Instant) (location : LocationId)

open Intake

/-- A sensor's report is taken in, and its receipt does not depend on what is masked. If its own calibration is, there
is no receipt, and all that a client gets to know is that something has failed. -/
theorem ingestSensor_indistinct (r : SensorReport) : Indistinct Engine.Masked (· = ·) (fun _ _ => True)
    (ingestSensor DatabaseSource.backend now location r) (ingestSensor DatabaseSource.backend now location r) := by
  unfold ingestSensor
  refine .bind (.ofDomain _) fun _ _ _ => .bind (S := Option.Rel SensorDevice.Masked) (.statement fun db db' hdb => ?_)
    fun o o' ho => .bind (.found _ _ ho) fun device device' hdevice => ?_
  · exact ⟨hdb.find? fun s s' hmasked => by rw [hmasked.location_eq], hdb⟩
  -- from here on only the key and the calibration of the sensor count
  have hid := hdevice.id_eq
  rcases hdevice.calibration with heq | ⟨⟨error, herror⟩, error', herror'⟩
  case inr =>
    refine .bind (S := fun _ _ => False) (.ofDomain_error herror herror' ?_) fun _ _ h => h.elim
    obtain ⟨reason, rfl⟩ := Calibration.configuration_of_ofSetting herror
    obtain ⟨reason', rfl⟩ := Calibration.configuration_of_ofSetting herror'
    rfl
  case inl =>
    have hconfig : device'.config = device.config := congrArg Calibration.ofSetting heq
    rw [hid, hconfig]
    refine .bind (.ofDomain _) ?_
    rintro config _ rfl
    refine .bind (.insert (r.reading now device config).row Database.withSensorReading
      (fun _ _ => rfl) (fun _ _ _ => rfl) fun _ _ => rfl) ?_
    rintro row _ rfl
    refine .bind (S := (· = ·)) (.statement fun db db' hdb => ⟨rfl, hdb.withTouch _⟩) fun _ _ _ => ?_
    refine .bind (.select fun db db' hdb => by rw [hdb.rest]) ?_
    rintro previous _ rfl
    exact .bind (.lift _ _) fun _ _ _ => .pure rfl

theorem ingestBlockage_indistinct (r : BlockageReport) : Indistinct Engine.Masked (· = ·) (fun _ _ => True)
    (ingestBlockage DatabaseSource.backend now location r) (ingestBlockage DatabaseSource.backend now location r) := by
  unfold ingestBlockage
  refine .bind (.ofDomain _) fun _ _ _ => .bind (.select fun db db' hdb => by rw [hdb.rest]) ?_
  rintro o _ rfl
  refine .bind (S := (· = ·)) (.found _ _ (by cases o <;> simp)) ?_
  rintro camera _ rfl
  refine .bind (.insert (r.reading now camera).row Database.withBlockageReading
    (fun _ _ => rfl) (fun _ _ _ => rfl) fun _ _ => rfl) ?_
  rintro row _ rfl
  refine .bind (.ofDomain _) ?_
  rintro status _ rfl
  exact .bind (.lift _ _) fun _ _ _ => .pure rfl

theorem ingestWeather_indistinct (r : WeatherReport) : Indistinct Engine.Masked (· = ·) (fun _ _ => True)
    (ingestWeather DatabaseSource.backend location r) (ingestWeather DatabaseSource.backend location r) := by
  unfold ingestWeather
  refine .bind (.ofDomain _) fun _ _ _ => .bind (.select fun db db' hdb => by rw [hdb.rest]) ?_
  rintro o _ rfl
  refine .bind (S := (· = ·)) (.found _ _ (by cases o <;> simp)) fun _ _ _ => ?_
  refine .bind (.insert (r.reading location).row Database.withWeatherReading
    (fun _ _ => rfl) (fun _ _ _ => rfl) fun _ _ => rfl) ?_
  rintro row _ rfl
  exact .bind (.lift _ _) fun _ _ _ => .pure rfl

end Waterway
