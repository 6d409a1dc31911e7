import Waterway.Database.Row
import Waterway.Proofs.Decimal.Order
import Waterway.Proofs.Forms
import Waterway.Proofs.Json.Records

/-!
# Stored thresholds and calibrations

Thresholds and calibrations are taken from values that somebody stored. They are taken as they are or not at all: a
value that lacks a number is refused, whatever else it holds, and no default takes the place of what is missing.

## Main definitions

- `Json.number?` — the number that a value is

## Main statements

- `Thresholds.read_eq_ok_iff`, `Calibration.read_eq_ok_iff` — which values are read, and as what
- `settings_taken_as_given` — which stored values are accepted, and what becomes of the others

## Design notes

A stored value holds integers of 64 bits and finite doubles, as any document does. An integer stands for the double
nearest to it where a double is asked for; a number with a fraction or an exponent is not an integer, even if it is
whole.
-/

namespace Waterway

open Json

/-! ## Numbers -/

/-- The number that a value is, as a double. -/
def Json.number? : Json → Option Float
  | .integer n => some (Float.ofInt n)
  | .decimal x => some x
  | _ => none

theorem readDouble_eq_ok_iff {v : Json} {x : Float} : readDouble v = .ok x ↔ v.number? = some x := by
  cases v <;> simp [readDouble, Document.layer, number?]

/-- An integer of 32 bits is read as it is, and nothing else is read. -/
theorem readWord_eq_ok_iff {v : Json} {n : Int32} : readWord v = .ok n ↔ v = .integer n.toInt := by
  constructor
  · intro h
    cases v with
    | integer m =>
      simp only [readWord, readInt32, readInteger, Document.layer] at h
      split at h
      case isTrue hrange =>
        cases h
        obtain ⟨hleast, hgreatest⟩ := Decimal.IntegerRange.contains_iff.mp hrange
        rw [Int32.toInt_ofInt_of_le hleast (Int.lt_of_le_sub_one hgreatest)]
      case isFalse => cases h
    | _ => cases h
  · rintro rfl
    exact readWord_form showing_id n

/-! ## Readers -/

/-- The names of the three boundaries. -/
def Thresholds.fieldNames : List String :=
  ["tier_2_min", "tier_2_max", "tier_3_min"]

/-- The names of the three quantities. -/
def Calibration.fieldNames : List String :=
  ["installation_height", "warning_threshold", "critical_threshold"]

theorem Thresholds.read_eq_ok_iff {v : Json} {t : Thresholds} :
    Thresholds.read v = .ok t ↔ v.Gives fieldNames
      [.integer t.warningMin.toInt, .integer t.warningMax.toInt, .integer t.criticalMin.toInt] := by
  have hcheck (value : Json) (n : Int32) (h : readWord value = .ok n) : ∃ checked, readInt32 value = .ok checked := by
    rw [readWord_eq_ok_iff] at h
    exact ⟨n.toInt, h ▸ readInt32_form showing_id n⟩
  refine (three_required_iff (by decide) hcheck Thresholds.mk).trans ?_
  simp only [readWord_eq_ok_iff, forall₂_eq_iff_map_eq, List.map_id_fun', id, exists_eq_right]
  constructor
  · rintro ⟨x, y, z, rfl, hgives⟩
    exact hgives
  · exact fun hgives => ⟨_, _, _, rfl, hgives⟩

theorem Calibration.read_eq_ok_iff {v : Json} {c : Calibration Float} :
    Calibration.read v = .ok c ↔ ∃ values, v.Gives fieldNames values ∧
      values.map number? = [some c.height, some c.warningLevel, some c.criticalLevel] := by
  refine (three_required_iff (by decide) (fun _ x h => ⟨x, h⟩) Calibration.mk).trans ?_
  simp only [readDouble_eq_ok_iff, forall₂_eq_iff_map_eq]
  constructor
  · rintro ⟨x, y, z, rfl, hgives⟩
    exact hgives
  · exact fun hgives => ⟨_, _, _, rfl, hgives⟩

/-! ## Settings -/

namespace Calibration

/-- A calibration with finite quantities is usable if its critical level is greater than zero. -/
theorem Writable.usable_iff {c : Calibration Float} (hc : c.Writable) : c.Usable ↔ 0.0 < c.criticalLevel := by
  have hlevel := Decimal.isNaN_of_isFinite hc.criticalLevel
  have hzero := Decimal.isNaN_of_isFinite (x := 0.0) (by decide)
  rw [Usable, ← Decimal.not_lt_iff hzero hlevel, not_not]

end Calibration

theorem Thresholds.ofSetting_eq_ok_iff {v : Json} {t : Thresholds} :
    Thresholds.ofSetting v = .ok t ↔ Thresholds.read v = .ok t := by
  unfold Thresholds.ofSetting
  split
  case h_1 hread => simp [hread]
  case h_2 hread => simp [hread]

theorem Calibration.ofSetting_eq_ok_iff {v : Json} {c : Calibration Float} :
    Calibration.ofSetting v = .ok c ↔ Calibration.read v = .ok c ∧ c.Usable := by
  unfold Calibration.ofSetting
  split
  case h_1 hread => simp [hread]
  case h_2 c' hread =>
    rw [hread]
    split
    case isTrue hc =>
      constructor
      · rintro ⟨⟩
        exact ⟨rfl, hc⟩
      · rintro ⟨⟨⟩, -⟩
        rfl
    case isFalse hc =>
      refine iff_of_false nofun fun ⟨heq, h⟩ => ?_
      cases heq
      exact hc h

/-- What is wrong with stored thresholds is reported as an error in the configuration. -/
theorem Thresholds.configuration_of_ofSetting {v : Json} {e : DomainError} (h : Thresholds.ofSetting v = .error e) :
    ∃ reason, e = .configuration reason := by
  unfold Thresholds.ofSetting at h
  split at h <;> cases h
  exact ⟨_, rfl⟩

theorem Calibration.configuration_of_ofSetting {v : Json} {e : DomainError} (h : Calibration.ofSetting v = .error e) :
    ∃ reason, e = .configuration reason := by
  unfold Calibration.ofSetting at h
  split at h
  · cases h
    exact ⟨_, rfl⟩
  · split at h <;> cases h
    exact ⟨_, rfl⟩

/-- Stored thresholds are accepted if the value gives three integers of 32 bits, and a stored calibration if it gives
three numbers of which the critical level is greater than zero. What is accepted holds those numbers, and everything
else is an error in the configuration. So the calibration of a device has a critical level to divide by. -/
theorem settings_taken_as_given {v : Json} (hv : Proper v) :
    (∀ t, Thresholds.ofSetting v = .ok t ↔ v.Gives Thresholds.fieldNames
      [.integer t.warningMin.toInt, .integer t.warningMax.toInt, .integer t.criticalMin.toInt]) ∧
    (∀ e, Thresholds.ofSetting v = .error e → ∃ reason, e = .configuration reason) ∧
    (∀ c, Calibration.ofSetting v = .ok c ↔ 0.0 < c.criticalLevel ∧ ∃ values,
      v.Gives Calibration.fieldNames values ∧
      values.map number? = [some c.height, some c.warningLevel, some c.criticalLevel]) ∧
    (∀ e, Calibration.ofSetting v = .error e → ∃ reason, e = .configuration reason) ∧
    ∀ (device : SensorDevice) (c : Calibration Float), device.calibration = v → device.config = .ok c →
      0.0 < c.criticalLevel := by
  have hcalibration (c : Calibration Float) : Calibration.ofSetting v = .ok c ↔
      0.0 < c.criticalLevel ∧ ∃ values, v.Gives Calibration.fieldNames values ∧
      values.map number? = [some c.height, some c.warningLevel, some c.criticalLevel] := by
    rw [Calibration.ofSetting_eq_ok_iff, and_comm, ← Calibration.read_eq_ok_iff]
    exact and_congr_left fun hread => (Calibration.writable_of_read hv hread).usable_iff
  refine ⟨fun t => ?_, fun e => Thresholds.configuration_of_ofSetting, hcalibration,
    fun e => Calibration.configuration_of_ofSetting, ?_⟩
  · rw [Thresholds.ofSetting_eq_ok_iff, Thresholds.read_eq_ok_iff]
  · rintro device c rfl hconfig
    exact ((hcalibration c).mp hconfig).1

/-- A calibration as somebody wrote it down, with whole numbers among the others and a remark. -/
def bridgeSetting : Json :=
  .record [("remark", .text "north pier"), ("critical_threshold", .integer 200),
    ("installation_height", .decimal 300.5), ("warning_threshold", .integer 150)]

theorem settings_taken_as_given_bridge :
    Proper bridgeSetting ∧ Calibration.ofSetting bridgeSetting = .ok ⟨300.5, 150.0, 200.0⟩ ∧
    ∀ t, Thresholds.ofSetting bridgeSetting ≠ .ok t := by
  have hproper : Proper bridgeSetting := by
    refine (numeric_record (List.forall_mem_cons.mpr ⟨numeric_text _, ?_⟩)).proper
    have hheight : (Json.decimal 300.5).Numeric := numeric_ofFloat 300.5
    simp [hheight, numeric_integer]
  obtain ⟨hthresholds, -, hcalibration, -, -⟩ := settings_taken_as_given hproper
  refine ⟨hproper, ?_, fun t h => ?_⟩
  · have hgives : bridgeSetting.Gives Calibration.fieldNames [.decimal 300.5, .integer 150, .integer 200] :=
      .record (.cons rfl (.cons rfl (.cons rfl .nil)))
    exact (hcalibration _).mpr ⟨by decide, _, hgives, rfl⟩
  · have hgives := gives_record_iff.mp ((hthresholds t).mp h)
    cases hgives with
    | cons hfirst _ => cases hfirst

end Waterway
