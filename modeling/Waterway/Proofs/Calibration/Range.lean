import Waterway.Http.Report
import Waterway.Proofs.Decimal.Overflow
import Waterway.Proofs.Envelope
import Waterway.Proofs.Ingest.Intake
import Waterway.Proofs.StoredSettings

/-!
# Distances in range

A distance that is accepted is a finite number, and so are the heights of a calibration. The differences, quotients and
roundings between them and a status are not looked at again, and each of them can be too large for a double. What is too
large is written as `null`.

## Main definitions

- `Calibration.InRange` — no step on the way from a distance to a status is too large
- `Calibration.Moderate` — a measurement that is far from the limits of doubles
- `Json.HasNull` — there is a `null` somewhere in a value
- `SensorReport.receipt` — what a report is answered

## Main statements

- `Calibration.isReal_derive_iff` — the quantities of a status are finite if all steps are in range
- `Calibration.inRange_of_moderate` — moderate measurements are in range
- `receipt_real_iff` — quantities are written as numbers and read back if all steps are in range, and only then
- `receipt_unreal_boundless` — a change that fits a double is too large to be rounded

## Design notes

Each step is bounded by `overflow` as it would be without rounding, on the doubles that the steps before have left.
-/

namespace Waterway

open Decimal

/-! ## Missing values -/

namespace Json

/-- There is a `null` somewhere in a value. -/
def HasNull (v : Json) : Prop :=
  Part .null v

theorem hasNull_record {fields : List (String × Json)} :
    HasNull (.record fields) ↔ ∃ field ∈ fields, HasNull field.2 := by
  constructor
  · intro h
    cases h with
    | item hlayer hmem h => cases hlayer
    | field hlayer hmem h =>
      cases hlayer
      exact ⟨_, hmem, h⟩
  · rintro ⟨field, hmem, h⟩
    exact .field rfl hmem h

/-- A double is written as `null` if it is no finite number. -/
theorem hasNull_ofFloat {x : Float} : HasNull (ofFloat x) ↔ ¬x.isFinite := by
  unfold ofFloat
  split
  case isTrue hx =>
    refine iff_of_false (fun h => ?_) (not_not_intro hx)
    cases h with
    | item hlayer | field hlayer => cases hlayer
  case isFalse hx => exact iff_of_true .self hx

theorem not_hasNull_text (s : String) : ¬HasNull (.text s) := by
  intro h
  cases h with
  | item hlayer | field hlayer => cases hlayer

theorem not_hasNull_integer (n : Int) : ¬HasNull (.integer n) := by
  intro h
  cases h with
  | item hlayer | field hlayer => cases hlayer

/-- With different names no field is lost when fields are put in order. -/
theorem hasNull_sorted_record {fields : List (String × Json)} (h : (fields.map Prod.fst).Nodup) :
    HasNull (record fields).sorted ↔ ∃ field ∈ fields, HasNull field.2.sorted := by
  have hperm := @perm_sortedFields fields [] (by rwa [List.append_nil])
  rw [List.append_nil] at hperm
  rw [sorted, hasNull_record]
  simp only [hperm.mem_iff, List.mem_map, exists_exists_and_eq_and]

theorem sorted_ofFloat (x : Float) : (ofFloat x).sorted = ofFloat x := by
  unfold ofFloat
  split <;> rfl

/-- Each field that was asked for has passed its test. -/
theorem check_of_checkFields {declared : List (FieldCheck Json)} {seen fields read : List (String × Json)}
    {field : String × Json} {c : FieldCheck Json} (h : checkFields declared seen fields = .ok read)
    (hmem : field ∈ fields) (hc : declared.find? (·.name == field.1) = some c) : c.check field.2 = .ok () := by
  induction fields generalizing seen with
  | nil => exact absurd hmem List.not_mem_nil
  | cons first rest ih =>
    rw [checkFields] at h
    split at h
    case h_1 hunknown =>
      rcases List.mem_cons.mp hmem with rfl | hmem
      · cases hunknown.symm.trans hc
      · exact ih h hmem
    case h_2 c' hknown =>
      split at h
      · cases h
      · obtain ⟨⟨⟩, hcheck, h⟩ := bind_eq_ok h
        rcases List.mem_cons.mp hmem with rfl | hmem
        · obtain rfl : c' = c := Option.some.inj (hknown.symm.trans hc)
          exact hcheck
        · exact ih h hmem

theorem isFinite_of_checkFields {declared : List (FieldCheck Json)} {seen fields read : List (String × Json)}
    {x : Float} (h : checkFields declared seen fields = .ok read) (name : String) (hmem : (name, ofFloat x) ∈ fields)
    (hc : declared.find? (·.name == name) = some (.of name readDouble)) : x.isFinite := by
  have hcheck : (FieldCheck.of name readDouble).check (ofFloat x) = .ok () := check_of_checkFields h hmem hc
  by_contra hx
  rw [ofFloat, if_neg hx] at hcheck
  cases hcheck

end Json

open Json

namespace WaterLevel

/-- The quantities of a status are finite. -/
def IsReal (s : WaterLevel Float) : Prop :=
  s.level.isFinite ∧ s.changeRate.isFinite ∧ s.criticalPercentage.isFinite

theorem hasNull_toJson_iff {s : WaterLevel Float} : HasNull s.toJson ↔ ¬s.IsReal := by
  simp only [toJson, hasNull_record, List.mem_cons, List.not_mem_nil, or_false, exists_eq_or_imp, exists_eq_left,
    hasNull_ofFloat, Instant.toJson, Trend.toJson, not_hasNull_text, IsReal]
  tauto

theorem hasNull_sorted_toJson_iff {s : WaterLevel Float} : HasNull s.toJson.sorted ↔ HasNull s.toJson := by
  rw [toJson, hasNull_sorted_record (by simp), hasNull_record]
  simp only [List.mem_cons, List.not_mem_nil, or_false, exists_eq_or_imp, exists_eq_left, sorted_ofFloat,
    Instant.toJson, Trend.toJson, sorted]

/-- The fields that a message adds are texts. -/
theorem hasNull_envelope_iff (s : WaterLevel Float) :
    HasNull (Envelope.ofObservation (.waterLevel s)).toJson ↔ HasNull s.toJson := by
  obtain ⟨fields, data, hrecord, hfields, hdata⟩ := (Envelope.ofObservation (.waterLevel s)).exists_toJson
  have hvalue : (Envelope.ofObservation (.waterLevel s)).value = s.toJson := rfl
  simp only [hrecord, hasNull_record, hfields.mem_iff, hdata.mem_iff, Envelope.content, hvalue,
    hasNull_sorted_toJson_iff, List.mem_cons, List.not_mem_nil, or_false, exists_eq_or_imp, exists_eq_left,
    not_hasNull_text, false_or]

end WaterLevel

/-! ## The steps to a status -/

namespace Calibration

/-- No step on the way from a distance to a status is too large for a double. -/
structure InRange (c : Calibration Float) (distance : Float) (previous : Option Float) : Prop where
  level : |value c.height - value distance| < overflow
  /-- The level as a share of the critical one. -/
  share : |value (c.levelAt distance) / value c.criticalLevel| < overflow
  percentage : |value (c.levelAt distance / c.criticalLevel) * 100| < overflow
  /-- What is rounded to have the percentage with one decimal place. -/
  tenths : |value (c.levelAt distance / c.criticalLevel * 100.0)| * 10 ^ 1 < overflow
  change : ∀ p ∈ previous, p.isFinite ∧ |value (c.levelAt distance) - value p| < overflow
  /-- What is rounded to have the change with two decimal places. -/
  hundredths : ∀ p ∈ previous, |value (c.levelAt distance - p)| * 10 ^ 2 < overflow

variable {c : Calibration Float} {distance : Float} {previous : Option Float}

theorem isFinite_levelAt_iff (hc : c.Writable) (hdistance : distance.isFinite) :
    (c.levelAt distance).isFinite ↔ |value c.height - value distance| < overflow := by
  rw [levelAt, isFinite_sub_iff, and_iff_right hc.height, and_iff_right hdistance]

theorem isFinite_criticalPercentage_iff {level : Float} (hc : c.Writable) (husable : c.Usable) :
    (c.criticalPercentage level).isFinite ↔ level.isFinite ∧ |value level / value c.criticalLevel| < overflow ∧
      |value (level / c.criticalLevel) * 100| < overflow ∧
      |value (level / c.criticalLevel * 100.0)| * 10 ^ 1 < overflow := by
  have hhundred : (100.0 : Float).isFinite := by decide
  have hpos := value_pos_of_lt hc.criticalLevel (hc.usable_iff.mp husable)
  rw [criticalPercentage, isFinite_roundTo_iff value_tenTo_one, isFinite_mul_iff hhundred, value_hundred,
    isFinite_div_iff hc.criticalLevel hpos.ne', and_assoc, and_assoc]

theorem isFinite_rateOfChange_iff {level : Float} (hlevel : level.isFinite) :
    (rateOfChange level previous).isFinite ↔
      (∀ p ∈ previous, p.isFinite ∧ |value level - value p| < overflow) ∧
      ∀ p ∈ previous, |value (level - p)| * 10 ^ 2 < overflow := by
  cases previous with
  | none =>
    have hzero : (0.0 : Float).isFinite := by decide
    simp [rateOfChange, hzero]
  | some p =>
    rw [rateOfChange, isFinite_roundTo_iff value_tenTo_two, isFinite_sub_iff, and_iff_right hlevel]
    simp

/-- The quantities of a status are finite if all steps on the way to it are in range. -/
theorem isReal_derive_iff (hc : c.Writable) (husable : c.Usable) (hdistance : distance.isFinite)
    (observedAt : Instant) :
    (WaterLevel.derive (c.levelAt distance) previous c observedAt).IsReal ↔ c.InRange distance previous := by
  show (c.levelAt distance).isFinite ∧ (rateOfChange (c.levelAt distance) previous).isFinite ∧
    (c.criticalPercentage (c.levelAt distance)).isFinite ↔ _
  constructor
  · rintro ⟨hlevel, hrate, hpercentage⟩
    obtain ⟨hchange, hhundredths⟩ := (isFinite_rateOfChange_iff hlevel).mp hrate
    obtain ⟨-, hshare, hhundred, htenths⟩ := (isFinite_criticalPercentage_iff hc husable).mp hpercentage
    exact ⟨(isFinite_levelAt_iff hc hdistance).mp hlevel, hshare, hhundred, htenths, hchange, hhundredths⟩
  · intro h
    have hlevel := (isFinite_levelAt_iff hc hdistance).mpr h.level
    exact ⟨hlevel, (isFinite_rateOfChange_iff hlevel).mpr ⟨h.change, h.hundredths⟩,
      (isFinite_criticalPercentage_iff hc husable).mpr ⟨hlevel, h.share, h.percentage, h.tenths⟩⟩

/-- A measurement that is far from the limits of doubles. -/
structure Moderate (c : Calibration Float) (distance : Float) : Prop where
  writable : c.Writable
  isFinite : distance.isFinite
  height : |value c.height| ≤ 2 ^ 100
  criticalLevel : 1 / 2 ^ 100 ≤ value c.criticalLevel
  distance : |value distance| ≤ 2 ^ 100

namespace Moderate

variable (h : c.Moderate distance)
include h

theorem abs_sub_le : |value c.height - value distance| ≤ 2 ^ (101 : Int) := by
  have hheight := h.height
  have hdistance := h.distance
  have hsub := abs_sub (value c.height) (value distance)
  norm_num at hheight hdistance ⊢
  linarith

theorem isFinite_levelAt : (c.levelAt distance).isFinite :=
  (isFinite_levelAt_iff h.writable h.isFinite).mpr (lt_overflow_of_le (by decide) h.abs_sub_le)

theorem abs_levelAt_lt : |value (c.levelAt distance)| < 2 ^ (103 : Int) :=
  abs_value_sub_lt h.writable.height h.isFinite (by decide) (by decide) h.abs_sub_le

theorem criticalLevel_pos : 0 < value c.criticalLevel :=
  lt_of_lt_of_le (by positivity) h.criticalLevel

theorem abs_share_le : |value (c.levelAt distance) / value c.criticalLevel| ≤ 2 ^ (203 : Int) := by
  have hlevel := h.abs_levelAt_lt.le
  have hcritical := h.criticalLevel
  rw [abs_div, abs_of_pos h.criticalLevel_pos, div_le_iff₀ h.criticalLevel_pos]
  norm_num at hlevel hcritical ⊢
  linarith

end Moderate

/-- Moderate measurements are in range, after a level that has been measured in the same way. -/
theorem inRange_of_moderate (h : c.Moderate distance)
    (hprevious : ∀ p ∈ previous, ∃ (c' : Calibration Float) (distance' : Float),
      c'.Moderate distance' ∧ p = c'.levelAt distance') :
    c.InRange distance previous := by
  have hlevel := h.isFinite_levelAt
  have hne := h.criticalLevel_pos.ne'
  have hhundred : (100.0 : Float).isFinite := by decide
  have hshare : |value (c.levelAt distance / c.criticalLevel)| < 2 ^ (205 : Int) :=
    abs_value_div_lt hlevel h.writable.criticalLevel (by decide) (by decide) hne h.abs_share_le
  have hquotient : (c.levelAt distance / c.criticalLevel).isFinite :=
    (isFinite_div_iff h.writable.criticalLevel hne).mpr ⟨hlevel, lt_overflow_of_le (by decide) h.abs_share_le⟩
  have hpercentage : |value (c.levelAt distance / c.criticalLevel) * 100| ≤ 2 ^ (212 : Int) := by
    rw [abs_mul]
    norm_num at hshare ⊢
    linarith
  have htenths : |value (c.levelAt distance / c.criticalLevel * 100.0)| < 2 ^ (214 : Int) :=
    abs_value_mul_lt hquotient hhundred (by decide) (by decide) (value_hundred ▸ hpercentage)
  have hchange : ∀ p ∈ previous, p.isFinite ∧ |value (c.levelAt distance) - value p| ≤ 2 ^ (104 : Int) := by
    intro p hp
    obtain ⟨c', distance', h', rfl⟩ := hprevious p hp
    have hsub := abs_sub (value (c.levelAt distance)) (value (c'.levelAt distance'))
    have hfirst := h.abs_levelAt_lt
    have hsecond := h'.abs_levelAt_lt
    refine ⟨h'.isFinite_levelAt, ?_⟩
    norm_num at hfirst hsecond ⊢
    linarith
  refine ⟨lt_overflow_of_le (by decide) h.abs_sub_le, lt_overflow_of_le (by decide) h.abs_share_le,
    lt_overflow_of_le (by decide) hpercentage, lt_overflow_of_le (k := 218) (by decide) ?_,
    fun p hp => ⟨(hchange p hp).1, lt_overflow_of_le (by decide) (hchange p hp).2⟩,
    fun p hp => lt_overflow_of_le (k := 113) (by decide) ?_⟩
  · norm_num at htenths ⊢
    linarith
  · obtain ⟨hfinite, hsize⟩ := hchange p hp
    have hrate : |value (c.levelAt distance - p)| < 2 ^ (106 : Int) :=
      abs_value_sub_lt hlevel hfinite (by decide) (by decide) hsize
    norm_num at hrate ⊢
    linarith

end Calibration

theorem SensorReport.isFinite_of_validate {r : SensorReport} (h : r.validate = .ok ()) : r.distance.isFinite := by
  rw [validate] at h
  split at h
  case isTrue hamount => exact (Bool.and_eq_true_iff.mp hamount).1
  case isFalse => cases h

/-! ## What is answered and announced -/

theorem SensorReading.hasNull_toJson_iff {r : SensorReading} :
    HasNull r.toJson ↔ ¬r.distance.isFinite ∨ ¬r.level.isFinite := by
  simp only [toJson, hasNull_record, List.mem_cons, List.not_mem_nil, or_false, exists_eq_or_imp, exists_eq_left,
    hasNull_ofFloat, Instant.toJson, not_hasNull_text, not_hasNull_integer, false_or]

/-- The numbers of an answer are the distance, the level, and the quantities of the status. -/
theorem SensorReceipt.hasNull_toJson_iff {r : SensorReceipt} (hdistance : r.reading.distance.isFinite)
    (hlevel : r.status.level = r.reading.level) : HasNull r.toJson ↔ ¬r.status.IsReal := by
  simp only [toJson, hasNull_record, List.mem_cons, List.not_mem_nil, or_false, exists_eq_or_imp, exists_eq_left,
    not_hasNull_text, false_or, SensorReading.hasNull_toJson_iff, WaterLevel.hasNull_toJson_iff, WaterLevel.IsReal]
  rw [← hlevel]
  tauto

/-- A status is read back as it was if its quantities are finite, and else nothing is read. -/
theorem WaterLevel.read_toJson_iff {s status : WaterLevel Float} (hclock : s.observedAt.OnClock) :
    WaterLevel.read s.toJson = .ok status ↔ s.IsReal ∧ status = s := by
  have hback (hs : s.IsReal) : WaterLevel.read s.toJson = .ok s :=
    WaterLevel.read_form showing_id ⟨hs.1, hs.2.1, hs.2.2, hclock⟩
  constructor
  · intro h
    obtain ⟨fields, hfields, -⟩ := bind_eq_ok h
    obtain ⟨seen, hseen, -⟩ := bind_eq_ok hfields
    have hs : s.IsReal :=
      ⟨isFinite_of_checkFields hseen "water_level_cm" (by simp) rfl,
        isFinite_of_checkFields hseen "change_rate" (by simp) rfl,
        isFinite_of_checkFields hseen "critical_percentage" (by simp) rfl⟩
    exact ⟨hs, Except.ok.inj (h.symm.trans (hback hs))⟩
  · rintro ⟨hs, rfl⟩
    exact hback hs

/-- What a report is answered if the reading before it is `previous`. -/
def SensorReport.receipt (r : SensorReport) (now : Instant) (device : SensorDevice) (c : Calibration Float)
    (db : Database) (previous : Option SensorReading) : SensorReceipt :=
  let row := (r.reading now device c).row db
  ⟨row, row.status previous c, c.alert row.level⟩

/-- A request that is accepted is answered in this way, with some reading before it. -/
theorem exists_receipt_of_ingestSensor {now : Instant} {location : LocationId} {r : SensorReport}
    {e after : Engine Database} {receipt : SensorReceipt}
    (h : (ingestSensor DatabaseSource.backend now location r).run.run e = (.ok receipt, after)) :
    ∃ device c previous, r.Storable location e.outside device c ∧
      receipt = r.receipt now device c e.outside previous := by
  have hintake := sensorIntake_ingestSensor now location r e
  rw [h] at hintake
  cases hintake with
  | taken hstorable _ _ hrow _ _ _ =>
    subst hrow
    exact ⟨_, _, _, hstorable, rfl⟩

/-- For every calibration that a device may have and every report that is valid, after any reading: the quantities of
the status are finite if all steps on the way to them are in range. If they are, no number is missing from the answer
nor from the message to subscribers, and its value reads back as the status. If they are not, both have a `null`, and
the value does not read back at all. -/
theorem receipt_real_iff {device : SensorDevice} (hsetting : Proper device.calibration) {c : Calibration Float}
    (hc : device.config = .ok c) {r : SensorReport} (hr : r.validate = .ok ()) (now : Instant) (db : Database)
    (hclock : (r.timestamp.getD now).toMicroseconds.OnClock) (previous : Option SensorReading) :
    let receipt := r.receipt now device c db previous
    let message := Envelope.ofObservation (.waterLevel receipt.status)
    (receipt.status.IsReal ↔ c.InRange r.distance (previous.map (·.level))) ∧
    (HasNull receipt.toJson ↔ ¬receipt.status.IsReal) ∧ (HasNull message.toJson ↔ ¬receipt.status.IsReal) ∧
    ∀ s, WaterLevel.read message.value = .ok s ↔ receipt.status.IsReal ∧ s = receipt.status := by
  intro receipt message
  obtain ⟨hread, husable⟩ := Calibration.ofSetting_eq_ok_iff.mp hc
  have hdistance := SensorReport.isFinite_of_validate hr
  refine ⟨?_, SensorReceipt.hasNull_toJson_iff hdistance rfl, ?_, fun s => WaterLevel.read_toJson_iff hclock⟩
  · exact Calibration.isReal_derive_iff (Calibration.writable_of_read hsetting hread) husable hdistance _
  · exact (WaterLevel.hasNull_envelope_iff _).trans WaterLevel.hasNull_toJson_iff

/-- A sensor on a pier of some height, with a critical level of two metres. -/
def pierSensor (height : Float) : SensorDevice :=
  ⟨1, 7, "North pier", .record [("critical_threshold", .integer 200), ("installation_height", .ofFloat height),
    ("warning_threshold", .integer 150)], none, .year2000⟩

def pierCalibration (height : Float) : Calibration Float :=
  ⟨height, 150.0, 200.0⟩

/-- What a distance is answered that such a sensor measures after another one. -/
def pierReceipt (height before distance : Float) : SensorReceipt :=
  SensorReport.receipt ⟨distance, none⟩ .year2000 (pierSensor height) (pierCalibration height) { now := .year2000 }
    (some ⟨1, 1, (pierCalibration height).levelAt before, before, .year2000, .year2000⟩)

theorem proper_pierSensor (height : Float) : Proper (pierSensor height).calibration :=
  (numeric_record (by simp [numeric_integer, numeric_ofFloat])).proper

theorem config_pierSensor {height : Float} (h : height.isFinite) :
    (pierSensor height).config = .ok (pierCalibration height) := by
  have husable : (pierCalibration height).Usable := by
    show ¬(200.0 : Float) ≤ 0.0
    decide
  rw [SensorDevice.config, pierSensor, ofFloat, if_pos h]
  exact Calibration.ofSetting_eq_ok_iff.mpr ⟨rfl, husable⟩

/-- On a pier of three metres a measurement is in range, and its status is read back. -/
theorem receipt_real_iff_pier :
    let c := pierCalibration 300.5
    let receipt := pierReceipt 300.5 131.0 130.5
    Proper (pierSensor 300.5).calibration ∧ (pierSensor 300.5).config = .ok c ∧
    (SensorReport.mk 130.5 none).validate = .ok () ∧ Instant.year2000.toMicroseconds.OnClock ∧
    c.InRange 130.5 (some (c.levelAt 131.0)) ∧
    WaterLevel.read (Envelope.ofObservation (.waterLevel receipt.status)).value = .ok receipt.status := by
  intro c receipt
  have hproper := proper_pierSensor 300.5
  have hconfig : (pierSensor 300.5).config = .ok c := config_pierSensor (by decide)
  have hvalid : (SensorReport.mk 130.5 none).validate = .ok () := rfl
  have hclock : Instant.year2000.toMicroseconds.OnClock := ⟨by decide, by decide⟩
  have hreal : receipt.status.IsReal := by
    refine ⟨?_, ?_, ?_⟩ <;> decide +kernel
  obtain ⟨hrange, -, -, hback⟩ := receipt_real_iff hproper hconfig hvalid .year2000 { now := .year2000 } hclock
    (some ⟨1, 1, c.levelAt 131.0, 131.0, .year2000, .year2000⟩)
  exact ⟨hproper, hconfig, hvalid, hclock, hrange.mp hreal, (hback receipt.status).mpr ⟨hreal, rfl⟩⟩

/-- On a pier that is out of this world two levels are real, zero and `1e307`, and so is the difference. But it cannot
be rounded to two decimal places, and so the change is lost: both answer and message have a `null`, and the value of the
message does not read back. -/
theorem receipt_unreal_boundless :
    let c := pierCalibration 1e307
    let receipt := pierReceipt 1e307 1e307 0.0
    let message := Envelope.ofObservation (.waterLevel receipt.status)
    Proper (pierSensor 1e307).calibration ∧ (pierSensor 1e307).config = .ok c ∧
    (SensorReport.mk 1e307 none).validate = .ok () ∧ (SensorReport.mk 0.0 none).validate = .ok () ∧
    c.levelAt 1e307 = 0.0 ∧ c.levelAt 0.0 - c.levelAt 1e307 = 1e307 ∧ ¬receipt.status.changeRate.isFinite ∧
    HasNull receipt.toJson ∧ HasNull message.toJson ∧ ∀ s, WaterLevel.read message.value ≠ .ok s := by
  intro c receipt message
  have hfar : (SensorReport.mk 1e307 none).validate = .ok () := if_pos (by decide +kernel)
  have hrate : ¬receipt.status.changeRate.isFinite := by decide +kernel
  have hunreal : ¬receipt.status.IsReal := fun h => hrate h.2.1
  have hclock : receipt.status.observedAt.OnClock := ⟨by decide, by decide⟩
  refine ⟨proper_pierSensor _, config_pierSensor (by decide +kernel), hfar, rfl, by decide +kernel, by decide +kernel,
    hrate, ?_, ?_, fun s hread => ?_⟩
  · exact (SensorReceipt.hasNull_toJson_iff (by decide) rfl).mpr hunreal
  · exact (WaterLevel.hasNull_envelope_iff _).mpr (WaterLevel.hasNull_toJson_iff.mpr hunreal)
  · exact hunreal ((WaterLevel.read_toJson_iff hclock).mp hread).1

end Waterway
