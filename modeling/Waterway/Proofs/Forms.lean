import Waterway.Alert.Json
import Waterway.Observation.Calibration
import Waterway.Proofs.Decimal.Integer
import Waterway.Proofs.Json.Numbers

/-!
# Written forms read back

Thresholds, calibrations, statuses, judgements and analyses are written as JSON and read from it. The values that read
back from their written form are those whose quantities are finite and whose times a clock can show, and a reader
returns no others. Whatever document a value was read from, its written form therefore stands for it.

## Main definitions

- `Blockage.Writable`, `WaterLevel.Writable`, … — the values that have a written form
- `Canonical` — what writing and reading of a type have to do with one another

## Main statements

- `Blockage.read_form`, … — a writable value reads back, however its written form is given
- `Blockage.writable_of_read`, … — what is read is writable
- `canonical_forms` — the forms of all seven types are canonical

## Design notes

A quantity that is no finite number is written as `null`. A leap second that does not end a minute is written like the
second after it.
-/

namespace Waterway

open Json

section

variable {δ : Type} [Document δ] {form : Json → δ} {d : δ}

/-! ## Times and names -/

theorem readInstant_form (h : Showing form) {t : Instant} (ht : t.OnClock) : readInstant (form t.toJson) = .ok t := by
  rw [readInstant, Instant.toJson, h.layer_form _ (by simp)]
  simp only [Document.layer, Layer.map, Instant.parse?_text ht]

theorem onClock_of_readInstant {t : Instant} (h : readInstant d = .ok t) : t.OnClock := by
  unfold readInstant at h
  split at h
  · split at h
    case h_1 hparse =>
      cases h
      exact Instant.onClock_of_parse? hparse
    case h_2 => cases h
  · cases h

theorem isFinite_of_readDouble {x : Float} (hd : Proper d) (h : readDouble d = .ok x) : x.isFinite := by
  have hnumeric := hd.layer
  unfold readDouble at h
  split at h
  case h_1 hlayer =>
    cases h
    rw [hlayer] at hnumeric
    exact Decimal.isFinite_ofInt hnumeric.1 hnumeric.2
  case h_2 hlayer =>
    cases h
    rw [hlayer] at hnumeric
    exact hnumeric
  case h_3 => cases h

theorem isFinite_of_required {type name : String} {declared : List (FieldCheck δ)} {fields : List (String × δ)}
    {x : Float} (hd : Proper d) (hfields : readRecord type declared d = .ok fields)
    (h : required fields name readDouble = .ok x) : x.isFinite := by
  obtain ⟨p, hp, hread⟩ := hd.exists_required hfields h
  exact isFinite_of_readDouble hp hread

theorem onClock_of_required {type name : String} {declared : List (FieldCheck δ)} {fields : List (String × δ)}
    {t : Instant} (hd : Proper d) (hfields : readRecord type declared d = .ok fields)
    (h : required fields name readInstant = .ok t) : t.OnClock := by
  obtain ⟨_, -, hread⟩ := hd.exists_required hfields h
  exact onClock_of_readInstant hread

theorem readInt32_form (h : Showing form) (n : Int32) : readInt32 (form (.integer n.toInt)) = .ok n.toInt := by
  refine h.readInteger _ (Decimal.IntegerRange.contains_iff.mpr ?_)
  have hleast := n.le_toInt
  have hgreatest := n.toInt_lt
  show -((2 ^ 31 : Nat) : Int) ≤ n.toInt ∧ n.toInt ≤ ((2 ^ 31 : Nat) : Int) - 1
  omega

theorem readWord_form (h : Showing form) (n : Int32) : readWord (form (.integer n.toInt)) = .ok n := by
  rw [readWord, readInt32_form h]
  exact congrArg Except.ok n.ofInt_toInt

theorem readByte_form (h : Showing form) (n : UInt8) : readByte (form (.integer n.toNat)) = .ok n.toNat := by
  have hrange : (Decimal.IntegerRange.unsigned 8).contains n.toNat := by
    rw [Decimal.IntegerRange.contains_iff]
    have hgreatest := n.toNat_lt
    show 0 ≤ (n.toNat : Int) ∧ (n.toNat : Int) ≤ ((2 ^ 8 : Nat) : Int) - 1
    omega
  rw [readByte, h.readInteger _ hrange]
  rfl

theorem BlockageLevel.read_form (h : Showing form) (l : BlockageLevel) : BlockageLevel.read (form l.toJson) = .ok l :=
  h.readVariant (by cases l <;> rfl)

theorem Trend.read_form (h : Showing form) (t : Trend) : Trend.read (form t.toJson) = .ok t :=
  h.readVariant (by cases t <;> rfl)

theorem Tier.read_form (h : Showing form) (t : Tier) : Tier.read (form t.toJson) = .ok t :=
  h.readVariant (by cases t <;> rfl)

/-! ## Thresholds and calibrations -/

theorem Thresholds.read_form (h : Showing form) (t : Thresholds) : Thresholds.read (form t.toJson) = .ok t := by
  have hinteger := readInt32_form h
  have hword := readWord_form h
  refine h.readRecord (by simp) ?_ fun fields hfields => ?_
  · simp [FieldCheck.of, hinteger, Except.map]
  · simp only [List.forall_mem_cons] at hfields
    simp [required, hfields, hword, bind, Except.bind]

/-- The quantities of a calibration are finite. -/
structure Calibration.Writable (c : Calibration Float) : Prop where
  height : c.height.isFinite
  warningLevel : c.warningLevel.isFinite
  criticalLevel : c.criticalLevel.isFinite

namespace Calibration

theorem read_form (h : Showing form) {c : Calibration Float} (hc : c.Writable) : read (form c.toJson) = .ok c := by
  have hheight := h.readDouble hc.height
  have hwarning := h.readDouble hc.warningLevel
  have hcritical := h.readDouble hc.criticalLevel
  refine h.readRecord (by simp) ?_ fun fields hfields => ?_
  · simp [FieldCheck.of, hheight, hwarning, hcritical, Except.map]
  · simp only [List.forall_mem_cons] at hfields
    simp [required, hfields, hheight, hwarning, hcritical, bind, Except.bind]

theorem writable_of_read (hd : Proper d) {c : Calibration Float} (h : read d = .ok c) : c.Writable := by
  obtain ⟨fields, hfields, h⟩ := bind_eq_ok h
  obtain ⟨height, hheight, h⟩ := bind_eq_ok h
  obtain ⟨warningLevel, hwarning, h⟩ := bind_eq_ok h
  obtain ⟨criticalLevel, hcritical, h⟩ := bind_eq_ok h
  cases h
  exact ⟨isFinite_of_required hd hfields hheight, isFinite_of_required hd hfields hwarning,
    isFinite_of_required hd hfields hcritical⟩

end Calibration

/-! ## Statuses -/

/-- A clock can show the time of a status. -/
structure Blockage.Writable (s : Blockage) : Prop where
  observedAt : s.observedAt.OnClock

namespace Blockage

theorem read_form (h : Showing form) {s : Blockage} (hs : s.Writable) : read (form s.toJson) = .ok s := by
  have hlevel := BlockageLevel.read_form h s.level
  have htime := readInstant_form h hs.observedAt
  refine h.readRecord (by simp) ?_ fun fields hfields => ?_
  · simp [FieldCheck.of, hlevel, htime, Except.map]
  · simp only [List.forall_mem_cons] at hfields
    simp [required, hfields, hlevel, htime, bind, Except.bind]

theorem writable_of_read (hd : Proper d) {s : Blockage} (h : read d = .ok s) : s.Writable := by
  obtain ⟨fields, hfields, h⟩ := bind_eq_ok h
  obtain ⟨level, -, h⟩ := bind_eq_ok h
  obtain ⟨observedAt, htime, h⟩ := bind_eq_ok h
  cases h
  exact ⟨onClock_of_required hd hfields htime⟩

end Blockage

/-- The quantities of a status are finite, and a clock can show its time. -/
structure WaterLevel.Writable (s : WaterLevel Float) : Prop where
  level : s.level.isFinite
  changeRate : s.changeRate.isFinite
  criticalPercentage : s.criticalPercentage.isFinite
  observedAt : s.observedAt.OnClock

namespace WaterLevel

theorem read_form (h : Showing form) {s : WaterLevel Float} (hs : s.Writable) : read (form s.toJson) = .ok s := by
  have hlevel := h.readDouble hs.level
  have hrate := h.readDouble hs.changeRate
  have hpercentage := h.readDouble hs.criticalPercentage
  have htrend := Trend.read_form h s.trend
  have htime := readInstant_form h hs.observedAt
  refine h.readRecord (by simp) ?_ fun fields hfields => ?_
  · simp [FieldCheck.of, hlevel, hrate, hpercentage, htrend, htime, Except.map]
  · simp only [List.forall_mem_cons] at hfields
    simp [required, hfields, hlevel, hrate, hpercentage, htrend, htime, bind, Except.bind]

theorem writable_of_read (hd : Proper d) {s : WaterLevel Float} (h : read d = .ok s) : s.Writable := by
  obtain ⟨fields, hfields, h⟩ := bind_eq_ok h
  obtain ⟨level, hlevel, h⟩ := bind_eq_ok h
  obtain ⟨changeRate, hrate, h⟩ := bind_eq_ok h
  obtain ⟨criticalPercentage, hpercentage, h⟩ := bind_eq_ok h
  obtain ⟨trend, -, h⟩ := bind_eq_ok h
  obtain ⟨observedAt, htime, h⟩ := bind_eq_ok h
  cases h
  exact ⟨isFinite_of_required hd hfields hlevel, isFinite_of_required hd hfields hrate,
    isFinite_of_required hd hfields hpercentage, onClock_of_required hd hfields htime⟩

end WaterLevel

/-- The precipitation of a status is finite, and a clock can show its time. -/
structure Weather.Writable (s : Weather Float) : Prop where
  precipitation : s.precipitation.isFinite
  observedAt : s.observedAt.OnClock

namespace Weather

theorem read_form (h : Showing form) {s : Weather Float} (hs : s.Writable) : read (form s.toJson) = .ok s := by
  have hprecipitation := h.readDouble hs.precipitation
  have hcondition := h.readText s.condition
  have htime := readInstant_form h hs.observedAt
  refine h.readRecord (by simp) ?_ fun fields hfields => ?_
  · simp [FieldCheck.of, hprecipitation, hcondition, htime, Except.map]
  · simp only [List.forall_mem_cons] at hfields
    simp [required, hfields, hprecipitation, hcondition, htime, bind, Except.bind]

theorem writable_of_read (hd : Proper d) {s : Weather Float} (h : read d = .ok s) : s.Writable := by
  obtain ⟨fields, hfields, h⟩ := bind_eq_ok h
  obtain ⟨precipitation, hprecipitation, h⟩ := bind_eq_ok h
  obtain ⟨condition, -, h⟩ := bind_eq_ok h
  obtain ⟨observedAt, htime, h⟩ := bind_eq_ok h
  cases h
  exact ⟨isFinite_of_required hd hfields hprecipitation, onClock_of_required hd hfields htime⟩

end Weather

/-! ## Judgements and analyses -/

theorem Judgement.read_form (h : Showing form) (j : Judgement) : Judgement.read (form j.toJson) = .ok j := by
  have htier := Tier.read_form h j.tier
  have hscore := readByte_form h j.score
  have hconditions := h.readList h.readText j.conditions
  refine h.readRecord (by simp) ?_ fun fields hfields => ?_
  · simp [FieldCheck.of, htier, hscore, hconditions, Except.map]
  · simp only [List.forall_mem_cons] at hfields
    simp [required, hfields, htier, hscore, hconditions, bind, Except.bind]

/-- The three statuses of an analysis can be written. -/
structure Analysis.Writable (a : Analysis Float) : Prop where
  blockage : a.blockage.Writable
  waterLevel : a.waterLevel.Writable
  weather : a.weather.Writable

namespace Analysis

theorem read_form (h : Showing form) {a : Analysis Float} (ha : a.Writable) : read (form a.toJson) = .ok a := by
  have hjudgement := Judgement.read_form h a.judgement
  have hblockage := Blockage.read_form h ha.blockage
  have hwaterLevel := WaterLevel.read_form h ha.waterLevel
  have hweather := Weather.read_form h ha.weather
  refine h.readRecord (by simp) ?_ fun fields hfields => ?_
  · simp [FieldCheck.of, hjudgement, hblockage, hwaterLevel, hweather, Except.map]
  · simp only [List.forall_mem_cons] at hfields
    simp [required, hfields, hjudgement, hblockage, hwaterLevel, hweather, bind, Except.bind]

theorem writable_of_read (hd : Proper d) {a : Analysis Float} (h : read d = .ok a) : a.Writable := by
  obtain ⟨fields, hfields, h⟩ := bind_eq_ok h
  obtain ⟨judgement, -, h⟩ := bind_eq_ok h
  obtain ⟨blockage, hblockage, h⟩ := bind_eq_ok h
  obtain ⟨waterLevel, hwaterLevel, h⟩ := bind_eq_ok h
  obtain ⟨weather, hweather, h⟩ := bind_eq_ok h
  cases h
  obtain ⟨_, hd₁, hread₁⟩ := hd.exists_required hfields hblockage
  obtain ⟨_, hd₂, hread₂⟩ := hd.exists_required hfields hwaterLevel
  obtain ⟨_, hd₃, hread₃⟩ := hd.exists_required hfields hweather
  exact ⟨Blockage.writable_of_read hd₁ hread₁, WaterLevel.writable_of_read hd₂ hread₂,
    Weather.writable_of_read hd₃ hread₃⟩

end Analysis

end

/-! ## Canonical forms -/

/-- The writable values of a type are those that read back from their written form, and a reader returns no others. -/
structure Canonical {α : Type} (encode : α → Json) (read : {δ : Type} → [Document δ] → δ → Except ReadError α)
    (Writable : α → Prop) : Prop where
  reads_back : ∀ a, read (encode a) = .ok a ↔ Writable a
  /-- The text of a written form, with its fields in any order, reads back as a value and as it arrives. -/
  reads_text : ∀ order : List (String × Json) → List (String × Json), (∀ fields, (order fields).Perm fields) →
    ∀ a, Writable a → (encode a).Legible → ∃ v, parse? ((encode a).arranged order).print = some v ∧ read v = .ok a ∧
      read (Draft.ofText ((encode a).arranged order).print).1 = .ok a
  /-- What is read of a document, such as a value, reads back. -/
  accepted : ∀ {δ : Type} [Document δ] {d : δ} {a : α}, Proper d → read d = .ok a → read (encode a) = .ok a
  /-- So does what is read of a text as it arrives. -/
  accepted_text : ∀ {s : String} {a : α}, read (Draft.ofText s).1 = .ok a → read (encode a) = .ok a

/-- Reading takes writable values from proper documents, and takes them back from what is written. -/
theorem Canonical.of_read {α : Type} {encode : α → Json} {Writable : α → Prop}
    {read : {δ : Type} → [Document δ] → δ → Except ReadError α}
    (hform : ∀ {δ : Type} [Document δ] {form : Json → δ}, Showing form → ∀ {a}, Writable a →
      read (form (encode a)) = .ok a)
    (hread : ∀ {δ : Type} [Document δ] {d : δ}, Proper d → ∀ {a}, read d = .ok a → Writable a)
    (hnumeric : ∀ a, (encode a).Numeric) : Canonical encode read Writable where
  reads_back a := ⟨hread (hnumeric a).proper, hform showing_id⟩
  reads_text order horder a ha hlegible := by
    have harranged := hlegible.arranged horder
    refine ⟨_, parse?_print harranged, hform (showing_id.arranged horder) ha, ?_⟩
    rw [ofText_print harranged]
    exact hform (showing_toDraft.arranged horder) ha
  accepted hd h := hform showing_id (hread hd h)
  accepted_text {s} _ h := hform showing_id (hread (Draft.proper_ofText s) h)

/-! ## Numbers that are written -/

theorem Thresholds.numeric_toJson (t : Thresholds) : t.toJson.Numeric := by
  have hword (n : Int32) : (Json.integer n.toInt).Numeric := by
    have hleast := n.le_toInt
    have hgreatest := n.toInt_lt
    exact numeric_integer (by omega) (by omega)
  refine numeric_record ?_
  simp [hword]

theorem Calibration.numeric_toJson (c : Calibration Float) : c.toJson.Numeric := by
  refine numeric_record ?_
  simp [numeric_ofFloat]

theorem Blockage.numeric_toJson (s : Blockage) : s.toJson.Numeric := by
  refine numeric_record ?_
  simp [Instant.toJson, BlockageLevel.toJson, numeric_text]

theorem WaterLevel.numeric_toJson (s : WaterLevel Float) : s.toJson.Numeric := by
  refine numeric_record ?_
  simp [Instant.toJson, Trend.toJson, numeric_text, numeric_ofFloat]

theorem Weather.numeric_toJson (s : Weather Float) : s.toJson.Numeric := by
  refine numeric_record ?_
  simp [Instant.toJson, numeric_text, numeric_ofFloat]

theorem Judgement.numeric_toJson (j : Judgement) : j.toJson.Numeric := by
  have hscore : (Json.integer j.score.toNat).Numeric := by
    have hgreatest := j.score.toNat_lt
    exact numeric_integer (by omega) (by omega)
  have hconditions : (Json.list (j.conditions.map .text)).Numeric :=
    numeric_list (by simp [numeric_text])
  refine numeric_record ?_
  simp [Tier.toJson, numeric_text, hscore, hconditions]

theorem Analysis.numeric_toJson (a : Analysis Float) : a.toJson.Numeric := by
  refine numeric_record ?_
  simp [a.blockage.numeric_toJson, a.judgement.numeric_toJson, a.waterLevel.numeric_toJson, a.weather.numeric_toJson]

/-- The written forms of thresholds, calibrations, statuses, judgements and analyses read back, and stand for whatever
they were read from: objects with other fields as well or in another order, lists of the fields, integers in place of
doubles, times with any offset or fraction. -/
theorem canonical_forms :
    Canonical Thresholds.toJson Thresholds.read (fun _ => True) ∧
    Canonical Calibration.toJson Calibration.read Calibration.Writable ∧
    Canonical Blockage.toJson Blockage.read Blockage.Writable ∧
    Canonical WaterLevel.toJson WaterLevel.read WaterLevel.Writable ∧
    Canonical Weather.toJson Weather.read Weather.Writable ∧
    Canonical Judgement.toJson Judgement.read (fun _ => True) ∧
    Canonical Analysis.toJson Analysis.read Analysis.Writable := by
  refine ⟨.of_read ?_ (fun _ _ _ => trivial) Thresholds.numeric_toJson,
    .of_read Calibration.read_form Calibration.writable_of_read Calibration.numeric_toJson,
    .of_read Blockage.read_form Blockage.writable_of_read Blockage.numeric_toJson,
    .of_read WaterLevel.read_form WaterLevel.writable_of_read WaterLevel.numeric_toJson,
    .of_read Weather.read_form Weather.writable_of_read Weather.numeric_toJson,
    .of_read ?_ (fun _ _ _ => trivial) Judgement.numeric_toJson,
    .of_read Analysis.read_form Analysis.writable_of_read Analysis.numeric_toJson⟩
  · exact fun h t _ => Thresholds.read_form h t
  · exact fun h j _ => Judgement.read_form h j

/-- Rain in the last leap second of 2016. -/
def newYearRain : Weather Float :=
  ⟨3, "Rain", ⟨⟨2016, 12, 31, by decide, by decide⟩, 86399, 1500000000, by decide, by decide⟩⟩

theorem canonical_forms_newYear :
    Weather.read (Draft.ofText "[3, \"Rain\", \"2016-12-31T18:59:60.5-05:00\"]").1 = .ok newYearRain ∧
    Weather.read newYearRain.toJson = .ok newYearRain ∧
    newYearRain.toJson.print =
      "\x7b\"condition\":\"Rain\",\"observed_at\":\"2016-12-31T23:59:60.500Z\",\"precipitation_mm\":3.0\x7d" := by
  have hread : Weather.read (Draft.ofText "[3, \"Rain\", \"2016-12-31T18:59:60.5-05:00\"]").1 = .ok newYearRain := rfl
  obtain ⟨-, -, -, -, hweather, -, -⟩ := canonical_forms
  exact ⟨hread, hweather.accepted_text hread, by decide +kernel⟩

end Waterway
