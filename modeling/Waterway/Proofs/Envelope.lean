import Mathlib.Data.List.Nodup
import Waterway.Envelope
import Waterway.Proofs.Json.RoundTrip

/-!
# The text of an envelope

Kind, status and message of an envelope and its value can be read off its text, and nothing else is in it. The field
that holds the value shares a record with those of the status and of the message, and takes the place of neither.

## Main definitions

- `Envelope.content` — the fields of the inner record, as far as their order does not matter

## Main statements

- `exists_toJson` — how an envelope is written
- `content_inj` — different envelopes have different fields
- `text_faithful` — what the text of an envelope reads as, and that different envelopes have different texts

## Design notes

An absent value counts as `null`, and two values are the same if they are so with their fields in order. That the
numbers in a value read back from their own text is a hypothesis; for integers it is `parse?_print_integer`.
-/

namespace Waterway

open Json

theorem EventKind.name_inj {k k' : EventKind} (h : k.name = k'.name) : k = k' := by
  revert h
  cases k <;> cases k' <;> decide

theorem DeliveryStatus.name_inj {s s' : DeliveryStatus} (h : s.name = s'.name) : s = s' := by
  revert h
  cases s <;> cases s' <;> decide

namespace Envelope

/-- The value that is sent. -/
def value (e : Envelope) : Json :=
  e.payload.getD .null

/-- The fields of the inner record, as far as their order does not matter. -/
def content (e : Envelope) : List (String × Json) :=
  [("status", .text e.status.name), ("message", .text e.message), (e.kind.payloadKey, e.value.sorted)]

/-- The value has a field of its own. -/
theorem nodup_content (e : Envelope) : (e.content.map Prod.fst).Nodup := by
  show ["status", "message", e.kind.payloadKey].Nodup
  cases e.kind <;> decide

/-- How an envelope is written: as a record of its kind and of a record that has the rest. -/
theorem exists_toJson (e : Envelope) : ∃ fields data, e.toJson = .record fields ∧
    fields.Perm [("type", .text e.kind.name), ("data", .record data)] ∧ data.Perm e.content := by
  let inner : List (String × Json) :=
    [("status", .text e.status.name), ("message", .text e.message), (e.kind.payloadKey, e.value)]
  have hdata := @perm_sortedFields inner [] e.nodup_content
  have hfields := @perm_sortedFields [("data", .record inner), ("type", .text e.kind.name)] []
    (show ["data", "type"].Nodup by decide)
  exact ⟨_, _, rfl, hfields.trans (.swap _ _ _), hdata⟩

theorem toJson_eq (e : Envelope) : e.toJson = .record (insertField "type" (.text e.kind.name)
    (insertField "data" (.record (e.content.foldl (fun done field => insertField field.1 field.2 done) [])) [])) := by
  simp only [toJson, sorted, sortedFields, content, List.foldl, value]

/-- Nothing but the value brings numbers into the text. -/
theorem legible_toJson {e : Envelope} (h : e.value.Legible) : e.toJson.Legible := by
  refine Legible.sorted fun n hn => h n ?_
  simpa [numbers, fieldNumbers, value] using hn

/-- Fields with different names have the same values if they are the same fields. -/
theorem value_eq_of_perm {fields fields' : List (String × Json)} (hnodup : (fields'.map Prod.fst).Nodup)
    (h : fields.Perm fields') {name : String} {v v' : Json} (hv : (name, v) ∈ fields) (hv' : (name, v') ∈ fields') :
    v = v' :=
  congrArg Prod.snd (List.inj_on_of_nodup_map hnodup (h.mem_iff.mp hv) hv' rfl)

/-- Different envelopes have different fields. -/
theorem content_inj {e e' : Envelope} (hkind : e.kind = e'.kind) (h : e.content.Perm e'.content) :
    e.status = e'.status ∧ e.message = e'.message ∧ e.value.sorted = e'.value.sorted := by
  have hsame {name : String} {v v' : Json} (hv : (name, v) ∈ e.content) (hv' : (name, v') ∈ e'.content) : v = v' :=
    value_eq_of_perm e'.nodup_content h hv hv'
  have hstatus : Json.text e.status.name = .text e'.status.name :=
    hsame List.mem_cons_self List.mem_cons_self
  have hmessage : Json.text e.message = .text e'.message :=
    hsame (List.mem_cons_of_mem _ List.mem_cons_self) (List.mem_cons_of_mem _ List.mem_cons_self)
  have hvalue : e.value.sorted = e'.value.sorted := by
    refine hsame (List.mem_of_getLast? rfl) ?_
    rw [hkind]
    exact List.mem_of_getLast? rfl
  exact ⟨DeliveryStatus.name_inj (Json.text.inj hstatus), Json.text.inj hmessage, hvalue⟩

/-- The text of an envelope reads as a record of two fields, the kind and a record of three more: status, message and
value. Two envelopes have the same text if and only if they agree in all four. -/
theorem text_faithful {e e' : Envelope} (h : e.value.Legible) (h' : e'.value.Legible) :
    (∃ fields data, parse? e.text = some (.record fields) ∧
      fields.Perm [("type", .text e.kind.name), ("data", .record data)] ∧
      data.Perm [("status", .text e.status.name), ("message", .text e.message),
        (e.kind.payloadKey, e.value.sorted)] ∧
      (data.map Prod.fst).Nodup) ∧
    (e.text = e'.text ↔
      e.kind = e'.kind ∧ e.status = e'.status ∧ e.message = e'.message ∧ e.value.sorted = e'.value.sorted) := by
  have hparse {e : Envelope} (h : e.value.Legible) : parse? e.text = some e.toJson := parse?_print (legible_toJson h)
  obtain ⟨fields, data, htoJson, hfields, hdata⟩ := exists_toJson e
  refine ⟨⟨fields, data, by rw [hparse h, htoJson], hfields, hdata, ?_⟩, fun htext => ?_, ?_⟩
  · exact (hdata.map Prod.fst).nodup_iff.mpr e.nodup_content
  · obtain ⟨fields', data', htoJson', hfields', hdata'⟩ := exists_toJson e'
    have hsame : fields = fields' := by
      have hjson : e.toJson = e'.toJson := Option.some_inj.mp (by rw [← hparse h, ← hparse h', htext])
      rw [htoJson, htoJson'] at hjson
      exact Json.record.inj hjson
    have houter := hfields.symm.trans (hsame ▸ hfields')
    have hnodup : ([("type", Json.text e'.kind.name), ("data", .record data')].map Prod.fst).Nodup :=
      show ["type", "data"].Nodup by decide
    have htype : Json.text e.kind.name = .text e'.kind.name :=
      value_eq_of_perm hnodup houter List.mem_cons_self List.mem_cons_self
    have hinner : Json.record data = .record data' :=
      value_eq_of_perm hnodup houter (List.mem_of_getLast? rfl) (List.mem_of_getLast? rfl)
    have hkind : e.kind = e'.kind := EventKind.name_inj (Json.text.inj htype)
    exact ⟨hkind, content_inj hkind (hdata.symm.trans (Json.record.inj hinner ▸ hdata'))⟩
  · rintro ⟨hkind, hstatus, hmessage, hvalue⟩
    have hcontent : e.content = e'.content := by rw [content, content, hkind, hstatus, hmessage, hvalue]
    rw [text, text, toJson_eq e, toJson_eq e', hkind, hcontent]

/-- A stale measurement under a message that has to be escaped. -/
def gauge : Envelope :=
  ⟨.sensorUpdate, .warning, "Pegel \"Süd\" \\ 7\x07",
    some (.record [("trend", .text "rising"), ("levels", .list [.decimal 1.2, .integer (-3)])])⟩

/-- The same without the measurement. -/
def silentGauge : Envelope :=
  { gauge with payload := none }

theorem text_faithful_gauge : gauge.value.Legible ∧ silentGauge.value.Legible ∧ gauge.text ≠ silentGauge.text ∧
    ∃ fields data, parse? gauge.text = some (.record fields) ∧
      fields.Perm [("type", .text "sensor_update"), ("data", .record data)] ∧
      data.Perm [("status", .text "warning"), ("message", .text gauge.message),
        ("sensor_reading", .record [("levels", .list [.decimal 1.2, .integer (-3)]), ("trend", .text "rising")])] := by
  have hlegible : gauge.value.Legible := by
    intro n hn
    obtain rfl | rfl : n = .decimal 1.2 ∨ n = .integer (-3) := by
      simpa [value, gauge, numbers, fieldNumbers, itemNumbers] using hn
    · decide +kernel
    · exact parse?_print_integer (by decide) (by decide)
  have hsilent : silentGauge.value.Legible := fun n hn => absurd hn List.not_mem_nil
  obtain ⟨⟨fields, data, hparse, hfields, hdata, -⟩, hsame⟩ := text_faithful hlegible hsilent
  refine ⟨hlegible, hsilent, fun htext => ?_, fields, data, hparse, hfields, hdata⟩
  obtain ⟨-, -, -, hvalue⟩ := hsame.mp htext
  cases hvalue

end Envelope

end Waterway
