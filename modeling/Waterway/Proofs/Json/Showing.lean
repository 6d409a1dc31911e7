import Waterway.Proofs.Json.Documents
import Waterway.Proofs.Json.RoundTrip
import Waterway.Proofs.Keyed

/-!
# Values shown as documents

A reader works on values and on what a text says of them alike, and does not ask for the order in which the fields of a
record stand. What it makes of a value is therefore stated for every way in which the value may be given.

## Main definitions

- `Showing` — a way in which values are given as documents
- `Json.arranged` — a value with the fields of its records in another order

## Main statements

- `showing_id`, `showing_toDraft`, `Showing.arranged` — values stand for themselves and for their drafts, in any order
- `Showing.proper` — a value is proper if it is shown as a proper document
- `Showing.readRecord` — what is made of a record is made of its fields
-/

namespace Waterway.Json

open Document

/-! ## Showing values -/

section

variable {δ β : Type} [Document δ]

/-- The layer with other documents in it. -/
def Layer.map {α : Type} (f : α → δ) : Layer α → Layer δ
  | .null => .null
  | .bool b => .bool b
  | .integer n => .integer n
  | .decimal x => .decimal x
  | .text s => .text s
  | .list items complete => .list (items.map f) complete
  | .record fields complete => .record (fields.map fun field => (field.1, f field.2)) complete
  | .gap => .gap

/-- A way in which values are given as documents, layer by layer, with the fields of records in any order. -/
structure Showing (form : Json → δ) : Prop where
  layer_form : ∀ v, (∀ fields, v ≠ .record fields) → layer (form v) = (layer v).map form
  layer_record : ∀ fields, ∃ given, layer (form (.record fields)) = .record given true ∧
    given.Perm (fields.map fun field => (field.1, form field.2))

theorem showing_id : Showing (id : Json → Json) where
  layer_form v _ := by cases v <;> simp [layer, Layer.map]
  layer_record fields := ⟨fields, rfl, .of_eq (List.map_id' fields).symm⟩

theorem itemDrafts_eq_map (items : List Json) : itemDrafts items = items.map toDraft := by
  induction items with
  | nil => rfl
  | cons item rest ih => rw [itemDrafts, ih, List.map_cons]

theorem fieldDrafts_eq_map (fields : List (String × Json)) :
    fieldDrafts fields = fields.map fun field => (field.1, field.2.toDraft) := by
  induction fields with
  | nil => rfl
  | cons field rest ih => rw [fieldDrafts, ih, List.map_cons]

theorem showing_toDraft : Showing toDraft where
  layer_form v hv := by
    cases v with
    | list items => simp [layer, toDraft, Layer.map, itemDrafts_eq_map]
    | record fields => exact absurd rfl (hv fields)
    | _ => rfl
  layer_record fields := ⟨_, rfl, .of_eq (fieldDrafts_eq_map fields)⟩

mutual

/-- The value with the fields of each record put in another order. -/
def arranged (order : List (String × Json) → List (String × Json)) : Json → Json
  | .list items => .list (arrangedItems order items)
  | .record fields => .record (order (arrangedFields order fields))
  | value => value

def arrangedItems (order : List (String × Json) → List (String × Json)) : List Json → List Json
  | [] => []
  | item :: rest => item.arranged order :: arrangedItems order rest

def arrangedFields (order : List (String × Json) → List (String × Json)) : List (String × Json) → List (String × Json)
  | [] => []
  | (name, value) :: rest => (name, value.arranged order) :: arrangedFields order rest

end

section

variable {order : List (String × Json) → List (String × Json)}

theorem arrangedItems_eq_map (items : List Json) : arrangedItems order items = items.map (arranged order) := by
  induction items with
  | nil => rfl
  | cons item rest ih => rw [arrangedItems, ih, List.map_cons]

theorem arrangedFields_eq_map (fields : List (String × Json)) :
    arrangedFields order fields = fields.map fun field => (field.1, field.2.arranged order) := by
  induction fields with
  | nil => rfl
  | cons field rest ih => rw [arrangedFields, ih, List.map_cons]

mutual

/-- A value in another arrangement has no other numbers. -/
theorem numbers_arranged (horder : ∀ fields, (order fields).Perm fields) :
    ∀ (v : Json) {n : Json}, n ∈ (v.arranged order).numbers → n ∈ v.numbers
  | .null, _, h | .bool _, _, h | .integer _, _, h | .decimal _, _, h | .text _, _, h => h
  | .list items, _, h => itemNumbers_arrangedItems horder items h
  | .record fields, n, h => by
    obtain ⟨field, hfield, hn⟩ := mem_fieldNumbers.mp h
    have hmem : n ∈ fieldNumbers (arrangedFields order fields) :=
      mem_fieldNumbers.mpr ⟨field, (horder _).mem_iff.mp hfield, hn⟩
    exact fieldNumbers_arrangedFields horder fields hmem

theorem itemNumbers_arrangedItems (horder : ∀ fields, (order fields).Perm fields) :
    ∀ (items : List Json) {n : Json}, n ∈ itemNumbers (arrangedItems order items) → n ∈ itemNumbers items
  | [], _, h => h
  | item :: rest, _, h => (List.mem_append.mp h).elim
      (fun h => List.mem_append_left _ (numbers_arranged horder item h))
      (fun h => List.mem_append_right _ (itemNumbers_arrangedItems horder rest h))

theorem fieldNumbers_arrangedFields (horder : ∀ fields, (order fields).Perm fields) :
    ∀ (fields : List (String × Json)) {n : Json}, n ∈ fieldNumbers (arrangedFields order fields) →
      n ∈ fieldNumbers fields
  | [], _, h => h
  | (_, value) :: rest, _, h => (List.mem_append.mp h).elim
      (fun h => List.mem_append_left _ (numbers_arranged horder value h))
      (fun h => List.mem_append_right _ (fieldNumbers_arrangedFields horder rest h))

end

theorem Legible.arranged {v : Json} (h : v.Legible) (horder : ∀ fields, (order fields).Perm fields) :
    (v.arranged order).Legible :=
  fun n hn => h n (numbers_arranged horder v hn)

/-- Values stand for themselves in any arrangement, given in any way. -/
theorem Showing.arranged {form : Json → δ} (h : Showing form) (horder : ∀ fields, (order fields).Perm fields) :
    Showing (form ∘ arranged order) where
  layer_form v hv := by
    cases v with
    | list items =>
      have hform := h.layer_form (.list (items.map (Json.arranged order))) (fun _ => nofun)
      rw [Function.comp, Json.arranged, arrangedItems_eq_map, hform]
      simp [layer, Layer.map]
    | record fields => exact absurd rfl (hv fields)
    | _ => exact h.layer_form _ hv
  layer_record fields := by
    obtain ⟨given, hlayer, hgiven⟩ := h.layer_record (order (arrangedFields order fields))
    refine ⟨given, hlayer, hgiven.trans (((horder _).map _).trans (.of_eq ?_))⟩
    rw [arrangedFields_eq_map, List.map_map]
    rfl

end

section

variable {form : Json → δ} {v p : Json}

theorem Showing.part (h : Showing form) (hp : Part p v) : Part (form p) (form v) := by
  induction hp with
  | self => exact .self
  | @item d item items complete hlayer hmem _ ih =>
    cases d <;> cases hlayer
    exact .item (h.layer_form (.list items) (by simp)) (List.mem_map_of_mem hmem) ih
  | @field d field fields complete hlayer hmem _ ih =>
    cases d <;> cases hlayer
    obtain ⟨given, hgiven, hperm⟩ := h.layer_record fields
    have hfield : (field.1, form field.2) ∈ given := hperm.mem_iff.mpr (List.mem_map.mpr ⟨field, hmem, rfl⟩)
    exact .field hgiven hfield ih

theorem Showing.proper (h : Showing form) (hv : Proper (form v)) : Proper v := by
  intro p hp
  have hform := hv (form p) (h.part hp)
  cases p with
  | integer | decimal =>
    rw [h.layer_form _ (by simp)] at hform
    exact hform
  | _ => trivial

end

/-! ## Reading what is shown -/

/-- Fields with different names that all pass their tests are read, whatever their order. -/
theorem checkFields_of_pass {declared : List (FieldCheck δ)} {seen fields : List (String × δ)}
    (hnodup : ((fields ++ seen).map Prod.fst).Nodup)
    (hpass : ∀ field ∈ fields, ∃ c, declared.find? (·.name == field.1) = some c ∧ c.check field.2 = .ok ()) :
    checkFields declared seen fields = .ok (fields.reverse ++ seen) := by
  induction fields generalizing seen with
  | nil => rfl
  | cons field rest ih =>
    obtain ⟨c, hfind, hcheck⟩ := hpass field List.mem_cons_self
    have hmiddle : ((rest ++ field :: seen).map Prod.fst).Nodup :=
      (List.perm_middle.map Prod.fst).nodup_iff.mpr hnodup
    have hfresh : ¬(seen.lookup field.1).isSome := by
      intro hseen
      obtain ⟨p, hp⟩ := Option.isSome_iff_exists.mp hseen
      obtain ⟨before, after, rfl, -⟩ := List.lookup_eq_some_iff.mp hp
      simp at hnodup
    rw [checkFields, hfind]
    dsimp only
    rw [if_neg hfresh, hcheck]
    show checkFields declared (field :: seen) rest = _
    rw [ih hmiddle fun f hf => hpass f (List.mem_cons_of_mem _ hf), List.reverse_cons, List.append_assoc]
    rfl

namespace Showing

variable {form : Json → δ} (h : Showing form)
include h

theorem readText (s : String) : Json.readText (form (.text s)) = .ok s := by
  rw [Json.readText, h.layer_form _ (by simp)]
  rfl

theorem readDouble {x : Float} (hx : x.isFinite) : Json.readDouble (form (.ofFloat x)) = .ok x := by
  rw [ofFloat, if_pos hx, Json.readDouble, h.layer_form _ (by simp)]
  rfl

theorem readInteger {range : Decimal.IntegerRange} {n : Int} (expected : String) (hn : range.contains n) :
    Json.readInteger range expected (form (.integer n)) = .ok n := by
  rw [Json.readInteger, h.layer_form _ (by simp)]
  exact if_pos hn

theorem readVariant {variants : List (String × β)} {name : String} {b : β} (hname : variants.lookup name = some b) :
    Json.readVariant variants (form (.text name)) = .ok b := by
  rw [Json.readVariant, h.layer_form _ (by simp)]
  show variantNamed variants name = .ok b
  rw [variantNamed, hname]

theorem readList {item : δ → Except ReadError β} {encode : β → Json} (hitem : ∀ b, item (form (encode b)) = .ok b)
    (bs : List β) : Json.readList item (form (.list (bs.map encode))) = .ok bs := by
  have hitems : ((bs.map encode).map form).mapM item = .ok bs := by
    induction bs with
    | nil => rfl
    | cons b bs ih =>
      rw [List.map_cons, List.map_cons, List.mapM_cons, hitem, ih]
      rfl
  rw [Json.readList, h.layer_form _ (by simp)]
  show ((bs.map encode).map form).mapM item >>= _ = _
  rw [hitems]
  rfl

/-- A record whose fields have different names and all pass their tests is read. -/
theorem exists_readRecord (type : String) {declared : List (FieldCheck δ)} {fields : List (String × Json)}
    (hnodup : (fields.map Prod.fst).Nodup)
    (hpass : ∀ field ∈ fields, ∃ c, declared.find? (·.name == field.1) = some c ∧ c.check (form field.2) = .ok ()) :
    ∃ read, Json.readRecord type declared (form (.record fields)) = .ok read ∧
      ∀ field ∈ fields, read.lookup field.1 = some (form field.2) := by
  obtain ⟨given, hlayer, hgiven⟩ := h.layer_record fields
  have hnames : (given.map Prod.fst).Perm (fields.map Prod.fst) := by
    have hmap := hgiven.map Prod.fst
    rwa [List.map_map] at hmap
  have hread : checkFields declared [] given = .ok (given.reverse ++ []) := by
    refine checkFields_of_pass (by rw [List.append_nil]; exact hnames.nodup_iff.mpr hnodup) fun field hfield => ?_
    obtain ⟨written, hwritten, rfl⟩ := List.mem_map.mp (hgiven.mem_iff.mp hfield)
    exact hpass written hwritten
  refine ⟨given.reverse, ?_, fun field hfield => ?_⟩
  · rw [Json.readRecord, hlayer]
    show checkFields declared [] given >>= Except.ok = _
    rw [hread, List.append_nil]
    rfl
  · have hmem : (field.1, form field.2) ∈ given := hgiven.mem_iff.mpr (List.mem_map.mpr ⟨field, hfield, rfl⟩)
    refine Keyed.lookup_of_mem ?_ (List.mem_reverse.mpr hmem)
    exact ((given.reverse_perm.map Prod.fst).trans hnames).nodup_iff.mpr hnodup

/-- What is made of a record is made of its fields. -/
theorem readRecord {type : String} {declared : List (FieldCheck δ)} {fields : List (String × Json)} {b : β}
    {next : List (String × δ) → Except ReadError β} (hnodup : (fields.map Prod.fst).Nodup)
    (hpass : ∀ field ∈ fields, ∃ c, declared.find? (·.name == field.1) = some c ∧ c.check (form field.2) = .ok ())
    (hnext : ∀ read, (∀ field ∈ fields, read.lookup field.1 = some (form field.2)) → next read = .ok b) :
    Json.readRecord type declared (form (.record fields)) >>= next = .ok b := by
  obtain ⟨read, hread, hlookup⟩ := h.exists_readRecord type hnodup hpass
  rw [hread]
  exact hnext read hlookup

end Showing

end

end Waterway.Json
