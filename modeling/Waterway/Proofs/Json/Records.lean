import Mathlib.Data.List.Forall2
import Waterway.Proofs.Json.Documents
import Waterway.Proofs.Keyed

/-!
# Values that are read as records

A record may be given as an object or as a list. Fields that were not asked for are passed over, and every field that
was asked for is given once and by itself: nothing stands in for one that is missing.

## Main definitions

- `Gives` — a value gives the fields of a record, with their values

## Main statements

- `lookup_checkFields_iff`, `exists_checkFields` — the fields of an object are read one by one
- `checkItems_eq_ok_iff` — the items of a list stand for the fields in order
- `exists_readRecord_iff` — a record is read when it gives each field with a value that passes its test
- `three_required_iff` — a record of three fields of one kind is read when all three can be read

## Design notes

A value taken from a text names no field twice. `Gives` says so of the fields asked for, and readers refuse a value that
does otherwise.
-/

namespace Waterway.Json

open Document Keyed

/-- A value gives the fields of a record: an object names each of them once, beside other fields, and a list has the
values of all of them in order. -/
inductive Gives (names : List String) (values : List Json) : Json → Prop
  | record {fields : List (String × Json)}
      (h : List.Forall₂ (fun name value => under name fields = [value]) names values) :
      Gives names values (.record fields)
  | list (h : names.length = values.length) : Gives names values (.list values)

section

variable {names : List String} {values : List Json}

theorem gives_record_iff {fields : List (String × Json)} :
    Gives names values (.record fields) ↔
      List.Forall₂ (fun name value => under name fields = [value]) names values :=
  ⟨fun h => by cases h; assumption, .record⟩

theorem gives_list_iff {items : List Json} :
    Gives names values (.list items) ↔ names.length = items.length ∧ values = items := by
  constructor
  · rintro ⟨⟩
    exact ⟨by assumption, rfl⟩
  · rintro ⟨hlength, rfl⟩
    exact .list hlength

theorem Gives.length_eq {v : Json} (h : Gives names values v) : names.length = values.length := by
  cases h with
  | record h => exact h.length_eq
  | list h => exact h

end

/-! ## Objects -/

section

variable {declared : List (FieldCheck Json)} {seen fields read : List (String × Json)} {name : String} {value : Json}
  {c : FieldCheck Json}

theorem ne_of_find?_eq_none {other : String} (hother : declared.find? (·.name == other) = none)
    (hc : declared.find? (·.name == name) = some c) : other ≠ name := by
  rintro rfl
  rw [hother] at hc
  cases hc

/-- A field that was asked for is read if it was met before, or else if it is given once with a value that passes its
test. -/
theorem lookup_checkFields_iff (h : checkFields declared seen fields = .ok read)
    (hc : declared.find? (·.name == name) = some c) :
    read.lookup name = some value ↔
      (seen.lookup name = some value ∧ under name fields = []) ∨
      (seen.lookup name = none ∧ under name fields = [value] ∧ c.check value = .ok ()) := by
  induction fields generalizing seen with
  | nil =>
    cases h
    simp [under]
  | cons field rest ih =>
    obtain ⟨other, found⟩ := field
    rw [checkFields] at h
    split at h
    case h_1 hunknown =>
      rw [under_cons_of_ne (ne_of_find?_eq_none hunknown hc)]
      exact ih h
    case h_2 c' hknown =>
      split at h
      case isTrue => cases h
      case isFalse hfresh =>
        obtain ⟨⟨⟩, hcheck, h⟩ := bind_eq_ok h
        rw [ih h]
        by_cases hname : other = name
        · subst hname
          have hnone : seen.lookup other = none := Option.not_isSome_iff_eq_none.mp hfresh
          obtain rfl : c' = c := Option.some.inj (hknown.symm.trans hc)
          rw [under_cons_self, hnone, List.lookup_cons_self]
          constructor
          · rintro (⟨hfound, hrest⟩ | ⟨hnone, -⟩)
            · cases hfound
              exact .inr ⟨rfl, by rw [hrest], hcheck⟩
            · cases hnone
          · rintro (⟨hnone, -⟩ | ⟨-, hvalue, -⟩)
            · cases hnone
            · obtain ⟨rfl, hrest⟩ := List.cons.inj hvalue
              exact .inl ⟨rfl, hrest⟩
        · rw [under_cons_of_ne hname, List.lookup_cons, beq_false_of_ne (Ne.symm hname)]

/-- Fields are read if each of those that were asked for is given at most once, with a value that passes its test, and
was not met before. -/
theorem exists_checkFields
    (h : ∀ name c, declared.find? (·.name == name) = some c → under name fields = [] ∨
      seen.lookup name = none ∧ ∃ value, under name fields = [value] ∧ c.check value = .ok ()) :
    ∃ read, checkFields declared seen fields = .ok read := by
  induction fields generalizing seen with
  | nil => exact ⟨seen, rfl⟩
  | cons field rest ih =>
    obtain ⟨other, found⟩ := field
    rw [checkFields]
    split
    case h_1 hunknown =>
      refine ih fun name c hc => ?_
      rw [← under_cons_of_ne (ne_of_find?_eq_none hunknown hc) found]
      exact h name c hc
    case h_2 c hknown =>
      rcases h other c hknown with hnone | ⟨hfresh, value, hvalue, hcheck⟩
      · rw [under_cons_self] at hnone
        cases hnone
      · rw [under_cons_self] at hvalue
        obtain ⟨rfl, hrest⟩ := List.cons.inj hvalue
        rw [hfresh, hcheck]
        refine ih fun name c' hc' => ?_
        by_cases hname : other = name
        · subst hname
          exact .inl hrest
        · rw [← under_cons_of_ne hname found, List.lookup_cons, beq_false_of_ne (Ne.symm hname)]
          exact h name c' hc'

end

/-! ## Lists -/

/-- The items of a list are read if there is one for each field, and it passes the test of that field. -/
theorem checkItems_eq_ok_iff {expected : String} {done : Nat} {declared : List (FieldCheck Json)} {items : List Json}
    {read : List (String × Json)} :
    checkItems expected true done declared items = .ok read ↔
      List.Forall₂ (fun c item => c.check item = .ok ()) declared items ∧ read = (declared.map (·.name)).zip items := by
  induction declared generalizing done items read with
  | nil =>
    cases items with
    | nil => simp [checkItems, eq_comm]
    | cons item items => simp [checkItems]
  | cons c declared ih =>
    cases items with
    | nil => simp [checkItems]
    | cons item items =>
      rw [checkItems, List.forall₂_cons]
      constructor
      · intro h
        obtain ⟨⟨⟩, hcheck, h⟩ := bind_eq_ok h
        obtain ⟨rest, hrest, h⟩ := bind_eq_ok h
        obtain ⟨hitems, rfl⟩ := ih.mp hrest
        cases h
        exact ⟨⟨hcheck, hitems⟩, rfl⟩
      · rintro ⟨⟨hcheck, hitems⟩, rfl⟩
        rw [hcheck]
        show checkItems expected true (done + 1) declared items >>= _ = _
        rw [ih.mpr ⟨hitems, rfl⟩]
        rfl

/-! ## Records -/

section

variable {declared : List (FieldCheck Json)} {values : List Json}

theorem forall₂_and_iff {α β : Type} {P Q : α → β → Prop} {as : List α} {bs : List β} :
    List.Forall₂ (fun a b => P a b ∧ Q a b) as bs ↔ List.Forall₂ P as bs ∧ List.Forall₂ Q as bs := by
  constructor
  · exact fun h => ⟨h.imp fun _ _ => And.left, h.imp fun _ _ => And.right⟩
  · exact fun ⟨hP, hQ⟩ => List.Forall₂.mp (fun _ _ => And.intro) hP hQ

/-- An object is read when it names each field once, with a value that passes its test. -/
theorem exists_checkFields_iff (hnodup : (declared.map (·.name)).Nodup) {fields : List (String × Json)} :
    (∃ read, checkFields declared [] fields = .ok read ∧
      List.Forall₂ (fun c value => read.lookup c.name = some value) declared values) ↔
    List.Forall₂ (fun c value => under c.name fields = [value] ∧ c.check value = .ok ()) declared values := by
  have hfind {c} (hc : c ∈ declared) : declared.find? (·.name == c.name) = some c := find?_of_mem hnodup hc
  constructor
  · rintro ⟨read, hread, hlookup⟩
    obtain ⟨hlength, hlookup⟩ := List.forall₂_iff_zip.mp hlookup
    refine List.forall₂_iff_zip.mpr ⟨hlength, fun {c value} hmem => ?_⟩
    simpa using (lookup_checkFields_iff hread (hfind (List.of_mem_zip hmem).1)).mp (hlookup hmem)
  · intro h
    obtain ⟨hlength, hgiven⟩ := List.forall₂_iff_zip.mp h
    obtain ⟨read, hread⟩ : ∃ read, checkFields declared [] fields = .ok read := by
      refine exists_checkFields fun name c hc => .inr ⟨rfl, ?_⟩
      have hname : c.name = name := by simpa using List.find?_some hc
      have hmem : c ∈ (declared.zip values).map Prod.fst := by
        rw [List.map_fst_zip (Nat.le_of_eq hlength)]
        exact List.mem_of_find?_eq_some hc
      obtain ⟨⟨c, value⟩, hgiven', rfl⟩ := List.mem_map.mp hmem
      exact hname ▸ ⟨value, hgiven hgiven'⟩
    refine ⟨read, hread, List.forall₂_iff_zip.mpr ⟨hlength, fun {c value} hmem => ?_⟩⟩
    rw [lookup_checkFields_iff hread (hfind (List.of_mem_zip hmem).1)]
    exact .inr ⟨rfl, hgiven hmem⟩

/-- The items of a list are the values of the fields, in order. -/
theorem forall₂_lookup_zip_iff (hnodup : (declared.map (·.name)).Nodup) {items : List Json}
    (hlength : declared.length = items.length) :
    List.Forall₂ (fun c value => ((declared.map (·.name)).zip items).lookup c.name = some value) declared values ↔
      values = items := by
  have hitems : List.Forall₂ (fun c item => ((declared.map (·.name)).zip items).lookup c.name = some item)
      declared items := by
    refine List.forall₂_iff_zip.mpr ⟨hlength, fun {c item} hmem => lookup_of_mem ?_ ?_⟩
    · rwa [List.map_fst_zip (by simp [hlength])]
    · rw [List.zip_map_left]
      exact List.mem_map.mpr ⟨(c, item), hmem, rfl⟩
  constructor
  · intro hvalues
    exact List.right_unique_forall₂' (fun _ _ _ h h' => Option.some.inj (h.symm.trans h')) hvalues hitems
  · rintro rfl
    exact hitems

/-- A record is read when it gives each field with a value that passes its test, and those are the values read. -/
theorem exists_readRecord_iff (type : String) (hnodup : (declared.map (·.name)).Nodup) (values : List Json) {v : Json} :
    (∃ read, readRecord type declared v = .ok read ∧
      List.Forall₂ (fun c value => read.lookup c.name = some value) declared values) ↔
    v.Gives (declared.map (·.name)) values ∧ List.Forall₂ (fun c value => c.check value = .ok ()) declared values := by
  cases v with
  | record fields =>
    have hread : readRecord type declared (.record fields) = checkFields declared [] fields :=
      bind_pure (checkFields declared [] fields)
    rw [hread, exists_checkFields_iff hnodup, gives_record_iff, List.forall₂_map_left_iff, forall₂_and_iff]
  | list items =>
    have hread (read) : readRecord type declared (.list items) = .ok read ↔ _ := checkItems_eq_ok_iff
    simp only [hread, gives_list_iff, List.length_map]
    constructor
    · rintro ⟨_, ⟨hpass, rfl⟩, hlookup⟩
      obtain rfl := (forall₂_lookup_zip_iff hnodup hpass.length_eq).mp hlookup
      exact ⟨⟨hpass.length_eq, rfl⟩, hpass⟩
    · rintro ⟨⟨hlength, rfl⟩, hpass⟩
      exact ⟨_, ⟨hpass, rfl⟩, (forall₂_lookup_zip_iff hnodup hlength).mpr rfl⟩
  | null | bool | integer | decimal | text =>
    exact iff_of_false (fun h => nomatch h.choose_spec.1) (fun h => nomatch h.1)

end

/-! ## Fields of one kind -/

theorem forall₂_comp_iff {α β γ : Type} {P : α → β → Prop} {Q : β → γ → Prop} {as : List α} {cs : List γ} :
    List.Forall₂ (fun a c => ∃ b, P a b ∧ Q b c) as cs ↔ ∃ bs, List.Forall₂ P as bs ∧ List.Forall₂ Q bs cs := by
  constructor
  · intro h
    induction h with
    | nil => exact ⟨[], .nil, .nil⟩
    | cons hcomp _ ih =>
      obtain ⟨b, hP, hQ⟩ := hcomp
      obtain ⟨bs, hPs, hQs⟩ := ih
      exact ⟨b :: bs, .cons hP hPs, .cons hQ hQs⟩
  · rintro ⟨bs, hP, hQ⟩
    induction hP generalizing cs with
    | nil =>
      cases hQ
      exact .nil
    | cons hp _ ih =>
      cases hQ with
      | cons hq hQ => exact .cons ⟨_, hp, hq⟩ (ih hQ)

theorem forall₂_eq_iff_map_eq {α β γ : Type} {f : α → γ} {g : β → γ} {as : List α} {bs : List β} :
    List.Forall₂ (fun a b => f a = g b) as bs ↔ as.map f = bs.map g := by
  rw [← List.forall₂_eq_eq_eq, List.forall₂_map_left_iff, List.forall₂_map_right_iff]

theorem required_eq_ok_iff {α β : Type} [Document α] {fields : List (String × α)} {name : String}
    {read : α → Except ReadError β} {b : β} :
    required fields name read = .ok b ↔ ∃ value, fields.lookup name = some value ∧ read value = .ok b := by
  rw [required]
  cases fields.lookup name <;> simp

/-- The fields of a record are read when the record gives values that can all be read. -/
theorem exists_required_iff {β γ : Type} (type : String) {names : List String} (hnodup : names.Nodup)
    {check : Json → Except ReadError γ} {read : Json → Except ReadError β}
    (hcheck : ∀ value b, read value = .ok b → ∃ checked, check value = .ok checked) {v : Json} {bs : List β} :
    (∃ fields, readRecord type (names.map (FieldCheck.of · check)) v = .ok fields ∧
      List.Forall₂ (fun name b => required fields name read = .ok b) names bs) ↔
    ∃ values, v.Gives names values ∧ List.Forall₂ (fun value b => read value = .ok b) values bs := by
  have hnames : (names.map (FieldCheck.of · check)).map (·.name) = names := by
    rw [List.map_map]
    exact List.map_id' names
  have hrecord (values : List Json) :
      (∃ fields, readRecord type (names.map (FieldCheck.of · check)) v = .ok fields ∧
        List.Forall₂ (fun name value => fields.lookup name = some value) names values) ↔
      v.Gives names values ∧
        List.Forall₂ (fun name value => (FieldCheck.of name check).check value = .ok ()) names values := by
    have hdeclared := exists_readRecord_iff type (hnames.symm ▸ hnodup) values (v := v)
    simp only [hnames, List.forall₂_map_left_iff] at hdeclared
    exact hdeclared
  simp only [required_eq_ok_iff, forall₂_comp_iff]
  constructor
  · rintro ⟨fields, hfields, values, hlookup, hread⟩
    exact ⟨values, ((hrecord values).mp ⟨fields, hfields, hlookup⟩).1, hread⟩
  · rintro ⟨values, hgives, hread⟩
    have hchecked : ∀ value ∈ values, ∃ checked, check value = .ok checked :=
      ((List.forall₂_and_left values bs).mp (hread.imp fun value b h => ⟨hcheck value b h, h⟩)).1
    have hpass : List.Forall₂ (fun name value => (FieldCheck.of name check).check value = .ok ()) names values := by
      refine List.forall₂_iff_zip.mpr ⟨hgives.length_eq, fun {name value} hmem => ?_⟩
      obtain ⟨checked, hvalue⟩ := hchecked value (List.of_mem_zip hmem).2
      exact congrArg (Except.map fun _ => ()) hvalue
    obtain ⟨fields, hfields, hlookup⟩ := (hrecord values).mpr ⟨hgives, hpass⟩
    exact ⟨fields, hfields, values, hlookup, hread⟩

/-- A record of three fields of one kind is read when it gives three values that can all be read. -/
theorem three_required_iff {β γ τ : Type} {type first second third : String} (hnodup : [first, second, third].Nodup)
    {check : Json → Except ReadError γ} {read : Json → Except ReadError β}
    (hcheck : ∀ value b, read value = .ok b → ∃ checked, check value = .ok checked) (make : β → β → β → τ) {v : Json}
    {t : τ} :
    (do
      let fields ← readRecord type [.of first check, .of second check, .of third check] v
      let x ← required fields first read
      let y ← required fields second read
      let z ← required fields third read
      .ok (make x y z)) = .ok t ↔
    ∃ x y z, make x y z = t ∧ ∃ values, v.Gives [first, second, third] values ∧
      List.Forall₂ (fun value b => read value = .ok b) values [x, y, z] := by
  simp only [← exists_required_iff type hnodup hcheck]
  constructor
  · intro h
    obtain ⟨fields, hfields, h⟩ := bind_eq_ok h
    obtain ⟨x, hx, h⟩ := bind_eq_ok h
    obtain ⟨y, hy, h⟩ := bind_eq_ok h
    obtain ⟨z, hz, h⟩ := bind_eq_ok h
    cases h
    exact ⟨x, y, z, rfl, fields, hfields, .cons hx (.cons hy (.cons hz .nil))⟩
  · rintro ⟨x, y, z, rfl, fields, hfields, hrequired⟩
    simp only [List.forall₂_cons, List.forall₂_nil_left_iff, and_true] at hrequired
    obtain ⟨hx, hy, hz⟩ := hrequired
    simp only [List.map_cons, List.map_nil] at hfields
    simp [hfields, hx, hy, hz, bind, Except.bind]

end Waterway.Json
