import Mathlib.Algebra.Group.Int.Defs
import Mathlib.Data.List.Basic
import Waterway.Json.Reader

/-!
# Documents and what is read from them

A reader takes what it returns from the parts of a document, and the numbers that it returns are numbers of the
document.

## Main definitions

- `Part` — a document inside a document
- `Proper` — the numbers of a document are integers of 64 bits and finite doubles

## Main statements

- `Proper.exists_required` — a field of a record that has been read was read from a proper part
-/

namespace Waterway.Json

open Document

theorem bind_eq_ok {ε α β : Type} {x : Except ε α} {f : α → Except ε β} {b : β} (h : x >>= f = .ok b) :
    ∃ a, x = .ok a ∧ f a = .ok b := by
  cases x with
  | error e => cases h
  | ok a => exact ⟨a, rfl, h⟩

/-! ## Parts -/

section

variable {δ β : Type} [Document δ] {d p : δ}

/-- A document inside a document: the document itself, or a part of one of its items or fields. -/
inductive Part (p : δ) : δ → Prop
  | self : Part p p
  | item {d item : δ} {items : List δ} {complete : Bool} (hlayer : layer d = .list items complete) (hmem : item ∈ items)
      (h : Part p item) : Part p d
  | field {d : δ} {field : String × δ} {fields : List (String × δ)} {complete : Bool}
      (hlayer : layer d = .record fields complete) (hmem : field ∈ fields) (h : Part p field.2) : Part p d

/-- A number that may stand in a document. -/
def Layer.Numeric : Layer δ → Prop
  | .integer n => -(2 ^ 63) ≤ n ∧ n < 2 ^ 64
  | .decimal x => x.isFinite
  | _ => True

/-- The numbers of a document are integers of 64 bits and finite doubles. -/
def Proper (d : δ) : Prop :=
  ∀ p, Part p d → (layer p).Numeric

namespace Proper

theorem layer (h : Proper d) : (layer d).Numeric :=
  h d .self

theorem item {item : δ} {items : List δ} {complete : Bool} (h : Proper d)
    (hlayer : Document.layer d = .list items complete) (hmem : item ∈ items) : Proper item :=
  fun p hp => h p (.item hlayer hmem hp)

theorem field {field : String × δ} {fields : List (String × δ)} {complete : Bool} (h : Proper d)
    (hlayer : Document.layer d = .record fields complete) (hmem : field ∈ fields) : Proper field.2 :=
  fun p hp => h p (.field hlayer hmem hp)

/-- A document other than a number is proper if its items and fields are. -/
theorem of_parts (hlayer : (Document.layer d).Numeric)
    (hitems : ∀ items complete, Document.layer d = .list items complete → ∀ item ∈ items, Proper item)
    (hfields : ∀ fields complete, Document.layer d = .record fields complete → ∀ field ∈ fields, Proper field.2) :
    Proper d := by
  rintro p (_ | ⟨hlist, hmem, hp⟩ | ⟨hrecord, hmem, hp⟩)
  · exact hlayer
  · exact hitems _ _ hlist _ hmem p hp
  · exact hfields _ _ hrecord _ hmem p hp

end Proper

/-! ## Records -/

theorem mem_of_checkFields {declared : List (FieldCheck δ)} {seen fields read : List (String × δ)} {field : String × δ}
    (h : checkFields declared seen fields = .ok read) (hmem : field ∈ read) : field ∈ seen ∨ field ∈ fields := by
  induction fields generalizing seen with
  | nil =>
    cases h
    exact .inl hmem
  | cons first rest ih =>
    rw [checkFields] at h
    split at h
    · split at h
      · exact (ih h).imp_right (List.mem_cons_of_mem _)
      · cases h
    · split at h
      · cases h
      · obtain ⟨_, -, h⟩ := bind_eq_ok h
        rcases ih h with hseen | hrest
        · exact (List.mem_cons.mp hseen).elim (fun heq => .inr (heq ▸ List.mem_cons_self)) .inl
        · exact .inr (List.mem_cons_of_mem _ hrest)

theorem mem_of_checkItems {expected : String} {complete : Bool} {done : Nat} {declared : List (FieldCheck δ)}
    {items : List δ} {read : List (String × δ)} {field : String × δ}
    (h : checkItems expected complete done declared items = .ok read) (hmem : field ∈ read) : field.2 ∈ items := by
  induction declared generalizing done items read with
  | nil =>
    cases items with
    | nil =>
      rw [checkItems] at h
      split at h
      · cases h
        exact absurd hmem List.not_mem_nil
      · cases h
    | cons item items => cases h
  | cons check declared ih =>
    cases items with
    | nil => cases h
    | cons item items =>
      obtain ⟨_, -, h⟩ := bind_eq_ok h
      obtain ⟨rest, hrest, h⟩ := bind_eq_ok h
      cases h
      rcases List.mem_cons.mp hmem with rfl | hmem
      · exact List.mem_cons_self
      · exact List.mem_cons_of_mem _ (ih hrest hmem)

theorem Proper.readRecord {type : String} {declared : List (FieldCheck δ)} {fields : List (String × δ)}
    {field : String × δ} (h : Proper d) (hread : readRecord type declared d = .ok fields) (hmem : field ∈ fields) :
    Proper field.2 := by
  unfold Json.readRecord at hread
  split at hread
  case h_1 given complete hlayer =>
    obtain ⟨seen, hseen, hread⟩ := bind_eq_ok hread
    split at hread
    · cases hread
      exact h.field hlayer ((mem_of_checkFields hseen hmem).resolve_left List.not_mem_nil)
    · cases hread
  case h_2 items complete hlayer => exact h.item hlayer (mem_of_checkItems hread hmem)
  case h_3 => cases hread

/-- A field of a record that has been read was read from a proper part. -/
theorem Proper.exists_required {type name : String} {declared : List (FieldCheck δ)} {fields : List (String × δ)}
    {read : δ → Except ReadError β} {b : β} (h : Proper d) (hfields : Json.readRecord type declared d = .ok fields)
    (hread : required fields name read = .ok b) : ∃ p, Proper p ∧ read p = .ok b := by
  unfold required at hread
  split at hread
  case h_1 p hlookup =>
    obtain ⟨before, after, rfl, -⟩ := List.lookup_eq_some_iff.mp hlookup
    exact ⟨p, h.readRecord hfields (List.mem_append_right _ List.mem_cons_self), hread⟩
  case h_2 => cases hread

end

end Waterway.Json
