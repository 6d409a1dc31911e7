import Waterway.Proofs.Decimal.Finite
import Waterway.Proofs.Json.Showing

/-!
# The numbers in a text

Whatever a text says as far as it is JSON, the numbers in it are integers of 64 bits and finite doubles: a larger
number is marked as such and cannot be read.

## Main definitions

- `Token.Numeric`, `Draft.State.Proper` — what holds of each token, and of all that has been put together so far

## Main statements

- `numeric_tokens` — the tokens of a text
- `proper_ofText` — the draft of a text
- `proper_of_parse?` — the value of a text that is JSON throughout
- `Numeric.proper` — a value is proper if its numbers are
-/

namespace Waterway.Json

open Document

/-! ## Tokens -/

/-- A number among the tokens of a text is an integer of 64 bits or a finite double. -/
def Token.Numeric : Token → Prop
  | .integer n => -(2 ^ 63) ≤ n ∧ n < 2 ^ 64
  | .decimal x => x.isFinite
  | _ => True

theorem isFinite_signed (negative : Bool) {x : Float} (h : x.isFinite) : (if negative then -x else x).isFinite := by
  split
  · exact Decimal.isFinite_neg h
  · exact h

theorem numeric_decimalToken (negative : Bool) (significand : Nat) (exponent : Int) :
    (decimalToken negative significand exponent).Numeric := by
  have hzero : (0.0 : Float).isFinite := by decide +kernel
  unfold decimalToken
  dsimp only
  split
  · exact isFinite_signed negative hzero
  · split
    · trivial
    · split
      case isTrue hx => exact isFinite_signed negative hx
      case isFalse => trivial

theorem numeric_integerToken (negative : Bool) (value : Nat) : (integerToken negative value).Numeric := by
  have hleast : Nat.pow 2 63 = 2 ^ 63 := rfl
  have hgreatest : Nat.pow 2 64 = 2 ^ 64 := rfl
  unfold integerToken
  split
  · split
    · show -(2 ^ 63) ≤ -(value : Int) ∧ -(value : Int) < 2 ^ 64
      omega
    · exact numeric_decimalToken _ _ _
  · split
    · show -(2 ^ 63) ≤ (value : Int) ∧ (value : Int) < 2 ^ 64
      omega
    · exact numeric_decimalToken _ _ _

theorem numeric_numberToken (negative : Bool) (cs : List Char) : (numberToken negative cs).1.Numeric := by
  unfold numberToken
  dsimp only
  repeat' split
  all_goals first | trivial | exact numeric_decimalToken _ _ _ | exact numeric_integerToken _ _

theorem numeric_bareTokens {run : List Char} {t : Token} (h : t ∈ bareTokens run) : t.Numeric := by
  obtain ⟨read, rest, htokens, hread⟩ : ∃ (read : Token) (rest : List Char),
      bareTokens run = (if rest.isEmpty then [read] else [read, .stop]) ∧ read.Numeric := by
    refine ⟨_, _, rfl, ?_⟩
    split
    all_goals first | trivial | exact numeric_numberToken _ _
  rw [htokens] at h
  split at h
  · exact List.mem_singleton.mp h ▸ hread
  · rcases List.mem_cons.mp h with rfl | h
    · exact hread
    · exact List.mem_singleton.mp h ▸ trivial

theorem numeric_stop {t : Token} (h : t ∈ [Token.stop]) : t.Numeric := by
  rw [List.mem_singleton.mp h]
  trivial

theorem numeric_begin? {c : Char} {ts : List Token} {mode : Mode} {t : Token} (h : begin? c = some (ts, mode))
    (hmem : t ∈ ts) : t.Numeric := by
  unfold begin? at h
  split at h
  case h_12 =>
    split at h
    · cases h
      exact absurd hmem List.not_mem_nil
    · cases h
  -- a punctuation mark, or nothing
  all_goals
    cases h
    first
    | exact absurd hmem List.not_mem_nil
    | rw [List.mem_singleton.mp hmem]; trivial

theorem Scanned.numeric_token (s : Scanned) : s.token.Numeric := by
  unfold Scanned.token
  split <;> trivial

theorem numeric_scan {mode : Mode} {cs : List Char} {t : Token} (h : t ∈ scan mode cs) : t.Numeric := by
  fun_induction scan mode cs
  case case1 => exact absurd h List.not_mem_nil
  case case2 | case4 | case9 | case11 | case13 => exact numeric_stop h
  case case3 => exact numeric_bareTokens h
  case case5 hbegin ih => exact (List.mem_append.mp h).elim (numeric_begin? hbegin) ih
  case case7 ih =>
    rcases List.mem_append.mp h with h | h
    · exact numeric_bareTokens h
    · split at h
      · exact numeric_stop h
      case h_2 ts mode hbegin => exact (List.mem_append.mp h).elim (numeric_begin? hbegin) (ih mode)
  case case8 s _ ih => exact (List.mem_cons.mp h).elim (fun heq => heq ▸ s.numeric_token) ih
  case case6 ih | case10 ih | case12 ih | case14 ih => exact ih h

theorem numeric_tokens {s : String} {t : Token} (h : t ∈ tokens s) : t.Numeric :=
  numeric_scan h

/-! ## Drafts -/

theorem proper_list {items : List Draft} (h : ∀ item ∈ items, Proper item) (complete : Bool) :
    Proper (Draft.list items complete) :=
  .of_parts trivial
    (fun _ _ hlayer => by cases hlayer; exact h)
    (fun _ _ hlayer => by cases hlayer)

theorem proper_record {fields : List (String × Draft)} (h : ∀ field ∈ fields, Proper field.2) (complete : Bool) :
    Proper (Draft.record fields complete) :=
  .of_parts trivial
    (fun _ _ hlayer => by cases hlayer)
    (fun _ _ hlayer => by cases hlayer; exact h)

/-- A draft without parts is proper unless it is a number of another kind. -/
theorem proper_leaf {d : Draft} (hlist : ∀ items complete, layer d ≠ .list items complete)
    (hrecord : ∀ fields complete, layer d ≠ .record fields complete) (hnumeric : (layer d).Numeric) : Proper d :=
  .of_parts hnumeric
    (fun _ _ hlayer => absurd hlayer (hlist _ _))
    (fun _ _ hlayer => absurd hlayer (hrecord _ _))

theorem proper_gap : Proper Draft.gap :=
  proper_leaf (fun _ _ => nofun) (fun _ _ => nofun) trivial

namespace Draft

/-- What an open list or record holds so far is proper. -/
def Frame.Proper : Frame → Prop
  | .list items => ∀ item ∈ items, Json.Proper item
  | .record fields _ => ∀ field ∈ fields, Json.Proper field.2

/-- All that has been put together so far is proper. -/
def State.Proper : State → Prop
  | .value open_ | .firstItem open_ => ∀ frame ∈ open_, frame.Proper
  | .afterItem items open_ => (∀ item ∈ items, Json.Proper item) ∧ ∀ frame ∈ open_, frame.Proper
  | .fieldName fields _ open_ | .colon fields _ open_ | .afterField fields open_ =>
    (∀ field ∈ fields, Json.Proper field.2) ∧ ∀ frame ∈ open_, frame.Proper
  | .complete d | .broken d _ => Json.Proper d

variable {d : Draft} {open_ : List Frame} {s : State} {t : Token}

theorem proper_put (hd : Json.Proper d) (hopen : ∀ frame ∈ open_, frame.Proper) : (put d open_).Proper := by
  cases open_ with
  | nil => exact hd
  | cons frame open_ =>
    obtain ⟨hframe, hrest⟩ := List.forall_mem_cons.mp hopen
    cases frame with
    | list items => exact ⟨List.forall_mem_cons.mpr ⟨hd, hframe⟩, hrest⟩
    | record fields name => exact ⟨List.forall_mem_cons.mpr ⟨hd, hframe⟩, hrest⟩

theorem proper_abandon (hd : Json.Proper d) (hopen : ∀ frame ∈ open_, frame.Proper) :
    Json.Proper (abandon d open_) := by
  induction open_ generalizing d with
  | nil => exact hd
  | cons frame open_ ih =>
    obtain ⟨hframe, hrest⟩ := List.forall_mem_cons.mp hopen
    cases frame with
    | list items =>
      have hitems : ∀ item ∈ d :: items, Json.Proper item := List.forall_mem_cons.mpr ⟨hd, hframe⟩
      exact ih (proper_list (fun item hmem => hitems item (List.mem_reverse.mp hmem)) false) hrest
    | record fields name =>
      have hfields : ∀ field ∈ (name, d) :: fields, Json.Proper field.2 := List.forall_mem_cons.mpr ⟨hd, hframe⟩
      exact ih (proper_record (fun field hmem => hfields field (List.mem_reverse.mp hmem)) false) hrest

theorem proper_breakOff (h : s.Proper) : Json.Proper s.breakOff.1 := by
  cases s with
  | value open_ => exact proper_abandon proper_gap h
  | firstItem open_ => exact proper_abandon (proper_list (fun _ hmem => absurd hmem List.not_mem_nil) false) h
  | afterItem items open_ =>
    exact proper_abandon (proper_list (fun item hmem => h.1 item (List.mem_reverse.mp hmem)) false) h.2
  | fieldName fields first open_ | afterField fields open_ =>
    exact proper_abandon (proper_record (fun field hmem => h.1 field (List.mem_reverse.mp hmem)) false) h.2
  | colon fields name open_ =>
    have hfields : ∀ field ∈ (name, Draft.gap) :: fields, Json.Proper field.2 :=
      List.forall_mem_cons.mpr ⟨proper_gap, h.1⟩
    exact proper_abandon (proper_record (fun field hmem => hfields field (List.mem_reverse.mp hmem)) false) h.2
  | complete d => exact h
  | broken d trailing => exact h

theorem proper_fail (h : s.Proper) : s.fail.Proper :=
  proper_breakOff h

theorem proper_startValue (hopen : ∀ frame ∈ open_, frame.Proper) (ht : t.Numeric) (h : startValue open_ t = some s) :
    s.Proper := by
  cases t with
  | listEnd | recordEnd | comma | colon | stop => cases h
  | listStart =>
    cases h
    exact hopen
  | recordStart =>
    cases h
    exact ⟨fun _ hmem => absurd hmem List.not_mem_nil, hopen⟩
  | null | bool | beyondRange | text | brokenText =>
    cases h
    exact proper_put (proper_leaf (fun _ _ => nofun) (fun _ _ => nofun) trivial) hopen
  | integer | decimal =>
    cases h
    exact proper_put (proper_leaf (fun _ _ => nofun) (fun _ _ => nofun) ht) hopen

/-- A token keeps what has been put together proper. -/
theorem proper_feed (h : s.Proper) (ht : t.Numeric) : (s.feed t).Proper := by
  have hvalue {open_ : List Frame} (hopen : ∀ frame ∈ open_, frame.Proper) {s : State} (hs : s.Proper) :
      ((startValue open_ t).getD s).Proper := by
    cases hstart : startValue open_ t with
    | none => exact hs
    | some s => exact proper_startValue hopen ht hstart
  have hlist {open_ : List Frame} (hopen : ∀ frame ∈ open_, frame.Proper) : ∀ frame ∈ .list [] :: open_, frame.Proper :=
    List.forall_mem_cons.mpr ⟨fun _ hmem => absurd hmem List.not_mem_nil, hopen⟩
  unfold State.feed
  split
  case h_1 => exact hvalue h (proper_fail h)
  case h_2 => exact proper_put (proper_list (fun _ hmem => absurd hmem List.not_mem_nil) true) h
  case h_3 => exact hvalue (hlist h) (proper_fail (hlist h))
  case h_4 => exact List.forall_mem_cons.mpr h
  case h_5 => exact proper_put (proper_list (fun item hmem => h.1 item (List.mem_reverse.mp hmem)) true) h.2
  case h_6 => exact h
  case h_7 => exact proper_put (proper_record (fun field hmem => h.1 field (List.mem_reverse.mp hmem)) true) h.2
  case h_8 => exact List.forall_mem_cons.mpr h
  case h_9 => exact h
  case h_10 => exact proper_put (proper_record (fun field hmem => h.1 field (List.mem_reverse.mp hmem)) true) h.2
  case h_11 => exact h
  case h_12 => exact proper_fail h

/-- The draft of a text is proper. -/
theorem proper_ofText (s : String) : Json.Proper (ofText s).1 := by
  have hrun (ts : List Token) (hts : ∀ t ∈ ts, t.Numeric) (start : State) (hstart : start.Proper) :
      (ts.foldl State.feed start).Proper := by
    induction ts generalizing start with
    | nil => exact hstart
    | cons t ts ih =>
      obtain ⟨ht, hts⟩ := List.forall_mem_cons.mp hts
      exact ih hts _ (proper_feed hstart ht)
  have hend := hrun (tokens s) (fun _ => numeric_tokens) (.value []) (fun _ hmem => absurd hmem List.not_mem_nil)
  unfold ofText
  split
  case h_1 hcomplete =>
    rw [hcomplete] at hend
    exact hend
  case h_2 => exact proper_breakOff hend

end Draft

/-! ## Values -/

mutual

/-- A draft without gaps is the draft of its value. -/
theorem eq_toDraft : ∀ (d : Draft) {v : Json}, d.toJson? = some v → d = v.toDraft
  | .null, _, h | .bool _, _, h | .integer _, _, h | .decimal _, _, h | .text _, _, h => by cases h; rfl
  | .beyondRange, _, h | .brokenText, _, h | .gap, _, h | .list _ false, _, h | .record _ false, _, h => by cases h
  | .list items true, _, h => by
    obtain ⟨values, hvalues, rfl⟩ := Option.map_eq_some_iff.mp h
    rw [eq_itemDrafts items hvalues, toDraft]
  | .record fields true, _, h => by
    obtain ⟨values, hvalues, rfl⟩ := Option.map_eq_some_iff.mp h
    rw [eq_fieldDrafts fields hvalues, toDraft]

theorem eq_itemDrafts : ∀ (items : List Draft) {values : List Json},
    Draft.itemsToJson? items = some values → items = itemDrafts values
  | [], _, h => by cases h; rfl
  | item :: rest, _, h => by
    obtain ⟨value, hvalue, h⟩ := Option.bind_eq_some_iff.mp h
    obtain ⟨values, hvalues, h⟩ := Option.bind_eq_some_iff.mp h
    cases h
    rw [eq_toDraft item hvalue, eq_itemDrafts rest hvalues, itemDrafts]

theorem eq_fieldDrafts : ∀ (fields : List (String × Draft)) {values : List (String × Json)},
    Draft.fieldsToJson? fields = some values → fields = fieldDrafts values
  | [], _, h => by cases h; rfl
  | (name, d) :: rest, _, h => by
    obtain ⟨value, hvalue, h⟩ := Option.bind_eq_some_iff.mp h
    obtain ⟨values, hvalues, h⟩ := Option.bind_eq_some_iff.mp h
    cases h
    rw [eq_toDraft d hvalue, eq_fieldDrafts rest hvalues, fieldDrafts]

end

/-- The value of a text that is JSON throughout is proper. -/
theorem proper_of_parse? {s : String} {v : Json} (h : parse? s = some v) : Proper v := by
  have hdraft := Draft.proper_ofText s
  unfold parse? at h
  split at h
  case h_1 d htext =>
    rw [htext, eq_toDraft d h] at hdraft
    exact showing_toDraft.proper hdraft
  case h_2 => cases h

/-- The numbers of a value are integers of 64 bits and finite doubles. -/
def Numeric (v : Json) : Prop :=
  ∀ n ∈ v.numbers, (layer n).Numeric

theorem Numeric.proper {v : Json} (h : v.Numeric) : Proper v := by
  intro p hp
  induction hp with
  | self =>
    cases p with
    | integer n => exact h _ List.mem_cons_self
    | decimal x => exact h _ List.mem_cons_self
    | _ => trivial
  | @item d item items complete hlayer hmem _ ih =>
    cases d <;> cases hlayer
    exact ih fun n hn => h n (mem_itemNumbers.mpr ⟨item, hmem, hn⟩)
  | @field d field fields complete hlayer hmem _ ih =>
    cases d <;> cases hlayer
    exact ih fun n hn => h n (mem_fieldNumbers.mpr ⟨field, hmem, hn⟩)

theorem numeric_integer {n : Int} (hleast : -(2 ^ 63) ≤ n) (hgreatest : n < 2 ^ 64) : (integer n).Numeric :=
  fun _ hm => List.mem_singleton.mp hm ▸ ⟨hleast, hgreatest⟩

/-- What is written of a double is finite, or no number. -/
theorem numeric_ofFloat (x : Float) : (ofFloat x).Numeric := by
  unfold ofFloat
  split
  case isTrue hx => exact fun n hn => List.mem_singleton.mp hn ▸ hx
  case isFalse => exact fun _ hn => absurd hn List.not_mem_nil

theorem numeric_text (s : String) : (text s).Numeric :=
  fun _ hn => absurd hn List.not_mem_nil

theorem numeric_list {items : List Json} (h : ∀ item ∈ items, item.Numeric) : (list items).Numeric := by
  intro n hn
  obtain ⟨item, hitem, hn⟩ := mem_itemNumbers.mp hn
  exact h item hitem n hn

theorem numeric_record {fields : List (String × Json)} (h : ∀ field ∈ fields, field.2.Numeric) :
    (record fields).Numeric := by
  intro n hn
  obtain ⟨field, hfield, hn⟩ := mem_fieldNumbers.mp hn
  exact h field hfield n hn

end Waterway.Json
