import Waterway.Proofs.Json.Tokens

/-!
# Printed values read back

What the parser makes of the text of a value is the value itself, with the fields of its records in the order in which
they stand. That holds to any depth and for any strings, provided that the numbers in it read back one by one.

## Main definitions

- `Json.numbers` — the numbers in a value
- `Json.Legible` — each of them reads back from its own text
- `Json.toTokens`, `Json.toDraft` — what the scanner finds in the text, and what is put together from it

## Main statements

- `parse?_print_integer` — an integer of 64 bits reads back
- `tokens_print` — the tokens of the text of a value
- `parse?_print` — the value of the text of a value
- `print_inj` — different values have different texts
- `Legible.sorted` — a value with its fields in order has no other numbers
- `perm_sortedFields` — fields with different names all stay when they are put in order
-/

namespace Waterway.Json

mutual

/-- The numbers in a value, from left to right. -/
def numbers : Json → List Json
  | .integer n => [.integer n]
  | .decimal x => [.decimal x]
  | .list items => itemNumbers items
  | .record fields => fieldNumbers fields
  | _ => []

def itemNumbers : List Json → List Json
  | [] => []
  | item :: rest => item.numbers ++ itemNumbers rest

def fieldNumbers : List (String × Json) → List Json
  | [] => []
  | (_, value) :: rest => value.numbers ++ fieldNumbers rest

end

/-- Each number in a value reads back from its own text. -/
def Legible (v : Json) : Prop :=
  ∀ n ∈ v.numbers, parse? n.print = some n

/-- Whether a decimal reads back from a text can be seen. -/
instance (read : Option Json) (x : Float) : Decidable (read = some (.decimal x)) :=
  match read with
  | some (.decimal y) => decidable_of_iff (y = x) (by simp)
  | none | some .null | some (.bool _) | some (.integer _) | some (.text _) | some (.list _) | some (.record _) =>
    isFalse (by simp)

mutual

/-- The tokens of the text of a value. -/
def toTokens : Json → List Token
  | .null => [.null]
  | .bool b => [.bool b]
  | .integer n => [.integer n]
  | .decimal x => [.decimal x]
  | .text s => [.text s]
  | .list items => .listStart :: itemTokens items ++ [.listEnd]
  | .record fields => .recordStart :: fieldTokens fields ++ [.recordEnd]

def itemTokens : List Json → List Token
  | [] => []
  | [item] => item.toTokens
  | item :: rest => item.toTokens ++ .comma :: itemTokens rest

def fieldTokens : List (String × Json) → List Token
  | [] => []
  | [(name, value)] => .text name :: .colon :: value.toTokens
  | (name, value) :: rest => .text name :: .colon :: value.toTokens ++ .comma :: fieldTokens rest

end

mutual

/-- The draft of the text of a value, which has no gaps. -/
def toDraft : Json → Draft
  | .null => .null
  | .bool b => .bool b
  | .integer n => .integer n
  | .decimal x => .decimal x
  | .text s => .text s
  | .list items => .list (itemDrafts items) true
  | .record fields => .record (fieldDrafts fields) true

def itemDrafts : List Json → List Draft
  | [] => []
  | item :: rest => item.toDraft :: itemDrafts rest

def fieldDrafts : List (String × Json) → List (String × Draft)
  | [] => []
  | (name, value) :: rest => (name, value.toDraft) :: fieldDrafts rest

end

section

variable (item next : Json) (items : List Json) (field another : String × Json) (fields : List (String × Json))

theorem printItems_cons_cons :
    printItems (item :: next :: items) = item.printChars ++ ',' :: printItems (next :: items) := by
  rw [printItems]
  exact List.cons_ne_nil _ _

theorem itemTokens_cons_cons :
    itemTokens (item :: next :: items) = item.toTokens ++ .comma :: itemTokens (next :: items) := by
  rw [itemTokens]
  exact List.cons_ne_nil _ _

theorem printFields_cons_cons : printFields (field :: another :: fields) =
    printText field.1 ++ ':' :: (field.2.printChars ++ ',' :: printFields (another :: fields)) := by
  rw [printFields, List.append_assoc]
  · rfl
  · exact List.cons_ne_nil _ _

theorem fieldTokens_cons_cons : fieldTokens (field :: another :: fields) =
    .text field.1 :: .colon :: (field.2.toTokens ++ .comma :: fieldTokens (another :: fields)) := by
  rw [fieldTokens]
  · rfl
  · exact List.cons_ne_nil _ _

end

/-! ## Numbers that read back -/

theorem tokens_run {run : List Char} (hne : run ≠ []) (hrun : ∀ c ∈ run, isBare c) :
    tokens (String.ofList run) = bareTokens run := by
  rw [tokens, String.toList_ofList, ← List.append_nil run, scan_run hne hrun apart_nil, List.append_nil]
  exact List.append_nil _

/-- A run that is a value on its own has the tokens of the value. -/
theorem bareTokens_of_parse? {run : List Char} {v : Json} (hrun : ∀ c ∈ run, isBare c)
    (h : parse? (String.ofList run) = some v) : bareTokens run = v.toTokens := by
  have hne : run ≠ [] := by
    rintro rfl
    cases h
  obtain ⟨t, ht | ht⟩ := bareTokens_shape run
  all_goals
    rw [parse?, Draft.ofText, tokens_run hne hrun, ht] at h
    rw [ht]
    cases t <;> cases h <;> rfl

theorem isBare_printChars_decimal {x : Float} {c : Char} (h : c ∈ (Json.decimal x).printChars) : isBare c := by
  rw [printChars] at h
  split at h
  · exact isBare_write h
  · exact isBare_of_all (by decide) h

/-- An integer of 64 bits, with or without a sign, reads back. -/
theorem parse?_print_integer {n : Int} (hleast : -(2 ^ 63) ≤ n) (hgreatest : n < 2 ^ 64) :
    parse? (Json.integer n).print = some (.integer n) := by
  have hne : (toString n).toList ≠ [] := by
    intro hempty
    have htokens := bareTokens_integer hleast hgreatest
    rw [hempty] at htokens
    cases htokens
  have htokens : tokens (Json.integer n).print = [.integer n] := by
    rw [print, printChars, tokens_run hne fun _ => isBare_integer]
    exact bareTokens_integer hleast hgreatest
  rw [parse?, Draft.ofText, htokens]
  rfl

/-! ## Scanning -/

theorem scan_of_parse? {v : Json} {rest : List Char} (hbare : ∀ c ∈ v.printChars, isBare c)
    (h : parse? v.print = some v) (hrest : Apart rest) :
    scan .between (v.printChars ++ rest) = v.toTokens ++ scan .between rest := by
  have hne : v.printChars ≠ [] := by
    intro hempty
    rw [print, hempty] at h
    cases h
  rw [scan_run hne hbare hrest, bareTokens_of_parse? hbare h]

mutual

/-- The text of a value has the tokens of the value, and what follows is scanned as before. -/
theorem scan_printChars : ∀ (v : Json) {rest : List Char}, v.Legible → Apart rest →
    scan .between (v.printChars ++ rest) = v.toTokens ++ scan .between rest
  | .null, _, _, hrest => @scan_run "null".toList _ (by decide) (fun _ => isBare_of_all (by decide)) hrest
  | .bool true, _, _, hrest => @scan_run "true".toList _ (by decide) (fun _ => isBare_of_all (by decide)) hrest
  | .bool false, _, _, hrest => @scan_run "false".toList _ (by decide) (fun _ => isBare_of_all (by decide)) hrest
  | .integer n, _, h, hrest => scan_of_parse? (fun _ => isBare_integer) (h _ List.mem_cons_self) hrest
  | .decimal x, _, h, hrest => scan_of_parse? (fun _ => isBare_printChars_decimal) (h _ List.mem_cons_self) hrest
  | .text s, rest, _, _ => scan_printText s rest
  | .list items, rest, h, _ => by
    have hitems := scan_printItems items h (apart_cons (c := ']') (by decide) rest)
    rw [printChars, toTokens, List.cons_append, List.cons_append, List.append_assoc, List.append_assoc]
    show Token.listStart :: scan .between (printItems items ++ ']' :: rest) = _
    rw [hitems]
    rfl
  | .record fields, rest, h, _ => by
    have hfields := scan_printFields fields h (apart_cons (c := '\x7d') (by decide) rest)
    rw [printChars, toTokens, List.cons_append, List.cons_append, List.append_assoc, List.append_assoc]
    show Token.recordStart :: scan .between (printFields fields ++ '\x7d' :: rest) = _
    rw [hfields]
    rfl

theorem scan_printItems : ∀ (items : List Json) {rest : List Char},
    (∀ n ∈ itemNumbers items, parse? n.print = some n) → Apart rest →
    scan .between (printItems items ++ rest) = itemTokens items ++ scan .between rest
  | [], _, _, _ => rfl
  | [item], _, h, hrest => scan_printChars item (fun n hn => h n (List.mem_append_left _ hn)) hrest
  | item :: next :: more, rest, h, hrest => by
    have hitem := scan_printChars item (fun n hn => h n (List.mem_append_left _ hn))
      (apart_cons (c := ',') (by decide) (printItems (next :: more) ++ rest))
    have hmore := scan_printItems (next :: more) (fun n hn => h n (List.mem_append_right _ hn)) hrest
    rw [printItems_cons_cons, itemTokens_cons_cons, List.append_assoc, List.append_assoc, List.cons_append, hitem]
    show _ ++ Token.comma :: scan .between (printItems (next :: more) ++ rest) = _
    rw [hmore]
    rfl

theorem scan_printFields : ∀ (fields : List (String × Json)) {rest : List Char},
    (∀ n ∈ fieldNumbers fields, parse? n.print = some n) → Apart rest →
    scan .between (printFields fields ++ rest) = fieldTokens fields ++ scan .between rest
  | [], _, _, _ => rfl
  | [(name, value)], rest, h, hrest => by
    have hvalue := scan_printChars value (fun n hn => h n (List.mem_append_left _ hn)) hrest
    rw [printFields, fieldTokens, List.append_assoc, scan_printText]
    show Token.text name :: .colon :: scan .between (value.printChars ++ rest) = _
    rw [hvalue]
    rfl
  | (name, value) :: next :: more, rest, h, hrest => by
    have hvalue := scan_printChars value (fun n hn => h n (List.mem_append_left _ hn))
      (apart_cons (c := ',') (by decide) (printFields (next :: more) ++ rest))
    have hmore := scan_printFields (next :: more) (fun n hn => h n (List.mem_append_right _ hn)) hrest
    rw [printFields_cons_cons, fieldTokens_cons_cons, List.append_assoc, scan_printText, List.cons_append,
      List.append_assoc, List.cons_append]
    show Token.text name :: .colon ::
      scan .between (value.printChars ++ ',' :: (printFields (next :: more) ++ rest)) = _
    rw [hvalue]
    show _ :: _ :: (value.toTokens ++ Token.comma :: scan .between (printFields (next :: more) ++ rest)) = _
    rw [hmore, List.cons_append, List.cons_append, List.append_assoc]
    rfl

end

/-- The tokens of the text of a value. -/
theorem tokens_print {v : Json} (h : v.Legible) : tokens v.print = v.toTokens := by
  have hscan := scan_printChars v h apart_nil
  rw [List.append_nil] at hscan
  rw [tokens, print, String.toList_ofList, hscan]
  exact List.append_nil _

/-! ## Putting together -/

section

open Draft

/-- Inside a list that has just been opened every token but its end begins an item. -/
theorem feed_firstItem {t : Token} (h : t ≠ .listEnd) (open_ : List Draft.Frame) :
    (State.firstItem open_).feed t = (State.value (.list [] :: open_)).feed t := by
  cases t <;> first | rfl | exact absurd rfl h

theorem exists_toTokens (v : Json) : ∃ t ts, v.toTokens = t :: ts ∧ t ≠ .listEnd := by
  cases v <;> exact ⟨_, _, rfl, Token.noConfusion⟩

theorem exists_itemTokens (item : Json) (items : List Json) :
    ∃ t ts, itemTokens (item :: items) = t :: ts ∧ t ≠ .listEnd := by
  obtain ⟨t, ts, htokens, ht⟩ := exists_toTokens item
  cases items with
  | nil => exact ⟨t, ts, htokens, ht⟩
  | cons next items => exact ⟨t, _, by rw [itemTokens_cons_cons, htokens]; rfl, ht⟩

mutual

/-- The tokens of a value, given where a value may stand, put the value there. -/
theorem feed_toTokens : ∀ (v : Json) (open_ : List Draft.Frame),
    v.toTokens.foldl State.feed (.value open_) = put v.toDraft open_
  | .null, _ | .bool _, _ | .integer _, _ | .decimal _, _ | .text _, _ => rfl
  | .list [], _ => rfl
  | .list (item :: items), open_ => by
    have hitems := feed_itemTokens (item :: items) (List.cons_ne_nil _ _) [] open_
    have hfirst : (itemTokens (item :: items)).foldl State.feed (.firstItem open_) =
        (itemTokens (item :: items)).foldl State.feed (.value (.list [] :: open_)) := by
      obtain ⟨t, ts, htokens, ht⟩ := exists_itemTokens item items
      rw [htokens, List.foldl_cons, List.foldl_cons, feed_firstItem ht]
    rw [toTokens, List.cons_append, List.foldl_cons, List.foldl_append]
    show ((itemTokens (item :: items)).foldl State.feed (.firstItem open_)).feed .listEnd = _
    rw [hfirst, hitems, toDraft, List.append_nil]
    show put (.list (itemDrafts (item :: items)).reverse.reverse true) open_ = _
    rw [List.reverse_reverse]
  | .record [], _ => rfl
  | .record (field :: fields), open_ => by
    have hfields := feed_fieldTokens (field :: fields) (List.cons_ne_nil _ _) [] true open_
    rw [toTokens, List.cons_append, List.foldl_cons, List.foldl_append]
    show ((fieldTokens (field :: fields)).foldl State.feed (.fieldName [] true open_)).feed .recordEnd = _
    rw [hfields, toDraft, List.append_nil]
    show put (.record (fieldDrafts (field :: fields)).reverse.reverse true) open_ = _
    rw [List.reverse_reverse]

theorem feed_itemTokens : ∀ (items : List Json), items ≠ [] → ∀ (done : List Draft) (open_ : List Draft.Frame),
    (itemTokens items).foldl State.feed (.value (.list done :: open_)) =
      .afterItem ((itemDrafts items).reverse ++ done) open_
  | [], hne, _, _ => absurd rfl hne
  | [item], _, done, open_ => feed_toTokens item (.list done :: open_)
  | item :: next :: more, _, done, open_ => by
    have hitem := feed_toTokens item (.list done :: open_)
    have hmore := feed_itemTokens (next :: more) (List.cons_ne_nil _ _) (item.toDraft :: done) open_
    rw [itemTokens_cons_cons, List.foldl_append, List.foldl_cons, hitem]
    show (itemTokens (next :: more)).foldl State.feed (.value (.list (item.toDraft :: done) :: open_)) = _
    rw [hmore]
    simp [itemDrafts]

theorem feed_fieldTokens : ∀ (fields : List (String × Json)), fields ≠ [] → ∀ (done : List (String × Draft))
    (first : Bool) (open_ : List Draft.Frame), (fieldTokens fields).foldl State.feed (.fieldName done first open_) =
      .afterField ((fieldDrafts fields).reverse ++ done) open_
  | [], hne, _, _, _ => absurd rfl hne
  | [(name, value)], _, done, first, open_ => feed_toTokens value (.record done name :: open_)
  | (name, value) :: next :: more, _, done, first, open_ => by
    have hvalue := feed_toTokens value (.record done name :: open_)
    have hmore := feed_fieldTokens (next :: more) (List.cons_ne_nil _ _) ((name, value.toDraft) :: done) false open_
    rw [fieldTokens_cons_cons, List.foldl_cons, List.foldl_cons, List.foldl_append, List.foldl_cons]
    show (fieldTokens (next :: more)).foldl State.feed
      ((value.toTokens.foldl State.feed (.value (.record done name :: open_))).feed .comma) = _
    rw [hvalue]
    show (fieldTokens (next :: more)).foldl State.feed (.fieldName ((name, value.toDraft) :: done) false open_) = _
    rw [hmore]
    simp [fieldDrafts]

end

mutual

theorem toJson?_toDraft : ∀ v : Json, v.toDraft.toJson? = some v
  | .null | .bool _ | .integer _ | .decimal _ | .text _ => rfl
  | .list items => by rw [toDraft, Draft.toJson?, toJson?_itemDrafts items, Option.map_some]
  | .record fields => by rw [toDraft, Draft.toJson?, toJson?_fieldDrafts fields, Option.map_some]

theorem toJson?_itemDrafts : ∀ items : List Json, itemsToJson? (itemDrafts items) = some items
  | [] => rfl
  | item :: rest => by
    rw [itemDrafts, itemsToJson?, toJson?_toDraft item, toJson?_itemDrafts rest]
    rfl

theorem toJson?_fieldDrafts : ∀ fields : List (String × Json), fieldsToJson? (fieldDrafts fields) = some fields
  | [] => rfl
  | (name, value) :: rest => by
    rw [fieldDrafts, fieldsToJson?, toJson?_toDraft value, toJson?_fieldDrafts rest]
    rfl

end

end

theorem ofText_print {v : Json} (h : v.Legible) : Draft.ofText v.print = (v.toDraft, false) := by
  rw [Draft.ofText, tokens_print h, feed_toTokens]
  rfl

/-- The value of the text of a value is the value. -/
theorem parse?_print {v : Json} (h : v.Legible) : parse? v.print = some v := by
  rw [parse?, ofText_print h]
  exact toJson?_toDraft v

/-- Different values have different texts. -/
theorem print_inj {v w : Json} (hv : v.Legible) (hw : w.Legible) (h : v.print = w.print) : v = w := by
  have hboth : some v = some w := by rw [← parse?_print hv, ← parse?_print hw, h]
  exact Option.some_inj.mp hboth

/-! ## Fields in order -/

theorem mem_insertField {α : Type} {name : String} {value : α} {field : String × α} {fields : List (String × α)}
    (h : field ∈ insertField name value fields) : field = (name, value) ∨ field ∈ fields := by
  induction fields with
  | nil => exact .inl (List.mem_singleton.mp h)
  | cons first rest ih =>
    rw [insertField] at h
    split at h
    · exact List.mem_cons.mp h
    · split at h
      · exact (List.mem_cons.mp h).imp_right (List.mem_cons_of_mem _)
      · rcases List.mem_cons.mp h with rfl | h
        · exact .inr List.mem_cons_self
        · exact (ih h).imp_right (List.mem_cons_of_mem _)

theorem mem_itemNumbers {n : Json} {items : List Json} : n ∈ itemNumbers items ↔ ∃ item ∈ items, n ∈ item.numbers := by
  induction items with
  | nil => simp [itemNumbers]
  | cons item rest ih => simp [itemNumbers, ih]

theorem mem_fieldNumbers {n : Json} {fields : List (String × Json)} :
    n ∈ fieldNumbers fields ↔ ∃ field ∈ fields, n ∈ field.2.numbers := by
  induction fields with
  | nil => simp [fieldNumbers]
  | cons field rest ih => simp [fieldNumbers, ih]

mutual

/-- A value with its fields in order has no other numbers. -/
theorem numbers_sorted : ∀ (v : Json) {n : Json}, n ∈ v.sorted.numbers → n ∈ v.numbers
  | .null, _, h | .bool _, _, h | .integer _, _, h | .decimal _, _, h | .text _, _, h => h
  | .list items, _, h => itemNumbers_sortedItems items h
  | .record fields, _, h => (fieldNumbers_sortedFields fields [] h).elim (absurd · List.not_mem_nil) id

theorem itemNumbers_sortedItems : ∀ (items : List Json) {n : Json},
    n ∈ itemNumbers (sortedItems items) → n ∈ itemNumbers items
  | [], _, h => h
  | item :: rest, _, h => (List.mem_append.mp h).elim
      (fun h => List.mem_append_left _ (numbers_sorted item h))
      (fun h => List.mem_append_right _ (itemNumbers_sortedItems rest h))

theorem fieldNumbers_sortedFields : ∀ (fields done : List (String × Json)) {n : Json},
    n ∈ fieldNumbers (sortedFields done fields) → n ∈ fieldNumbers done ∨ n ∈ fieldNumbers fields
  | [], _, _, h => .inl h
  | (name, value) :: rest, done, n, h => by
    rcases fieldNumbers_sortedFields rest (insertField name value.sorted done) h with h | h
    · obtain ⟨field, hfield, hn⟩ := mem_fieldNumbers.mp h
      rcases mem_insertField hfield with rfl | hfield
      · exact .inr (List.mem_append_left _ (numbers_sorted value hn))
      · exact .inl (mem_fieldNumbers.mpr ⟨field, hfield, hn⟩)
    · exact .inr (List.mem_append_right _ h)

end

theorem Legible.sorted {v : Json} (h : v.Legible) : v.sorted.Legible :=
  fun n hn => h n (numbers_sorted v hn)

theorem perm_insertField {α : Type} {name : String} {value : α} {fields : List (String × α)}
    (h : name ∉ fields.map Prod.fst) : (insertField name value fields).Perm ((name, value) :: fields) := by
  induction fields with
  | nil => rfl
  | cons first rest ih =>
    rw [List.map_cons, List.mem_cons, not_or] at h
    rw [insertField]
    split
    · rfl
    · rw [if_neg h.1]
      exact ((ih h.2).cons first).trans (.swap _ _ _)

/-- Of fields with different names none is lost when they are put in order. -/
theorem perm_sortedFields {fields done : List (String × Json)} (h : ((fields ++ done).map Prod.fst).Nodup) :
    (sortedFields done fields).Perm ((fields.map fun field => (field.1, field.2.sorted)) ++ done) := by
  induction fields generalizing done with
  | nil => rfl
  | cons field rest ih =>
    obtain ⟨name, value⟩ := field
    rw [List.cons_append, List.map_cons, List.nodup_cons, List.map_append] at h
    have hinsert : (insertField name value.sorted done).Perm ((name, value.sorted) :: done) :=
      perm_insertField fun hmem => h.1 (List.mem_append_right _ hmem)
    have hmiddle : (rest ++ insertField name value.sorted done).Perm ((name, value.sorted) :: (rest ++ done)) :=
      (hinsert.append_left rest).trans List.perm_middle
    have hnodup : ((rest ++ insertField name value.sorted done).map Prod.fst).Nodup := by
      rw [(hmiddle.map Prod.fst).nodup_iff, List.map_cons, List.map_append]
      exact List.nodup_cons.mpr h
    rw [sortedFields]
    exact (ih hnodup).trans ((hinsert.append_left _).trans List.perm_middle)

end Waterway.Json
