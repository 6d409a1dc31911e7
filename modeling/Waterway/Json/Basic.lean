/-!
# JSON values

Values with integers kept apart from other numbers, and records as lists of fields in the order in
which they stand.

## Main definitions

- `Json` — a JSON value
- `Json.sorted` — the value with the fields of every record in ascending order of their names, the
  last of several fields of one name being kept

## Design notes

A record of this type may name a field twice, as a text may. Two values denote the same JSON data when
their `sorted` forms are equal.
-/

namespace Waterway

inductive Json where
  | null
  | bool (b : Bool)
  | integer (n : Int)
  /-- A number written with a fraction or an exponent, or one beyond the integers of 64 bits. -/
  | decimal (x : Float)
  | text (s : String)
  | list (items : List Json)
  | record (fields : List (String × Json))
deriving Inhabited

namespace Json

/-- The value of a measurement; one that is no finite number has none. -/
def ofFloat (x : Float) : Json :=
  if x.isFinite then .decimal x else .null

/-- The value of something that may be absent. -/
def ofOption {α : Type} (encode : α → Json) : Option α → Json
  | none => .null
  | some a => encode a

/-- Puts a field in its place among fields in ascending order, in place of one of the same name. -/
def insertField {α : Type} (name : String) (value : α) : List (String × α) → List (String × α)
  | [] => [(name, value)]
  | (n, v) :: rest =>
    if name < n then (name, value) :: (n, v) :: rest
    else if name = n then (name, value) :: rest
    else (n, v) :: insertField name value rest

mutual

/-- The value with the fields of every record in ascending order, the last of one name being kept. -/
def sorted : Json → Json
  | .list items => .list (sortedItems items)
  | .record fields => .record (sortedFields [] fields)
  | value => value

/-- The items of a list, each with its fields in order. -/
def sortedItems : List Json → List Json
  | [] => []
  | item :: rest => item.sorted :: sortedItems rest

/-- Adds fields, in the order in which they stand, to fields already in ascending order. -/
def sortedFields (done : List (String × Json)) : List (String × Json) → List (String × Json)
  | [] => done
  | (name, value) :: rest => sortedFields (insertField name value.sorted done) rest

end

/-- The value of the last field with a name. -/
def field? (name : String) : Json → Option Json
  | .record fields => (fields.reverse.find? (·.1 == name)).map (·.2)
  | _ => none

end Json

end Waterway
