import Waterway.Decimal.Integer
import Waterway.Json.Draft
import Waterway.Json.Printer
import Waterway.Text.Quoted

/-!
# Reading typed data out of JSON

Readers for integers of a range, doubles, strings, lists, named alternatives and records. A reader
works on values and on drafts alike; on failure it gives the first cause it meets.

## Main definitions

- `Layer` — the outermost layer of a document
- `Document` — documents that can be looked at layer by layer
- `ReadError` — why a document does not have the shape asked for, with its `message`
- `readInteger`, `readDouble`, `readText`, `readList`, `readVariant`, `readRecord` — the readers

## Design notes

A record may be given as an object or as the list of its fields in declaration order. The fields of an
object are read in the order in which they stand; only when all of them are in order are missing ones
looked for, in declaration order. A draft is read *as it arrives*: an alternative given as an object is
judged by its first field before the rest of the object is looked at.
-/

namespace Waterway.Json

/-- The outermost layer of a document whose parts are documents of type `α`. -/
inductive Layer (α : Type) where
  | null
  | bool (b : Bool)
  | integer (n : Int)
  | decimal (x : Float)
  | text (s : String)
  | list (items : List α) (complete : Bool)
  | record (fields : List (String × α)) (complete : Bool)
  /-- The text of the document is no JSON here. -/
  | gap

/-- Documents that can be looked at layer by layer. -/
class Document (α : Type) where
  layer : α → Layer α
  /-- Whether a part nobody reads may be passed over. -/
  skippable : α → Bool
  /-- Whether the document is read as it arrives. -/
  arriving : Bool

instance : Document Json where
  layer
    | .null => .null
    | .bool b => .bool b
    | .integer n => .integer n
    | .decimal x => .decimal x
    | .text s => .text s
    | .list items => .list items true
    | .record fields => .record fields true
  skippable _ := true
  arriving := false

instance : Document Draft where
  layer
    | .null => .null
    | .bool b => .bool b
    | .integer n => .integer n
    | .decimal x => .decimal x
    | .text s => .text s
    | .list items complete => .list items complete
    | .record fields complete => .record fields complete
    | .beyondRange | .brokenText | .gap => .gap
  skippable := Draft.skippable
  arriving := true

/-- Why a document does not have the shape asked for. -/
inductive ReadError where
  | missingField (name : String)
  | duplicateField (name : String)
  /-- A value of another kind than expected. -/
  | invalidType (found expected : String)
  /-- A value of the right kind that is not acceptable. -/
  | invalidValue (found expected : String)
  | unknownVariant (name : String) (variants : List String)
  /-- A list with too few items for a record. -/
  | tooShort (length : Nat) (expected : String)
  /-- A list with too many items for a record. -/
  | tooLong (length : Nat)
  /-- A string that denotes no instant. -/
  | notAnInstant
  /-- The text of the document is no JSON. -/
  | malformed
deriving Repr, DecidableEq

def ReadError.message : ReadError → String
  | .missingField name => "missing field `" ++ name ++ "`"
  | .duplicateField name => "duplicate field `" ++ name ++ "`"
  | .invalidType found expected => "invalid type: " ++ found ++ ", expected " ++ expected
  | .invalidValue found expected => "invalid value: " ++ found ++ ", expected " ++ expected
  | .unknownVariant name variants =>
    "unknown variant `" ++ name ++ "`, expected one of " ++
      ", ".intercalate (variants.map fun v => "`" ++ v ++ "`")
  | .tooShort length expected => "invalid length " ++ toString length ++ ", expected " ++ expected
  | .tooLong length => "invalid length " ++ toString length ++ ", expected fewer elements in array"
  | .notAnInstant => "input is not a timestamp"
  | .malformed => "malformed document"

variable {α : Type} [Document α] {β : Type}

/-- How an error message names what it found. -/
def Layer.describe : Layer α → String
  | .null => "null"
  | .bool b => "boolean `" ++ (if b then "true" else "false") ++ "`"
  | .integer n => "integer `" ++ toString n ++ "`"
  | .decimal x => "floating point `" ++ numberLayout.write x ++ "`"
  | .text s => "string " ++ Text.quoted s
  | .list _ _ => "sequence"
  | .record _ _ => "map"
  | .gap => "nothing"

/-- The error for a layer of another kind than expected. -/
def Layer.mismatch (l : Layer α) (expected : String) : ReadError :=
  match l with
  | .gap => .malformed
  | l => .invalidType l.describe expected

open Document

/-- Reads an integer of a range. A number with a fraction or an exponent is none. -/
def readInteger (range : Decimal.IntegerRange) (expected : String) (d : α) : Except ReadError Int :=
  match layer d with
  | .integer n =>
    if range.contains n then .ok n
    else .error (.invalidValue (Layer.integer (α := α) n).describe expected)
  | l => .error (l.mismatch expected)

def readInt32 (d : α) : Except ReadError Int :=
  readInteger (.signed 32) "i32" d

def readInt64 (d : α) : Except ReadError Int :=
  readInteger (.signed 64) "i64" d

def readByte (d : α) : Except ReadError Nat :=
  (readInteger (.unsigned 8) "u8" d).map Int.toNat

/-- Reads a double; an integer is one. -/
def readDouble (d : α) : Except ReadError Float :=
  match layer d with
  | .integer n => .ok (Float.ofInt n)
  | .decimal x => .ok x
  | l => .error (l.mismatch "f64")

def readText (d : α) : Except ReadError String :=
  match layer d with
  | .text s => .ok s
  | l => .error (l.mismatch "a string")

/-- Reads a list whose items `item` reads. -/
def readList (item : α → Except ReadError β) (d : α) : Except ReadError (List β) :=
  match layer d with
  | .list items complete => do
    let values ← items.mapM item
    if complete then .ok values else .error .malformed
  | l => .error (l.mismatch "a sequence")

/-- Reads nothing, which is written `null`. -/
def readUnit (d : α) : Except ReadError Unit :=
  match layer d with
  | .null => .ok ()
  | l => .error (l.mismatch "unit")

/-- Reads a value that may be `null`. -/
def readOptional (read : α → Except ReadError β) (d : α) : Except ReadError (Option β) :=
  match layer d with
  | .null => .ok none
  | _ => (read d).map some

/-- The alternative of a given name. -/
def variantNamed (variants : List (String × β)) (name : String) : Except ReadError β :=
  match variants.lookup name with
  | some b => .ok b
  | none => .error (.unknownVariant name (variants.map (·.1)))

/-- Reads one of several named alternatives: its name, or an object with that name as its only field
and `null` as its value. -/
def readVariant (variants : List (String × β)) (d : α) : Except ReadError β :=
  match layer d with
  | .text name => variantNamed variants name
  | .record fields complete =>
    if arriving α then
      match fields with
      | [] => .error .malformed
      | (name, value) :: rest => do
        let b ← variantNamed variants name
        readUnit value
        if rest.isEmpty && complete then .ok b else .error .malformed
    else
      match fields with
      | [(name, value)] => do
        let b ← variantNamed variants name
        readUnit value
        .ok b
      | _ => .error (.invalidValue "map" "map with a single key")
  | l => if arriving α then .error .malformed else .error (l.mismatch "string or map")

/-- A field of a record: its name and a test of its value. -/
structure FieldCheck (α : Type) where
  name : String
  check : α → Except ReadError Unit

/-- The field `name` whose value `read` reads. -/
def FieldCheck.of (name : String) (read : α → Except ReadError β) : FieldCheck α :=
  ⟨name, fun d => (read d).map fun _ => ()⟩

/-- Goes through the fields of an object in the order in which they stand; `seen` are the declared
fields met so far. -/
def checkFields (declared : List (FieldCheck α)) :
    (seen : List (String × α)) → List (String × α) → Except ReadError (List (String × α))
  | seen, [] => .ok seen
  | seen, (name, value) :: rest =>
    match declared.find? (·.name == name) with
    | none => if skippable value then checkFields declared seen rest else .error .malformed
    | some field =>
      if (seen.lookup name).isSome then .error (.duplicateField name)
      else do
        field.check value
        checkFields declared ((name, value) :: seen) rest

/-- Goes through the items of a list that stand for the declared fields; `done` counts them. -/
def checkItems (expected : String) (complete : Bool) (done : Nat) :
    List (FieldCheck α) → List α → Except ReadError (List (String × α))
  | [], [] => if complete then .ok [] else .error .malformed
  | [], _ :: rest => .error (if arriving α then .malformed else .tooLong (done + 1 + rest.length))
  | _ :: _, [] => .error (if complete then .tooShort done expected else .malformed)
  | field :: fields, item :: items => do
    field.check item
    let rest ← checkItems expected complete (done + 1) fields items
    .ok ((field.name, item) :: rest)

/-- Reads a record: the values of those declared fields that are present, each of which has passed its
test. -/
def readRecord (type : String) (declared : List (FieldCheck α)) (d : α) :
    Except ReadError (List (String × α)) :=
  match layer d with
  | .record fields complete => do
    let seen ← checkFields declared [] fields
    if complete then .ok seen else .error .malformed
  | .list items complete =>
    checkItems ("struct " ++ type ++ " with " ++ toString declared.length ++ " elements") complete 0
      declared items
  | l => .error (l.mismatch ("struct " ++ type))

/-- The value of a field that must be present. -/
def required (fields : List (String × α)) (name : String) (read : α → Except ReadError β) :
    Except ReadError β :=
  match fields.lookup name with
  | some d => read d
  | none => .error (.missingField name)

/-- The value of a field that may be absent or `null`. -/
def optional (fields : List (String × α)) (name : String) (read : α → Except ReadError β) :
    Except ReadError (Option β) :=
  match fields.lookup name with
  | some d => readOptional read d
  | none => .ok none

end Waterway.Json
