import Waterway.Json.Basic
import Waterway.Json.Token

/-!
# Documents read as far as they go

A draft is what a text says up to the place where it stops being JSON. A text that is JSON throughout
gives a draft without gaps, which is a value.

## Main definitions

- `Draft` — a value with gaps
- `Draft.ofText` — the draft of a text, and whether anything follows the document
- `Json.parse?` — the value of a text that is JSON throughout

## Design notes

Tokens are folded into a draft with a stack of the lists and records that are still open. When a token
does not fit, the open ones are closed as incomplete. A reader that goes through a draft from left to
right therefore meets a mismatch before a gap exactly if the text has them in that order.
-/

namespace Waterway.Json

/-- A JSON document as far as its text could be read. -/
inductive Draft where
  | null
  | bool (b : Bool)
  | integer (n : Int)
  | decimal (x : Float)
  /-- A number too large for a double; it may be skipped but not read. -/
  | beyondRange
  | text (s : String)
  /-- A string with half a surrogate pair; it may be skipped but not read. -/
  | brokenText
  | list (items : List Draft) (complete : Bool)
  | record (fields : List (String × Draft)) (complete : Bool)
  /-- The text stops being JSON here. -/
  | gap
deriving Inhabited

namespace Draft

/-- A list or record that is still open, with what it holds so far in reverse order. -/
inductive Frame where
  | list (items : List Draft)
  /-- A record whose field `name` is being read. -/
  | record (fields : List (String × Draft)) (name : String)

/-- What the text has to go on with. -/
inductive State where
  /-- A value. -/
  | value (open_ : List Frame)
  /-- The first item of a list, or its end. -/
  | firstItem (open_ : List Frame)
  /-- A comma or the end of a list. -/
  | afterItem (items : List Draft) (open_ : List Frame)
  /-- A field name, or, if none has been read, the end of a record. -/
  | fieldName (fields : List (String × Draft)) (first : Bool) (open_ : List Frame)
  /-- A colon. -/
  | colon (fields : List (String × Draft)) (name : String) (open_ : List Frame)
  /-- A comma or the end of a record. -/
  | afterField (fields : List (String × Draft)) (open_ : List Frame)
  /-- Nothing: the document is complete. -/
  | complete (d : Draft)
  /-- Nothing any more; `d` is what was read, and `trailing` tells whether it was a document. -/
  | broken (d : Draft) (trailing : Bool)

/-- Puts a finished value where it belongs. -/
def put (d : Draft) : List Frame → State
  | [] => .complete d
  | .list items :: open_ => .afterItem (d :: items) open_
  | .record fields name :: open_ => .afterField ((name, d) :: fields) open_

/-- Closes everything that is open around an unfinished value. -/
def abandon (d : Draft) : List Frame → Draft
  | [] => d
  | .list items :: open_ => abandon (.list (d :: items).reverse false) open_
  | .record fields name :: open_ => abandon (.record ((name, d) :: fields).reverse false) open_

/-- What has been read when the text breaks off in a state. -/
def State.breakOff : State → Draft × Bool
  | .value open_ => (abandon .gap open_, false)
  | .firstItem open_ => (abandon (.list [] false) open_, false)
  | .afterItem items open_ => (abandon (.list items.reverse false) open_, false)
  | .fieldName fields _ open_ => (abandon (.record fields.reverse false) open_, false)
  | .colon fields name open_ => (abandon (.record ((name, .gap) :: fields).reverse false) open_, false)
  | .afterField fields open_ => (abandon (.record fields.reverse false) open_, false)
  | .complete d => (d, true)
  | .broken d trailing => (d, trailing)

/-- The state in which a text that does not go on properly is left. -/
def State.fail (s : State) : State :=
  let (d, trailing) := s.breakOff
  .broken d trailing

/-- Starts a value with a token, inside the open lists and records. -/
def startValue (open_ : List Frame) (t : Token) : Option State :=
  match t with
  | .null => some (put .null open_)
  | .bool b => some (put (.bool b) open_)
  | .integer n => some (put (.integer n) open_)
  | .decimal x => some (put (.decimal x) open_)
  | .beyondRange => some (put .beyondRange open_)
  | .text s => some (put (.text s) open_)
  | .brokenText => some (put .brokenText open_)
  | .listStart => some (.firstItem open_)
  | .recordStart => some (.fieldName [] true open_)
  | _ => none

/-- Goes on with a token. -/
def State.feed (s : State) (t : Token) : State :=
  match s, t with
  | .value open_, t => (startValue open_ t).getD s.fail
  | .firstItem open_, .listEnd => put (.list [] true) open_
  | .firstItem open_, t => (startValue (.list [] :: open_) t).getD (State.value (.list [] :: open_)).fail
  | .afterItem items open_, .comma => .value (.list items :: open_)
  | .afterItem items open_, .listEnd => put (.list items.reverse true) open_
  | .fieldName fields _ open_, .text n => .colon fields n open_
  | .fieldName fields true open_, .recordEnd => put (.record fields.reverse true) open_
  | .colon fields n open_, .colon => .value (.record fields n :: open_)
  | .afterField fields open_, .comma => .fieldName fields false open_
  | .afterField fields open_, .recordEnd => put (.record fields.reverse true) open_
  | .broken d trailing, _ => .broken d trailing
  | s, _ => s.fail

/-- The draft of a text, and whether anything but blanks follows the document. -/
def ofText (s : String) : Draft × Bool :=
  match (tokens s).foldl State.feed (.value []) with
  | .complete d => (d, false)
  | s => s.breakOff

mutual

/-- The value that a draft without gaps is. -/
def toJson? : Draft → Option Json
  | .null => some .null
  | .bool b => some (.bool b)
  | .integer n => some (.integer n)
  | .decimal x => some (.decimal x)
  | .text s => some (.text s)
  | .list items true => (itemsToJson? items).map .list
  | .record fields true => (fieldsToJson? fields).map .record
  | _ => none

def itemsToJson? : List Draft → Option (List Json)
  | [] => some []
  | item :: rest => do
    let v ← item.toJson?
    let vs ← itemsToJson? rest
    some (v :: vs)

def fieldsToJson? : List (String × Draft) → Option (List (String × Json))
  | [] => some []
  | (name, d) :: rest => do
    let v ← d.toJson?
    let vs ← fieldsToJson? rest
    some ((name, v) :: vs)

end

mutual

/-- Whether a draft may be skipped: it has no gap, whatever its numbers and strings denote. -/
def skippable : Draft → Bool
  | .gap => false
  | .list items complete => itemsSkippable items && complete
  | .record fields complete => fieldsSkippable fields && complete
  | _ => true

def itemsSkippable : List Draft → Bool
  | [] => true
  | item :: rest => item.skippable && itemsSkippable rest

def fieldsSkippable : List (String × Draft) → Bool
  | [] => true
  | (_, d) :: rest => d.skippable && fieldsSkippable rest

end

end Draft

/-- The value of a text that is JSON throughout. -/
def parse? (s : String) : Option Json :=
  match Draft.ofText s with
  | (d, false) => d.toJson?
  | (_, true) => none

end Waterway.Json
