import Waterway.Json.Printer
import Waterway.Text.Blank

/-!
# Messages of the web interface

Requests and responses, and the type of content that a request declares.

## Main definitions

- `Http.Request`, `Http.Response` — the two messages
- `MediaType.parse?` — the type that a `content-type` header names
- `Http.Request.hasJsonBody` — whether a request declares a JSON body
-/

namespace Waterway.Http

/-- A header: its name and its value. -/
abbrev Header := String × String

structure Request where
  method : String
  /-- The path, perhaps with a query after it. -/
  target : String
  headers : List Header := []
  body : String := ""

inductive Content where
  | none
  /-- A plain text whose wording is nobody's business. -/
  | plain
  | json (value : Json)

structure Response where
  status : Nat
  headers : List Header := []
  content : Content := .none

/-- The value of the first header with a name, which is given in lower case. -/
def header? (name : String) (headers : List Header) : Option String :=
  (headers.find? fun (n, _) => Text.lowerAscii n == name).map (·.2)

/-- The response that is a JSON value. -/
def Response.json (status : Nat) (value : Json) : Response :=
  { status, headers := [("content-type", "application/json")], content := .json value }

/-- The response that refuses a request in plain words. -/
def Response.refusal (status : Nat) : Response :=
  { status, headers := [("content-type", "text/plain; charset=utf-8")], content := .plain }

/-- The type of some content: `type/subtype`, the subtype perhaps with a suffix after a plus sign. -/
structure MediaType where
  type : List Char
  subtype : List Char
  suffix : Option (List Char)
deriving Repr, DecidableEq

namespace MediaType

/-- Whether a character may belong to a name. -/
def isToken (c : Char) : Bool :=
  c.isAlphanum || "!#$%&'*+-.^_|~`".toList.contains c

/-- Whether a character may stand between quotes. -/
def isQuotable (c : Char) : Bool :=
  32 ≤ c.toNat && c.toNat ≠ 127

/-- What may follow a quoted value: blanks, then the end or a semicolon. -/
def afterQuoted : List Char → Option (List Char)
  | [] => some []
  | ';' :: cs => some cs
  | ' ' :: cs => afterQuoted cs
  | _ => none

/-- The rest after one parameter `name=value`; the parameter and a semicolon after it are passed over. -/
def skipParameter (cs : List Char) : Option (List Char) :=
  match cs.takeWhile isToken, cs.dropWhile isToken with
  | _ :: _, '=' :: '"' :: value =>
    match value.takeWhile (fun c => isQuotable c && c != '"'), value.dropWhile (fun c => isQuotable c && c != '"') with
    | _ :: _, '"' :: rest => afterQuoted rest
    | _, _ => none
  | _ :: _, '=' :: value =>
    match value.takeWhile isToken, value.dropWhile isToken with
    | _, [] => some []
    | _ :: _, ';' :: rest => some rest
    | _, _ => none
  | _, _ => none

/-- Whether characters are a list of parameters, given as many tries as there are characters. -/
def areParameters : (tries : Nat) → List Char → Bool
  | _, [] => true
  | 0, _ => false
  | tries + 1, ' ' :: cs => areParameters tries cs
  | tries + 1, cs =>
    match skipParameter cs with
    | some rest => areParameters tries rest
    | none => false

/-- Splits a subtype at its last plus sign, unless that comes first. -/
def ofSubtype (type cs : List Char) : MediaType :=
  let suffix := (cs.reverse.takeWhile (· != '+')).reverse
  let stem := cs.take (cs.length - suffix.length - 1)
  if suffix.length < cs.length ∧ stem ≠ [] then ⟨type, stem, some suffix⟩ else ⟨type, cs, none⟩

/-- The type that a header names, in lower case. -/
def parse? (s : String) : Option MediaType :=
  let cs := s.toList.map Char.toLower
  match cs.takeWhile isToken, cs.dropWhile isToken with
  | c :: type, '/' :: rest =>
    let subtype := rest.takeWhile isToken
    match rest.dropWhile isToken with
    | [] => some (ofSubtype (c :: type) subtype)
    | ';' :: parameters =>
      if subtype ≠ [] && areParameters parameters.length parameters then
        some (ofSubtype (c :: type) subtype)
      else none
    | _ => none
  | _, _ => none

def isJson (m : MediaType) : Bool :=
  m.type = "application".toList && (m.subtype = "json".toList || m.suffix = some "json".toList)

end MediaType

/-- Whether a character may stand in a header that is read as text. -/
def isVisible (c : Char) : Bool :=
  (32 ≤ c.toNat && c.toNat < 127) || c == '\t'

/-- Whether a request declares a JSON body. -/
def Request.hasJsonBody (r : Request) : Bool :=
  match header? "content-type" r.headers with
  | some value => value.toList.all isVisible && (MediaType.parse? value).any MediaType.isJson
  | none => false

/-- The path of a request, without a query. -/
def Request.path (r : Request) : List Char :=
  r.target.toList.takeWhile fun c => c != '?' && c != '#'

end Waterway.Http
