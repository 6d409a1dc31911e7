import Waterway.Http.Message

/-!
# Requests from other origins

Which web pages may call the server, and what their browsers are told about it.

## Main definitions

- `OriginPolicy` — the origins whose pages may call
- `OriginPolicy.ofOrigins` — the policy of a list of origins, if they can stand in a header
- `OriginPolicy.headers` — the headers of a response

## Design notes

A question in advance, which is any request with the method `OPTIONS`, is answered without a look at
what it is about.
-/

namespace Waterway.Http

/-- Why a list of origins makes no policy. -/
inductive OriginFault where
  /-- An origin holds a character that no header may hold. -/
  | unprintable (origin : String)
  /-- Any origin at all is not a list. -/
  | wildcard
deriving Repr, DecidableEq

/-- The origins whose pages may call the server. -/
structure OriginPolicy where
  allowed : List String
deriving Repr, DecidableEq

namespace OriginPolicy

/-- Whether a text can stand in a header. -/
def isHeaderValue (s : String) : Bool :=
  s.toList.all fun c => (32 ≤ c.toNat && c.toNat ≠ 127) || c == '\t'

/-- The policy of a list of origins. -/
def ofOrigins (origins : List String) : Except OriginFault OriginPolicy :=
  match origins.find? (!isHeaderValue ·) with
  | some origin => .error (.unprintable origin)
  | none => if origins.contains "*" then .error .wildcard else .ok ⟨origins⟩

/-- What tells caches that a response depends on where the request comes from. -/
def vary : Header :=
  ("vary", "origin, access-control-request-method, access-control-request-headers")

/-- The header that names the origin of a request, if its pages may call. -/
def allowOrigin (p : OriginPolicy) (r : Request) : List Header :=
  match header? "origin" r.headers with
  | some origin => if p.allowed.contains origin then [("access-control-allow-origin", origin)] else []
  | none => []

/-- What a browser is told that asks in advance. -/
def advice : List Header :=
  [("access-control-allow-methods", "GET,POST"), ("access-control-allow-headers", "content-type"),
   ("access-control-max-age", "3600")]

/-- The header that lets pages see the identifier of a response. -/
def exposed : Header :=
  ("access-control-expose-headers", "x-request-id")

/-- Whether a request is a question in advance. -/
def isInquiry (r : Request) : Bool :=
  r.method == "OPTIONS"

/-- The headers that the response to a request has because of the policy. -/
def headers (p : OriginPolicy) (r : Request) : List Header :=
  vary :: p.allowOrigin r ++ if isInquiry r then advice else [exposed]

end OriginPolicy

end Waterway.Http
