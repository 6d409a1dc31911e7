import Waterway.Http.Message
import Waterway.Ingest

/-!
# Failures as responses

What a client is told when its request is not fulfilled.

## Main definitions

- `ServiceError.message` — the wording for the operator
- `Http.Complaint` — status, code and sentence for the client
- `ServiceError.complaint`, `ServiceError.response` — what the client gets

## Design notes

Every failure of the program itself has one and the same complaint, whatever caused it. A database
that cannot be reached has another, which tells devices to try again.
-/

namespace Waterway

open Http

def ServiceError.message : ServiceError → String
  | .domain e => e.message
  | .engine e => e.message
  | .database e => "Database error: " ++ e.message
  | .badRequest reason => "Bad request: " ++ reason
  | .internal reason => "Internal error: " ++ reason

/-- What a client is told. -/
structure Http.Complaint where
  status : Nat
  code : String
  sentence : String
deriving Repr, DecidableEq

namespace Http.Complaint

/-- Something is not there. -/
def missing (sentence : String) : Complaint :=
  ⟨404, "NOT_FOUND", sentence⟩

/-- The program has failed; why is not the client's business. -/
def hidden : Complaint :=
  ⟨500, "INTERNAL_ERROR", "An internal error occurred"⟩

/-- The database cannot be reached. -/
def unavailable : Complaint :=
  ⟨503, "DATABASE_UNAVAILABLE", "Database is unavailable, retry later"⟩

def response (c : Complaint) : Response :=
  .json c.status (.record [("code", .text c.code), ("error", .text c.sentence)])

end Http.Complaint

/-- The code with which a database reports that a row refers to one that is not there. -/
def DatabaseError.danglingReference : String :=
  "23503"

/-- What a client is told about a failed statement. -/
def DatabaseError.complaint : DatabaseError → Complaint
  | .rowNotFound => .missing "Resource not found"
  | .poolTimedOut | .poolClosed | .io => .unavailable
  | .reported code constraint =>
    if code = some danglingReference then
      .missing ("Referenced row no longer exists (" ++ constraint.getD "unknown" ++ ")")
    else .hidden
  | .protocol | .columnNotFound | .workerCrashed => .hidden

def DomainError.complaint : DomainError → Complaint
  | .notFound entity id => .missing (entity ++ " with id " ++ toString id ++ " not found")
  | .validation reason => ⟨400, "VALIDATION_ERROR", reason⟩
  | .configuration _ | .internal _ => .hidden

def EngineError.complaint : EngineError → Complaint
  | .notRegistered id | .unknownLocation id =>
    .missing ("Location with id " ++ toString id ++ " not found")
  | .configuration _ | .collaborator _ | .workerStopped _ => .hidden

namespace ServiceError

def complaint : ServiceError → Complaint
  | .domain e => e.complaint
  | .engine e => e.complaint
  | .database e => e.complaint
  | .badRequest reason => ⟨400, "BAD_REQUEST", reason⟩
  | .internal _ => .hidden

/-- The response to a request that is not fulfilled. -/
def response (e : ServiceError) : Response :=
  e.complaint.response

end ServiceError

end Waterway
