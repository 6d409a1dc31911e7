/-!
# Domain errors

What can go wrong in the domain itself, and in the services around it.

## Main definitions

- `DomainError` — a missing entity, a value that is not acceptable, a bad setting, an internal fault
- `EngineError` — why the engine refused or could not finish a call
-/

namespace Waterway

/-- The key of a stored row. -/
abbrev RowId := Int

/-- The key of a monitored waterway site. -/
abbrev LocationId := RowId

/-- What can go wrong in the domain. -/
inductive DomainError where
  | notFound (entity : String) (id : RowId)
  | validation (reason : String)
  /-- A setting is missing or malformed; no default takes its place. -/
  | configuration (reason : String)
  | internal (reason : String)
deriving Repr, DecidableEq

def DomainError.message : DomainError → String
  | .notFound entity id => "Entity not found: " ++ entity ++ " with id " ++ toString id
  | .validation reason => "Validation failed: " ++ reason
  | .configuration reason => "Configuration error: " ++ reason
  | .internal reason => "Internal error: " ++ reason

/-- Why the engine refused or could not finish a call. -/
inductive EngineError where
  /-- The alert thresholds are missing or malformed. -/
  | configuration (reason : String)
  /-- An observation of a location that is not known. -/
  | unknownLocation (id : LocationId)
  /-- A question about a location that is not registered. -/
  | notRegistered (id : LocationId)
  /-- A store or a directory failed. -/
  | collaborator (reason : String)
  /-- The worker of a location is gone. -/
  | workerStopped (id : LocationId)
deriving Repr, DecidableEq

namespace EngineError

def message : EngineError → String
  | .configuration reason => "Configuration error: " ++ reason
  | .unknownLocation id => "Unknown location: " ++ toString id
  | .notRegistered id => "Location " ++ toString id ++ " is not registered"
  | .collaborator reason => "Collaborator error: " ++ reason
  | .workerStopped id => "Worker for location " ++ toString id ++ " has stopped"

/-- A domain error as the engine reports it: a bad setting stays one, all else is a failed
collaborator. -/
def ofDomain : DomainError → EngineError
  | .configuration reason => .configuration reason
  | error => .collaborator error.message

end EngineError

end Waterway
