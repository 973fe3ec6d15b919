import TenantOnboarding.Failure.Storage
import TenantOnboarding.Identity.Refusal

/-!
# Failures of requests

Why a request could not be served. A failure has a status and a code, a message for the visitor and a
description for the records. Of a failure of the service itself the visitor learns only that it is
one.
-/

namespace TenantOnboarding

/-- Why a request could not be served. -/
inductive Failure where
  /-- Something that nobody foresaw, with what was being done at the time, the innermost first. -/
  | unexpected (cause : String) (contexts : List String)
  /-- The database failed. -/
  | database (cause : DatabaseFailure)
  /-- The visitor is not let in. -/
  | authentication (message : String)
  /-- The request asks for something that cannot be done. -/
  | validation (message : String)
  /-- The visitor belongs to an organization already. -/
  | alreadyExists (user organization : Int64)
  /-- What the request is about does not exist. -/
  | notFound (message : String)
  /-- The service did something wrong. -/
  | internal (message : String)
  deriving Repr, DecidableEq

namespace Failure

/-- The status of the answer. -/
def status : Failure → Nat
  | authentication _ => 401
  | validation _ | alreadyExists .. => 400
  | notFound _ => 404
  | unexpected .. | database _ | internal _ => 500

/-- The code in the answer. -/
def code : Failure → String
  | unexpected .. => "UNEXPECTED_ERROR"
  | database _ => "DATABASE_ERROR"
  | authentication _ => "AUTHENTICATION_ERROR"
  | validation _ => "VALIDATION_ERROR"
  | alreadyExists .. => "ALREADY_EXISTS"
  | notFound _ => "NOT_FOUND"
  | internal _ => "INTERNAL_ERROR"

/-- What is told of every failure of the service itself. -/
def internalMessage : String := "Internal server error"

/-- The description for the records. -/
def description : Failure → String
  | unexpected cause contexts => "Unexpected error: " ++ contexts.getLastD cause
  | database cause => "Database error: " ++ cause.description
  | authentication message => "Authentication error: " ++ message
  | validation message => "Validation error: " ++ message
  | alreadyExists .. => "User already exists"
  | notFound message => "Not found: " ++ message
  | internal message => "Internal error: " ++ message

/-- The message for the visitor. -/
def message (f : Failure) : String :=
  match f with
  | unexpected .. | database _ | internal _ => internalMessage
  | authentication message | validation message | notFound message => message
  | alreadyExists .. => f.description

/-- The failure of a request that a failure of storage is. -/
def ofStorage : StorageFailure → Failure
  | .notFound => notFound "Record not found"
  | .alreadyExists => internal "Record already exists"
  | .connection cause => database cause
  | .invalidData message => validation message

/-- The failure of a request that a refusal is. -/
def ofRefusal (r : Refusal) : Failure :=
  if r.isInternal then internal r.description else authentication r.description

end Failure

end TenantOnboarding
