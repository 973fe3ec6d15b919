import TenantOnboarding.Text.Numeral

/-!
# Failures of the database

What the database, or the connection to it, may answer instead of a result.
-/

namespace TenantOnboarding

/-- What went wrong between the service and the database. -/
inductive DatabaseFailure where
  /-- A statement that must return a row returned none. -/
  | rowNotFound
  /-- No connection became free in time. -/
  | poolTimedOut
  /-- The pool of connections is closed. -/
  | poolClosed
  /-- The worker behind a connection died. -/
  | workerCrashed
  /-- A row has no column of the name. -/
  | columnNotFound (name : String)
  /-- The database has no type of the name. -/
  | typeNotFound (name : String)
  /-- A value of a row is not of the type that it must have. -/
  | unreadable (column : Nat)
  /-- The database sent what its protocol does not allow. -/
  | protocol (message : String)
  /-- The connection broke. -/
  | connection (message : String)
  /-- The database refused a statement, with a code of five characters if it gave one. -/
  | refused (code : Option String) (message : String)
  deriving Repr, DecidableEq

namespace DatabaseFailure

/-- The code of a statement that breaks a uniqueness constraint. -/
def uniqueViolation : String := "23505"

/-- The code of the refusal, if there is one. -/
def code? : DatabaseFailure → Option String
  | refused code _ => code
  | _ => none

/-- The description for the records. -/
def description : DatabaseFailure → String
  | rowNotFound => "no rows returned by a query that expected to return at least one row"
  | poolTimedOut => "pool timed out while waiting for an open connection"
  | poolClosed => "attempted to acquire a connection on a closed pool"
  | workerCrashed => "attempted to communicate with a crashed background worker"
  | columnNotFound name => "no column found for name: " ++ name
  | typeNotFound name => "type named " ++ name ++ " not found"
  | unreadable column =>
    "error occurred while decoding column " ++ String.ofList (Text.numeral column) ++
      ": unexpected value"
  | protocol message => "encountered unexpected or invalid data: " ++ message
  | connection message => "error communicating with database: " ++ message
  | refused _ message => "error returned from database: " ++ message

end DatabaseFailure

end TenantOnboarding
