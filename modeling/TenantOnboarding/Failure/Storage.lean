import TenantOnboarding.Failure.Database

/-!
# Failures of storage

A failure of the database as the code that stores records sees it: a missing record and a record that is
there already are told apart from everything else.
-/

namespace TenantOnboarding

/-- Why records could not be read or written. -/
inductive StorageFailure where
  /-- A record that must be there is missing. -/
  | notFound
  /-- A record that must be new is there already. -/
  | alreadyExists
  /-- The database failed in another way. -/
  | connection (cause : DatabaseFailure)
  /-- The data cannot be stored. -/
  | invalidData (message : String)
  deriving Repr, DecidableEq

namespace StorageFailure

/-- The failure of storage that a failure of the database is. -/
def ofDatabase (cause : DatabaseFailure) : StorageFailure :=
  if cause = .rowNotFound then notFound
  else if cause.code? = some DatabaseFailure.uniqueViolation then alreadyExists
  else connection cause

/-- The description for the records. -/
def description : StorageFailure → String
  | notFound => "Record not found"
  | alreadyExists => "Record already exists"
  | connection cause => "Database connection error: " ++ cause.description
  | invalidData message => "Invalid data: " ++ message

end StorageFailure

end TenantOnboarding
