import TenantOnboarding.Failure.Storage
import TenantOnboarding.Json.Value
import TenantOnboarding.Script

/-!
# Writing tenants

The statements that write an organization and its users. They run in a transaction, and before a user is
written, the transaction's claims name the organization that the user is for.
-/

namespace TenantOnboarding.Tenancy

/-- Sends a statement; that it fails is a failure of storage. -/
def tell (s : Statement) : Work StorageFailure (List Row) :=
  (Database.send s).adapt .ofDatabase

/-- The first of the rows, which must be there, read by `ofRow?`. -/
def required {α : Type} (ofRow? : Row → Option α) : List Row → Except StorageFailure α
  | [] => .error (.ofDatabase .rowNotFound)
  | row :: _ =>
    match ofRow? row with
    | some a => .ok a
    | none => .error (.ofDatabase (.unreadable 0))

/-- Begins a transaction. If that fails, none goes on, even if the database has begun one. -/
def begin : Work StorageFailure Unit := do
  match ← ExceptT.lift (tell .begin).run with
  | .ok _ => return ()
  | .error cause =>
    ExceptT.lift Database.abandon
    throw cause

/-- Writes an organization. -/
def insertOrganization (name : String) (description : Option String) :
    Work StorageFailure Organization := do
  required Organization.ofRow? (← tell (.insertOrganization name description))

/-- The claims of a transaction for an organization. -/
def claimsOf (organization : Int64) : String :=
  (Json.Value.object [("current_organization_id", .int organization.toInt)]).compact

/-- The setting that holds the claims of a transaction. -/
def claimsSetting : String := "request.jwt.claims"

/-- Has the transaction run for an organization. -/
def setOrganization (organization : Int64) : Work StorageFailure Unit := do
  let _ ← tell (.setConfig claimsSetting (claimsOf organization) true)

/-- Writes a user. -/
def insertUser (email : String) (organization : Int64) (role : Role) :
    Work StorageFailure AppUser := do
  required AppUser.ofRow? (← tell (.insertUser email organization role))

/-- Runs `body` in a transaction. It is committed if `body` succeeds, and otherwise it is abandoned. -/
def inTransaction {α : Type} (body : Work StorageFailure α) : Work StorageFailure α := do
  begin
  match ← ExceptT.lift body.run with
  | .ok a =>
    Database.close.adapt .ofDatabase
    return a
  | .error cause =>
    ExceptT.lift Database.abandon
    throw cause

end TenantOnboarding.Tenancy
