import TenantOnboarding.Organization.Basic

/-!
# Statements and rows

What the service asks of the database, and the rows that it gets back.
-/

namespace TenantOnboarding

/-- What the service asks of the database. -/
inductive Statement where
  /-- The numbers of the user of an email and of their organization. -/
  | findMembership (email : String)
  /-- The user of an email. -/
  | findUser (email : String)
  /-- Begins a transaction. -/
  | begin
  | insertOrganization (name : String) (description : Option String)
  /-- Sets a setting of the connection, for the transaction alone or as long as the connection lasts. -/
  | setConfig (name value : String) (isLocal : Bool)
  | insertUser (email : String) (organization : Int64) (role : Role)
  /-- Runs the file of a migration. -/
  | migrate
  /-- Enters a migration into the list of those that have been run. -/
  | recordMigration (version : Int64) (description : String)
  /-- Ends the transaction and keeps its rows. -/
  | commit
  deriving Repr, DecidableEq

/-- A moment in the dealings with the database at which something may go wrong. -/
inductive Moment where
  /-- A connection is opened. -/
  | connect
  | findMembership
  | findUser
  | begin
  | insertOrganization
  | setConfig
  | insertUser
  | commit
  /-- The file of a migration is run. -/
  | migrate
  /-- A migration is entered into the list of those that have been run. -/
  | recordMigration
  deriving Repr, DecidableEq

/-- The moment of a statement. -/
def Statement.moment : Statement → Moment
  | findMembership _ => .findMembership
  | findUser _ => .findUser
  | begin => .begin
  | insertOrganization .. => .insertOrganization
  | setConfig .. => .setConfig
  | insertUser .. => .insertUser
  | migrate => .migrate
  | recordMigration .. => .recordMigration
  | commit => .commit

/-- The texts that a statement carries. -/
def Statement.texts : Statement → List String
  | findMembership email | findUser email => [email]
  | insertOrganization name description => name :: description.toList
  | setConfig name value _ => [name, value]
  | insertUser email _ _ => [email]
  | begin | migrate | recordMigration .. | commit => []

/-- A value in a row. -/
inductive Cell where
  | null
  | int (i : Int64)
  | text (s : String)
  deriving Repr, DecidableEq

/-- A row: its values in the order of the columns. -/
abbrev Row := List Cell

namespace Cell

/-- A text that may be missing. -/
def ofText? : Option String → Cell
  | some s => text s
  | none => null

/-- The integer that a value is. -/
def int? : Cell → Option Int64
  | int i => some i
  | _ => none

/-- The text that a value is. -/
def text? : Cell → Option String
  | text s => some s
  | _ => none

/-- A value that may be null, read by `f` when it is not. -/
def optional? {α : Type} (f : Cell → Option α) : Cell → Option (Option α)
  | null => some none
  | c => (f c).map some

end Cell

/-- The row of an organization. -/
def Organization.toRow (o : Organization) : Row :=
  [.int o.id, .text o.name, .ofText? o.description]

/-- The row of a user. -/
def AppUser.toRow (u : AppUser) : Row :=
  [.int u.id, .text u.email, .int u.organization, .text u.role.name]

/-- The organization of a row. -/
def Organization.ofRow? : Row → Option Organization
  | [id, name, description] => do
    return ⟨← id.int?, ← name.text?, ← description.optional? Cell.text?⟩
  | _ => none

/-- The user of a row. -/
def AppUser.ofRow? : Row → Option AppUser
  | [id, email, organization, role] => do
    return ⟨← id.int?, ← email.text?, ← organization.int?, ← role.text? >>= Role.ofName?⟩
  | _ => none

/-- The membership of a row. -/
def Membership.ofRow? : Row → Option Membership
  | [user, organization] => do
    return ⟨← user.optional? Cell.int?, ← organization.optional? Cell.int?⟩
  | _ => none

end TenantOnboarding
