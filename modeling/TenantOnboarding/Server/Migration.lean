import TenantOnboarding.Script
import TenantOnboarding.Text.Numeral

/-!
# Migrations

The tables are made by migrations, which are run in order and entered into a list. Before any is run,
the list is compared with the migrations that are known: each entry must be complete, known and
unchanged.
-/

namespace TenantOnboarding.Server

/-- A known migration. -/
structure Migration where
  version : Int64
  description : String
  /-- The digest of its file. -/
  checksum : List UInt8
  deriving Repr, DecidableEq

/-- The migrations that are known, in order: one, which makes the tables of organizations and users. -/
def knownMigrations : List Migration :=
  [⟨1, "organizations",
    [0x82, 0xEB, 0xF1, 0x6D, 0xAE, 0xE1, 0x7A, 0xE7, 0xB3, 0xF4, 0x73, 0x62, 0x68, 0xE8, 0xA9, 0xA7,
      0x5F, 0xED, 0x0D, 0xFD, 0x5E, 0xBF, 0xBD, 0x80, 0x1B, 0x18, 0xFF, 0x1C, 0xA8, 0xF6, 0x91, 0x6D,
      0x2B, 0x14, 0xEB, 0x58, 0x9F, 0xEA, 0x69, 0x6D, 0xBF, 0x7E, 0x9A, 0x17, 0x6B, 0x1C, 0xA3, 0xCA]⟩]

/-- Why the migrations could not be run. -/
inductive MigrationFailure where
  /-- An earlier run of a migration did not reach its end. -/
  | incomplete (version : Int64)
  /-- A migration that has been run is not known. -/
  | unknown (version : Int64)
  /-- A migration that has been run was another one. -/
  | modified (version : Int64)
  /-- A migration's file failed. -/
  | file (version : Int64) (cause : DatabaseFailure)
  /-- The database failed beside a file. -/
  | database (cause : DatabaseFailure)
  deriving Repr, DecidableEq

/-- The decimal text of a version. -/
def versionText (version : Int64) : String :=
  String.ofList (Text.numeral version.toInt)

/-- The description of a failure, without its cause. -/
def MigrationFailure.description : MigrationFailure → String
  | incomplete version =>
    "migration " ++ versionText version ++
      " is partially applied; fix and remove row from \x60_sqlx_migrations\x60 table"
  | unknown version =>
    "migration " ++ versionText version ++
      " was previously applied but is missing in the resolved migrations"
  | modified version =>
    "migration " ++ versionText version ++ " was previously applied but has been modified"
  | file version _ => "while executing migration " ++ versionText version
  | database _ => "while executing migrations"

namespace Migration

/-- Sends a statement of a migration. -/
def tell (s : Statement) : Work MigrationFailure Unit := do
  let _ ← (Database.send s).adapt MigrationFailure.database

/-- Runs a migration in a transaction and enters it into the list. -/
def apply (m : Migration) : Work MigrationFailure Unit := do
  tell .begin
  let body : Work MigrationFailure Unit := do
    let _ ← (Database.send .migrate).adapt (MigrationFailure.file m.version)
    tell (.recordMigration m.version m.description)
  match ← ExceptT.lift body.run with
  | .ok _ => Database.close.adapt .database
  | .error failure =>
    ExceptT.lift Database.abandon
    throw failure

/-- What is wrong with the list of migrations that have been run, if anything is. -/
def listFault? (known : List Migration) (applied : List AppliedMigration) :
    Option MigrationFailure :=
  let applied := applied.mergeSort fun a b => decide (a.version ≤ b.version)
  match applied.find? (!·.complete) with
  | some a => some (.incomplete a.version)
  | none =>
    match applied.find? fun a => !known.any (·.version == a.version) with
    | some a => some (.unknown a.version)
    | none => none

/-- Runs the migrations that have not been run. -/
def applyAll (applied : List AppliedMigration) : List Migration → Work MigrationFailure Unit
  | [] => return ()
  | m :: rest => do
    match applied.find? (·.version == m.version) with
    | some a => if a.checksum ≠ m.checksum then throw (.modified m.version)
    | none => m.apply
    applyAll applied rest

/-- Brings the tables of a database up to date. -/
def run (known : List Migration) (db : Database) : Except MigrationFailure Unit × Database :=
  match db.connect with
  | (.error cause, db) => (.error (.database cause), db)
  | (.ok _, db) =>
    match listFault? known db.migrations with
    | some failure => (.error failure, db)
    | none => (applyAll db.migrations known).run db

end Migration

end TenantOnboarding.Server
