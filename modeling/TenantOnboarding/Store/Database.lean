import TenantOnboarding.Store.Fault

/-!
# The database

A database answers statements one after another. Rows that are inserted in a transaction become visible
when it is committed; a failure makes a transaction useless, and it can only be rolled back. Every
statement that reaches the database is logged. The history of a database says in which order statements
were carried out and rows were committed, by the service or by others.
-/

namespace TenantOnboarding

/-- A migration that has been run. -/
structure AppliedMigration where
  version : Int64
  description : String
  /-- The digest of its file. -/
  checksum : List UInt8
  /-- Whether it ran to its end. -/
  complete : Bool
  deriving Repr, DecidableEq

/-- Where a transaction stands. -/
inductive Transaction where
  /-- There is none. -/
  | closed
  /-- It goes on. -/
  | active (pending : Pending)
  /-- A statement of it failed. -/
  | aborted
  /-- Its connection broke. -/
  | lost
  deriving Repr, DecidableEq

/-- Something that happened at a database. -/
inductive Occurrence where
  /-- A statement of the service was carried out. -/
  | ran (s : Statement)
  /-- Another client committed a change while the service's transaction had inserted some rows. -/
  | changed (c : Store.Change) (held : Pending)
  /-- The service committed the rows of a transaction. -/
  | committed (rows : Pending)
  deriving Repr, DecidableEq

/-- A database as the service meets it. -/
structure Database where
  /-- The committed rows. -/
  store : Store
  /-- The migrations that have been run. -/
  migrations : List AppliedMigration
  /-- Whether it can be connected to. -/
  reachable : Bool
  /-- Whether there is an idle connection. -/
  connected : Bool
  transaction : Transaction
  /-- What is still to happen. -/
  faults : List Fault
  /-- The statements that reached it, the last one first. -/
  log : List Statement
  /-- What happened at it, the last first. -/
  history : List Occurrence
  deriving Repr, DecidableEq

/-- What the database replies to a statement. -/
abbrev Reply := Except DatabaseFailure (List Row)

namespace Database

/-- The database with some rows, to which no connection has been opened. -/
def ofStore (store : Store) : Database := ⟨store, [], true, false, .closed, [], [], []⟩

/-- A broken connection. -/
def broken : DatabaseFailure := .connection "connection closed by the other side"

/-- The code of a statement in a transaction of which a statement has failed. -/
def inAborted : String := "25P02"

/-- The code of a text that no column can hold. -/
def badText : String := "22021"

/-- The code of a value that a check forbids. -/
def checkViolation : String := "23514"

/-- The code of a reference to a row that does not exist. -/
def referenceViolation : String := "23503"

/-- The code of a table whose numbers are used up. -/
def sequenceLimit : String := "2200H"

/-- A refusal of the database. -/
def refusal (code : String) : DatabaseFailure := .refused (some code) "refused"

/-! ## Moments -/

/-- The rows that the transaction has inserted, if one goes on. -/
def pending (db : Database) : Pending :=
  match db.transaction with
  | .active p => p
  | _ => ⟨[], [], []⟩

/-- Enters an occurrence into the history. -/
def note (o : Occurrence) (db : Database) : Database :=
  { db with history := o :: db.history }

/-- The database after another client has committed a change. -/
def accept (db : Database) (c : Store.Change) : Database :=
  { db.note (.changed c db.pending) with store := db.store.apply c }

/-- Lets happen what is to happen at a moment, and says how the moment ends. -/
def meet (moment : Moment) (db : Database) : Ending × Database :=
  match Fault.meet moment db.faults with
  | (none, faults) => (.plain, { db with faults })
  | (some f, faults) => (f.ending, f.changes.foldl accept { db with faults })

/-- Opens a connection, if there is no idle one. -/
def connect (db : Database) : Except DatabaseFailure Unit × Database :=
  if db.connected then (.ok (), db)
  else if !db.reachable then (.error broken, db)
  else match db.meet .connect with
    | (.lost, db) | (.unanswered, db) => (.error broken, db)
    | (.failed cause, db) => (.error cause, db)
    | (_, db) => (.ok (), { db with connected := true })

/-- The database after a failure: a transaction that goes on is aborted. -/
def abort (db : Database) : Database :=
  match db.transaction with
  | .active _ => { db with transaction := .aborted }
  | _ => db

/-- The database after its connection broke. -/
def disconnect (db : Database) : Database :=
  { db with
    connected := false
    transaction := match db.transaction with
      | .closed => .closed
      | _ => .lost }

/-! ## Effects -/

/-- A refused statement. -/
def refuse (code : String) (db : Database) : Reply × Database :=
  (.error (refusal code), db.abort)

/-- Whether a name and a description keep to the limits of their columns. -/
def fits (name : String) (description : Option String) : Bool :=
  1 ≤ name.length && name.length ≤ 255 && description.all (·.length ≤ 2000)

/-- Inserts an organization. The number that it draws is used up even if the insertion fails. -/
def insertOrganization (name : String) (description : Option String) (db : Database) :
    Reply × Database :=
  let drawn := { db with store := db.store.drawOrganization }
  let p := db.pending
  match db.store.nextOrganization with
  | none => drawn.refuse sequenceLimit
  | some id =>
    if fits name description then
      if (db.store.organizations ++ p.organizations).any (·.id == id) then
        drawn.refuse DatabaseFailure.uniqueViolation
      else
        let o : Organization := ⟨id, name, description⟩
        (.ok [o.toRow],
          { drawn with transaction := .active { p with organizations := p.organizations ++ [o] } })
    else drawn.refuse checkViolation

/-- Inserts a user. The number that they draw is used up even if the insertion fails. -/
def insertUser (email : String) (organization : Int64) (role : Role) (db : Database) :
    Reply × Database :=
  let drawn := { db with store := db.store.drawUser }
  let p := db.pending
  match db.store.nextUser with
  | none => drawn.refuse sequenceLimit
  | some id =>
    if (db.store.users ++ p.users).any (fun u => u.id == id || u.email == email) then
      drawn.refuse DatabaseFailure.uniqueViolation
    else if (db.store.organizations ++ p.organizations).any (·.id == organization) then
      let u : AppUser := ⟨id, email, organization, role⟩
      (.ok [u.toRow], { drawn with transaction := .active { p with users := p.users ++ [u] } })
    else drawn.refuse referenceViolation

/-- Makes the rows of the transaction visible, unless a number or an email of theirs has been committed
meanwhile. -/
def commit (db : Database) : Reply × Database :=
  let p := db.pending
  let db := { db with transaction := .closed }
  if db.store.Apart p then
    (.ok [],
      { db.note (.committed p) with
        store.organizations := db.store.organizations ++ p.organizations
        store.users := db.store.users ++ p.users
        migrations := db.migrations ++ p.migrations.map fun (version, description) =>
          ⟨version, description, [], true⟩ })
  else db.refuse DatabaseFailure.uniqueViolation

/-- Enters a migration into the list. -/
def recordMigration (version : Int64) (description : String) (db : Database) :
    Reply × Database :=
  let p := db.pending
  let migrations := p.migrations ++ [(version, description)]
  (.ok [], { db with transaction := .active { p with migrations } })

/-- The effect of a statement. -/
def perform (s : Statement) (db : Database) : Reply × Database :=
  match s with
  | .findMembership email =>
    (.ok ((db.store.userOf? email).toList.map fun u => [.int u.id, .int u.organization]), db)
  | .findUser email => (.ok ((db.store.userOf? email).toList.map AppUser.toRow), db)
  | .begin => (.ok [], { db with transaction := .active ⟨[], [], []⟩ })
  | .insertOrganization name description => db.insertOrganization name description
  | .setConfig .. => (.ok [], db)
  | .insertUser email organization role => db.insertUser email organization role
  | .migrate => (.ok [], db)
  | .recordMigration version description => db.recordMigration version description
  | .commit => db.commit

/-- Carries a statement out, unless a text of it can be held by no column. -/
def execute (s : Statement) (db : Database) : Reply × Database :=
  if s.texts.any (·.toList.contains '\x00') then db.refuse badText
  else (db.note (.ran s)).perform s

/-- A statement that reached the database, at its moment. -/
def answer (s : Statement) (db : Database) : Reply × Database :=
  match db.meet s.moment with
  | (.plain, db) => db.execute s
  | (.lost, db) => (.error broken, db.disconnect)
  | (.unanswered, db) => (.error broken, (db.execute s).2.disconnect)
  | (.failed cause, db) => (.error cause, db.abort)
  | (.rows rs, db) =>
    match db.execute s with
    | (.ok _, db) => (.ok rs, db)
    | failed => failed

/-- What comes of a statement that is sent. In a transaction that was aborted every statement is refused,
and a commit only rolls back; in one whose connection broke none reaches the database. -/
def deliver (s : Statement) (db : Database) : Reply × Database :=
  match db.transaction with
  | .lost => (.error broken, db)
  | .aborted =>
    let db := { db with log := s :: db.log }
    if s = .commit then (.ok [], { db with transaction := .closed })
    else (.error (refusal inAborted), db)
  | .closed | .active _ =>
    match db.connect with
    | (.error cause, db) => (.error cause, db)
    | (.ok _, db) => ({ db with log := s :: db.log } : Database).answer s

/-- Rolls the transaction back. -/
def rollback (db : Database) : Except DatabaseFailure Unit × Database :=
  (if db.transaction = .lost then .error broken else .ok (), { db with transaction := .closed })

end Database

end TenantOnboarding
