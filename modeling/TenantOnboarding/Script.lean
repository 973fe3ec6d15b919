import TenantOnboarding.Provisioning.State
import TenantOnboarding.Store.Database

/-!
# Scripts

What the service does is written as a script: the deeds in their order, each of which may depend on what
the database has replied so far and on nothing else of it. There are three deeds. The service tells the
course of a provisioning of an event, sends a statement, or abandons a transaction.

`Script.run` carries a script out at a database, and `Script.transcript` is the list of the deeds that are
done then. So whatever holds of transcripts is said of the script that is carried out.
-/

namespace TenantOnboarding

open Provisioning (Event)

/-- Something that the service does. -/
inductive Deed where
  /-- It tells a course of an event, and whether the request was found valid. -/
  | meet (event : Event) (valid : Option Bool)
  /-- It sends a statement and gets a reply. -/
  | send (s : Statement) (reply : Reply)
  /-- It abandons the transaction. -/
  | abandon

/-- What is to be done, deed by deed, and what comes of it. -/
inductive Script (α : Type) where
  | done (a : α)
  | meet (event : Event) (valid : Option Bool) (next : Script α)
  | send (s : Statement) (next : Reply → Script α)
  | abandon (next : Script α)

namespace Script

variable {α β : Type}

/-- One script after another. -/
def bind : Script α → (α → Script β) → Script β
  | done a, f => f a
  | meet event valid next, f => meet event valid (next.bind f)
  | send s next, f => send s fun reply => (next reply).bind f
  | abandon next, f => abandon (next.bind f)

instance : Monad Script where
  pure := done
  bind := bind

/-- What comes of a script that is carried out at a database, and the database after it. -/
def run : Script α → Database → α × Database
  | done a, db => (a, db)
  | meet _ _ next, db => next.run db
  | send s next, db => (next (db.deliver s).1).run (db.deliver s).2
  | abandon next, db => next.run { db with transaction := .closed }

instance : CoeFun (Script α) fun _ => Database → α × Database where
  coe := run

/-- What is done when a script is carried out at a database. -/
def transcript : Script α → Database → List Deed
  | done _, _ => []
  | meet event valid next, db => .meet event valid :: next.transcript db
  | send s next, db =>
    .send s (db.deliver s).1 :: (next (db.deliver s).1).transcript (db.deliver s).2
  | abandon next, db => .abandon :: next.transcript { db with transaction := .closed }

end Script

/-- What is done with a database and may fail. -/
abbrev Work (ε : Type) := ExceptT ε Script

namespace Database

/-- Sends a statement. -/
def send (s : Statement) : Work DatabaseFailure (List Row) :=
  ExceptT.mk (.send s .done)

/-- Ends the transaction and forgets its rows. -/
def abandon : Script Unit := .abandon (.done ())

/-- Commits the transaction. If that fails, it is abandoned. -/
def close : Work DatabaseFailure Unit := do
  match ← ExceptT.lift (send .commit).run with
  | .ok _ => return ()
  | .error cause =>
    ExceptT.lift abandon
    throw cause

end Database

end TenantOnboarding
