import TenantOnboarding.Provisioning.Request
import TenantOnboarding.Provisioning.State
import TenantOnboarding.Identity.Basic
import TenantOnboarding.Store.Directory
import TenantOnboarding.Store.Tenancy

/-!
# Provisioning

A visitor whose email belongs nowhere gets an organization of their own and becomes its owner: one row
each, written in one transaction. When two such requests race, the database lets one win, and the other
is told where its email belongs now.
-/

namespace TenantOnboarding.Provisioning

open TenantOnboarding.Json

/-- A new organization and its owner. -/
structure Created where
  organization : Organization
  user : AppUser
  deriving Repr, DecidableEq

/-- A new organization and its owner as a value. -/
def Created.toValue (c : Created) : Value :=
  .object [("organization", Coded.toValue c.organization), ("user", Coded.toValue c.user)]

/-! ## Courses -/

/-- How a provisioning has gone: where it stands, and the events that led there. -/
structure Course where
  state : State
  events : List (Event × Option Bool)
  deriving Repr, DecidableEq

/-- A provisioning at its start. -/
def Course.start : Course := ⟨.checked, []⟩

/-- The course after an event. An event that cannot happen is the service's own failure. -/
def Course.next (c : Course) (event : Event) (valid : Option Bool) : Except Failure Course :=
  match c.state.next event valid with
  | .ok state => .ok ⟨state, c.events ++ [(event, valid)]⟩
  | .error failure => .error (.internal ("Provisioning state error: " ++ failure.description))

/-- Tells the course of an event. -/
def Course.advance (c : Course) (event : Event) (valid : Option Bool) :
    Script (Except Failure Course) :=
  .meet event valid (.done (c.next event valid))

/-- How a provisioning went and what came of it. -/
structure Report where
  course : Course
  outcome : Except Failure Created

/-- Ends a provisioning with an event. -/
def Course.finish (c : Course) (event : Event) (outcome : Except Failure Created) : Script Report := do
  match ← c.advance event none with
  | .ok course => return ⟨course, outcome⟩
  | .error failure => return ⟨c, .error failure⟩

/-! ## Creation -/

/-- Writes an organization and its owner in one transaction. -/
def createWithOwner (n : NewOrganization) : Work StorageFailure Created :=
  Tenancy.inTransaction do
    let organization ← Tenancy.insertOrganization n.name n.description
    Tenancy.setOrganization organization.id
    let user ← Tenancy.insertUser n.ownerEmail organization.id .owner
    return ⟨organization, user⟩

/-- The failure of the visitor's request when creation failed. If the email was taken meanwhile, the
visitor is told where it belongs. -/
def resolve (cause : StorageFailure) (email : String) : Work Failure Created := do
  if cause = .alreadyExists then
    match ← Directory.membership email with
    | ⟨some user, some organization⟩ => throw (.alreadyExists user organization)
    | _ => throw (.ofStorage cause)
  else throw (.ofStorage cause)

/-- Provides a visitor with an organization. -/
def provide (identity : Identity) (request : Request) (print : Printer) : Script Report := do
  match ← (Directory.membership identity.email).run with
  | .error failure => return ⟨.start, .error failure⟩
  | .ok ⟨some user, some organization⟩ =>
    Course.start.finish .userFound (.error (.alreadyExists user organization))
  | .ok _ =>
    match ← Course.start.advance .userMissing none with
    | .error failure => return ⟨.start, .error failure⟩
    | .ok course =>
      match request.validateFor print identity.email with
      | .error failure => course.finish .reject (.error failure)
      | .ok n =>
        match ← course.advance .beginCreate (some true) with
        | .error failure => return ⟨course, .error failure⟩
        | .ok course =>
          match ← (createWithOwner n).run with
          | .ok created => course.finish .commit (.ok created)
          | .error cause =>
            match ← course.advance .abort none with
            | .error failure => return ⟨course, .error failure⟩
            | .ok course => return ⟨course, ← (resolve cause identity.email).run⟩

end TenantOnboarding.Provisioning
