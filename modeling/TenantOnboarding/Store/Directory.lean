import TenantOnboarding.Failure.Basic
import TenantOnboarding.Script

/-!
# The directory

Looking up emails among the committed users.
-/

namespace TenantOnboarding.Directory

/-- Sends a statement; that it fails is a failure of the request. -/
def ask (s : Statement) : Work Failure (List Row) :=
  (Database.send s).adapt .database

/-- The first of the rows, read by `ofRow?`, if there is one. -/
def first? {α : Type} (ofRow? : Row → Option α) : List Row → Except DatabaseFailure (Option α)
  | [] => .ok none
  | row :: _ =>
    match ofRow? row with
    | some a => .ok (some a)
    | none => .error (.unreadable 0)

/-- Where an email belongs. -/
def membership (email : String) : Work Failure Membership := do
  match first? Membership.ofRow? (← ask (.findMembership email)) with
  | .ok found => return found.getD .nowhere
  | .error cause => throw (.database cause)

/-- The user of an email. -/
def user? (email : String) : Work Failure (Option AppUser) := do
  match first? AppUser.ofRow? (← ask (.findUser email)) with
  | .ok found => return found
  | .error cause => throw (.database cause)

end TenantOnboarding.Directory
