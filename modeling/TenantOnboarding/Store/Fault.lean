import TenantOnboarding.Failure.Database
import TenantOnboarding.Store.Basic
import TenantOnboarding.Store.Statement

/-!
# Faults

What may happen around a statement: other clients commit, and then the statement goes through, fails,
returns other rows than it should, or the connection breaks. A fault waits for its moment, may
let some moments of the kind pass, and happens once.
-/

namespace TenantOnboarding

/-- How a statement ends. -/
inductive Ending where
  /-- As it should. -/
  | plain
  /-- The connection breaks before the statement has an effect. -/
  | lost
  /-- The statement has its effect, and then the connection breaks. -/
  | unanswered
  /-- The statement has no effect and fails. -/
  | failed (cause : DatabaseFailure)
  /-- The statement has its effect but returns these rows. -/
  | rows (rs : List Row)
  deriving Repr, DecidableEq

/-- Something that happens at a moment. -/
structure Fault where
  moment : Moment
  /-- How many moments of the kind pass before it happens. -/
  skip : Nat
  /-- What others commit just then. -/
  changes : List Store.Change
  ending : Ending
  deriving Repr, DecidableEq

/-- What happens at a moment, and the faults that are left. The first fault of the moment decides. -/
def Fault.meet (moment : Moment) : List Fault → Option Fault × List Fault
  | [] => (none, [])
  | f :: fs =>
    if f.moment = moment then
      match f.skip with
      | 0 => (some f, fs)
      | skip + 1 => (none, { f with skip } :: fs)
    else
      let (found, left) := meet moment fs
      (found, f :: left)

end TenantOnboarding
