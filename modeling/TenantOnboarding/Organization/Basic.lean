import TenantOnboarding.Json.Coded

/-!
# Organizations and their users

An organization is a tenant. A user belongs to exactly one organization, in a role. A membership tells
where an email belongs, if anywhere.
-/

namespace TenantOnboarding

open TenantOnboarding.Json

/-! ## Roles -/

/-- What a user may do in their organization. -/
inductive Role where
  | owner
  | admin
  | member
  deriving Repr, DecidableEq

namespace Role

/-- The name of a role. -/
def name : Role → String
  | owner => "owner"
  | admin => "admin"
  | member => "member"

/-- All roles. -/
def all : List Role := [owner, admin, member]

/-- The role of a name. -/
def ofName? (s : String) : Option Role :=
  all.find? (·.name == s)

/-- A user without a role of their own is a member. -/
def default : Role := member

end Role

instance : Coded Role where
  shape := .word (Role.all.map Role.name)
  toValue r := .text r.name
  ofValue? v := v.text? >>= Role.ofName?

/-! ## Records -/

/-- A tenant. -/
structure Organization where
  id : Int64
  name : String
  description : Option String
  deriving Repr, DecidableEq

instance : Coded Organization where
  shape := .recordOf [("id", .int64), ("name", .text), ("description", .optional .text)]
  toValue o := .object [("id", .int64 o.id), ("name", .text o.name),
    ("description", .maybeText o.description)]
  ofValue? v := do
    return { id := ← (← v.member? "id").int64?
             name := ← (← v.member? "name").text?
             description := ← (← v.member? "description").optional? Value.text? }

/-- A user of the service. -/
structure AppUser where
  id : Int64
  email : String
  organization : Int64
  role : Role
  deriving Repr, DecidableEq

instance : Coded AppUser where
  shape := .recordOf [("id", .int64), ("email", .text), ("organizationId", .int64),
    ("role", Coded.shape Role)]
  toValue u := .object [("id", .int64 u.id), ("email", .text u.email),
    ("organizationId", .int64 u.organization), ("role", Coded.toValue u.role)]
  ofValue? v := do
    return { id := ← (← v.member? "id").int64?
             email := ← (← v.member? "email").text?
             organization := ← (← v.member? "organizationId").int64?
             role := ← Coded.ofValue? (← v.member? "role") }

/-- Where an email belongs: the user and the organization, both missing if it belongs nowhere. -/
structure Membership where
  user : Option Int64
  organization : Option Int64
  deriving Repr, DecidableEq

/-- The membership of an email that belongs nowhere. -/
def Membership.nowhere : Membership := ⟨none, none⟩

instance : Coded Membership where
  shape := .recordOf [("appUserId", .optional .int64), ("organizationId", .optional .int64)]
  toValue m := .object [("appUserId", .optional (m.user.map .int64)),
    ("organizationId", .optional (m.organization.map .int64))]
  ofValue? v := do
    return { user := ← (← v.member? "appUserId").optional? Value.int64?
             organization := ← (← v.member? "organizationId").optional? Value.int64? }

end TenantOnboarding
