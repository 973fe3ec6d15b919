import TenantOnboarding.Json.Coded

/-!
# Identities

What a verified token says about its bearer.
-/

namespace TenantOnboarding

open TenantOnboarding.Json

/-- A verified person, as an identity provider knows them. -/
structure Identity where
  /-- The provider's own name for the person. -/
  subject : String
  /-- A verified email. -/
  email : String
  /-- A name to show, empty if the provider gave none. -/
  name : String
  deriving Repr, DecidableEq

instance : Coded Identity where
  shape := .recordOf [("subject", .text), ("email", .text), ("name", .text)]
  toValue i := .object [("subject", .text i.subject), ("email", .text i.email), ("name", .text i.name)]
  ofValue? v := do
    return { subject := ← (← v.member? "subject").text?
             email := ← (← v.member? "email").text?
             name := ← (← v.member? "name").text? }

end TenantOnboarding
