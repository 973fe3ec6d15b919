import TenantOnboarding.Identity.Basic
import TenantOnboarding.Identity.Refusal
import TenantOnboarding.Text.Blank

/-!
# What Google says of a person

The claims of an identity token that Google issued, and the identity that they give: the email must be
there, and Google must not say that it is unverified.
-/

namespace TenantOnboarding.Google

open TenantOnboarding.Json

/-- The claims of an identity token. -/
structure Claims where
  issuer : String
  subject : String
  /-- The client that the token was issued for. -/
  audience : String
  expires : Int64
  issuedAt : Int64
  email : Option String
  emailVerified : Option Bool
  name : Option String
  deriving Repr, DecidableEq

instance : Coded Claims where
  shape := .recordOf [("iss", .text), ("sub", .text), ("aud", .text), ("exp", .int64),
    ("iat", .int64), ("email", .optional .text), ("email_verified", .optional .boolean),
    ("name", .optional .text)]
  toValue c := .object [("iss", .text c.issuer), ("sub", .text c.subject), ("aud", .text c.audience),
    ("exp", .int64 c.expires), ("iat", .int64 c.issuedAt), ("email", .maybeText c.email),
    ("email_verified", .optional (c.emailVerified.map .boolean)), ("name", .maybeText c.name)]
  ofValue? v := do
    return { issuer := ← (← v.member? "iss").text?
             subject := ← (← v.member? "sub").text?
             audience := ← (← v.member? "aud").text?
             expires := ← (← v.member? "exp").int64?
             issuedAt := ← (← v.member? "iat").int64?
             email := ← (← v.member? "email").optional? Value.text?
             emailVerified := ← (← v.member? "email_verified").optional? Value.boolean?
             name := ← (← v.member? "name").optional? Value.text? }

/-- The identity that claims give. -/
def Claims.identity (c : Claims) : Except Refusal Identity :=
  if c.emailVerified = some false then .error .missingEmail
  else
    let email := Text.trim (c.email.getD "")
    if email.isEmpty then .error .missingEmail
    else .ok ⟨c.subject, email, c.name.getD ""⟩

end TenantOnboarding.Google
