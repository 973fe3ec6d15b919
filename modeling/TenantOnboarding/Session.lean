import TenantOnboarding.Digest.Hmac
import TenantOnboarding.Identity.Refusal
import TenantOnboarding.Instant
import TenantOnboarding.Json.Coded
import TenantOnboarding.Token.Header
import TenantOnboarding.Token.Registered

/-!
# Session tokens

A session token tells the data service who a user is, for one hour. It is signed with a secret: the
signature is the keyed digest of the header and the claims. `Issuer.issueAt` makes tokens and
`Issuer.verify` accepts them until they expire.
-/

namespace TenantOnboarding.Session

open TenantOnboarding.Json TenantOnboarding.Token

/-- What a session token says. -/
structure Claims where
  /-- The user's number. -/
  user : Int64
  email : String
  /-- The identity provider's own name for the user. -/
  subject : String
  name : String
  /-- Whom the token is meant for. -/
  audience : String
  /-- When it was issued, in seconds since the start of 1970. -/
  issuedAt : Int64
  /-- The last second in which it is accepted. -/
  expires : Int64
  deriving Repr, DecidableEq

instance : Coded Claims where
  shape := .recordOf [("current_user", .int64), ("email", .text), ("sub", .text), ("name", .text),
    ("aud", .text), ("iat", .int64), ("exp", .int64)]
  toValue c := .object [("current_user", .int64 c.user), ("email", .text c.email),
    ("sub", .text c.subject), ("name", .text c.name), ("aud", .text c.audience),
    ("iat", .int64 c.issuedAt), ("exp", .int64 c.expires)]
  ofValue? v := do
    return { user := ← (← v.member? "current_user").int64?
             email := ← (← v.member? "email").text?
             subject := ← (← v.member? "sub").text?
             name := ← (← v.member? "name").text?
             audience := ← (← v.member? "aud").text?
             issuedAt := ← (← v.member? "iat").int64?
             expires := ← (← v.member? "exp").int64? }

/-- The audience of every session token. -/
def audience : String := "postgraphile"

/-- How many seconds a session lasts. -/
def lifetime : Int64 := 3600

/-- What issues and verifies session tokens. -/
structure Issuer where
  /-- The secret that signs. It is shown nowhere. -/
  secret : String
  deriving DecidableEq

namespace Issuer

/-- How an issuer is shown: without its secret. -/
def shown : String := "SessionIssuer \x7b .. \x7d"

/-- The header of every session token. -/
def header : Value :=
  .object [("typ", .text "JWT"), ("alg", .text "HS256")]

/-- The written signature of a message. -/
def signature (i : Issuer) (message : List Char) : List Char :=
  Text.Base64.encode .url (Digest.hmac (Text.Utf8.ofString i.secret) (Text.Utf8.encode message))

/-- The token that carries some claims. -/
def sign (i : Issuer) (claims : Claims) : String :=
  let message := partOfText header.compact ++ '.' :: partOfText (print claims)
  String.ofList (message ++ '.' :: i.signature message)

/-- The claims of a session that starts at an instant. -/
def claimsAt (user : Int64) (email subject name : String) (start : Instant) : Claims :=
  let issuedAt := Int64.ofInt start.seconds
  ⟨user, email, subject, name, audience, issuedAt, issuedAt + lifetime⟩

/-- The token of a session that starts at an instant. -/
def issueAt (i : Issuer) (user : Int64) (email subject name : String) (start : Instant) : String :=
  i.sign (claimsAt user email subject name start)

/-- The claims of a written payload that is read twice: for the session's own claims and for the claims
that every token may have. -/
def claimsOfPart? (part : List Char) : Option Claims := do
  let source ← sourceOfPart? part
  let claims ← (parse Claims source).toOption
  if registeredReadable source then return claims else none

/-- The claims of a token that this issuer signed, for this audience, and that has not expired at
`now`. -/
def verify (i : Issuer) (token : String) (now : Int) : Except Refusal Claims :=
  let accepted : Option Claims := do
    let parts ← Compact.ofToken? token
    let header ← Header.ofPart? parts.header
    if header.algorithm = .hs256 ∧ i.signature parts.message = parts.signature then
      let claims ← claimsOfPart? parts.claims
      let expires := claims.expires.toInt
      if claims.audience = audience ∧ 0 ≤ expires ∧ now ≤ expires then return claims else none
    else none
  match accepted with
  | some claims => .ok claims
  | none => .error .invalidToken

end Issuer

end TenantOnboarding.Session
