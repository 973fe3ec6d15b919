import TenantOnboarding.Identity.Google.Claims
import TenantOnboarding.Identity.Google.Keys
import TenantOnboarding.Token.Header
import TenantOnboarding.Token.Registered

/-!
# Verifying Google's tokens

A token is genuine if Google signed it with the key that it names, for this client, and if it has not
expired. The header is looked at before any key is fetched.
-/

namespace TenantOnboarding.Google

open TenantOnboarding.Json TenantOnboarding.Token

/-- The names under which Google issues tokens. -/
def issuers : List String := ["accounts.google.com", "https://accounts.google.com"]

/-- How many seconds a token is accepted after it expired, for clocks that disagree. -/
def leeway : Int := 60

/-- A verifier for one client. -/
structure Verifier where
  /-- The client whose tokens are accepted. -/
  audience : String
  cache : KeyCache
  server : KeyServer
  deriving Repr, DecidableEq

/-- A verifier that has fetched nothing. -/
def Verifier.new (audience : String) (server : KeyServer) : Verifier := ⟨audience, .empty, server⟩

/-- The name of the key that a token says it is signed with. -/
def namedKey? (token : String) : Option String := do
  let header ← Header.ofToken? token
  if header.algorithm = .rs256 then header.keyId else none

/-- The claims of a written payload that is read twice: for Google's claims and for the claims that every
token may have. -/
def claimsOfPart? (part : List Char) : Option Claims := do
  let source ← sourceOfPart? part
  let claims ← (parse Claims source).toOption
  if registeredReadable source then return claims else none

/-- The claims of a token that was signed with a key, for an audience, and that has not expired at
`now`. -/
def accepted? (key : Rsa.PublicKey) (audience : String) (now : Int) (token : String) :
    Option Claims := do
  let parts ← Compact.ofToken? token
  let signature ← Text.Base64.decode? .url parts.signature
  if key.verifies (Text.Utf8.encode parts.message) signature then
    let claims ← claimsOfPart? parts.claims
    let expires := claims.expires.toInt
    if issuers.contains claims.issuer ∧ claims.audience = audience ∧ 0 ≤ expires ∧
        now - leeway ≤ expires then
      return claims
    else none
  else none

namespace Verifier

/-- Fetches the keys. -/
def refresh (v : Verifier) (now : Int) : Except Refusal Unit × Verifier :=
  let (answer, server) := v.server.fetch
  match answer.bind KeyAnswer.keys? with
  | some keys => (.ok (), { v with server, cache := ⟨keys, some now⟩ })
  | none => (.error .keysUnavailable, { v with server })

/-- The key of a name. Keys are fetched if it is not known. -/
def keyOf (v : Verifier) (now : Int) (id : String) : Except Refusal Key × Verifier :=
  match v.cache.find? now id with
  | some key => (.ok key, v)
  | none =>
    match v.refresh now with
    | (.error refusal, v) => (.error refusal, v)
    | (.ok _, v) =>
      match v.cache.keys.find? id with
      | some key => (.ok key, v)
      | none => (.error .invalidToken, v)

/-- The identity of a token's bearer, by the key that it names. -/
def identityBy (v : Verifier) (key : Key) (now : Int) (token : String) : Except Refusal Identity :=
  match key.publicKey? with
  | none => .error .keysUnavailable
  | some key =>
    match accepted? key v.audience now token with
    | none => .error .invalidToken
    | some claims => claims.identity

/-- The identity of a token's bearer. -/
def verify (v : Verifier) (token : String) (now : Int) : Except Refusal Identity × Verifier :=
  match namedKey? token with
  | none => (.error .invalidToken, v)
  | some id =>
    match v.keyOf now id with
    | (.error refusal, v) => (.error refusal, v)
    | (.ok key, v) => (v.identityBy key now token, v)

end Verifier

end TenantOnboarding.Google
