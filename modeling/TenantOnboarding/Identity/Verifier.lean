import TenantOnboarding.Identity.Bearer
import TenantOnboarding.Identity.Google.Verifier
import TenantOnboarding.Identity.TokenTable

/-!
# Verifiers of identities

A visitor is recognised by a table of tokens or by Google.
-/

namespace TenantOnboarding

/-- What recognises visitors. -/
inductive Verifier where
  | table (t : TokenTable)
  | google (v : Google.Verifier)
  deriving Repr, DecidableEq

namespace Verifier

/-- The identity of a token's bearer. A verifier may learn by being asked. -/
def verify (v : Verifier) (token : String) (now : Int) : Except Refusal Identity × Verifier :=
  match v with
  | table t => (t.verify token, v)
  | google g =>
    let (outcome, g) := g.verify token now
    (outcome, .google g)

/-- The identity of a visitor who sends an authorization header, or none. -/
def authenticate (v : Verifier) (header : Option (List UInt8)) (now : Int) :
    Except Refusal Identity × Verifier :=
  match header with
  | none => (.error .missingAuthorization, v)
  | some value =>
    match Bearer.token value with
    | .error refusal => (.error refusal, v)
    | .ok token => v.verify token now

end Verifier

end TenantOnboarding
