/-!
# Refusals

Why a visitor is not let in. A refusal has a status, a code and a message for the visitor, and a
description for the records; two of them are the service's own failures, and of these the visitor
learns nothing.
-/

namespace TenantOnboarding

/-- Why a visitor is not let in. -/
inductive Refusal where
  /-- There is no authorization header. -/
  | missingAuthorization
  /-- The authorization header carries no bearer token. -/
  | malformedAuthorization
  /-- The token is not genuine, has expired or is meant for someone else. -/
  | invalidToken
  /-- The token is genuine but carries no verified email. -/
  | missingEmail
  /-- The keys of the identity provider could not be fetched or used. -/
  | keysUnavailable
  /-- A session token could not be signed. -/
  | signingFailed
  deriving Repr, DecidableEq

namespace Refusal

/-- Whether a refusal is a failure of the service and not of the visitor. -/
def isInternal : Refusal → Bool
  | keysUnavailable | signingFailed => true
  | _ => false

/-- The status of the answer. -/
def status (r : Refusal) : Nat :=
  if r.isInternal then 500 else 401

/-- The code in the answer. -/
def code : Refusal → String
  | missingAuthorization => "MISSING_AUTHORIZATION"
  | malformedAuthorization => "INVALID_AUTHORIZATION"
  | invalidToken | missingEmail => "INVALID_TOKEN"
  | keysUnavailable | signingFailed => "AUTH_ERROR"

/-- The message in the answer. -/
def message : Refusal → String
  | missingAuthorization => "Authentication required"
  | malformedAuthorization => "Invalid authorization header format"
  | invalidToken => "Invalid or expired token"
  | missingEmail => "Token does not carry a verified email"
  | keysUnavailable | signingFailed => "Internal server error"

/-- The description for the records. -/
def description : Refusal → String
  | keysUnavailable => "Identity provider keys unavailable"
  | signingFailed => "Failed to sign session token"
  | r => r.message

end Refusal

end TenantOnboarding
