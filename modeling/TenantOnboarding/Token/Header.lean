import TenantOnboarding.Json.Shape
import TenantOnboarding.Token.Compact
import TenantOnboarding.Token.PublicKey

/-!
# Headers of tokens

A header names the algorithm of the signature and may name the key. Its other fields are not used, but
they must have the right kinds.
-/

namespace TenantOnboarding.Token

open TenantOnboarding.Json

/-- The algorithms that a header may name. -/
inductive Algorithm where
  | hs256 | hs384 | hs512
  | es256 | es384
  | rs256 | rs384 | rs512
  | ps256 | ps384 | ps512
  | edDsa
  deriving Repr, DecidableEq

/-- The algorithms with their names. -/
def Algorithm.names : List (String × Algorithm) :=
  [("HS256", .hs256), ("HS384", .hs384), ("HS512", .hs512), ("ES256", .es256), ("ES384", .es384),
    ("RS256", .rs256), ("RS384", .rs384), ("RS512", .rs512), ("PS256", .ps256), ("PS384", .ps384),
    ("PS512", .ps512), ("EdDSA", .edDsa)]

/-- A header, as far as it is used. -/
structure Header where
  /-- How the token is signed. -/
  algorithm : Algorithm
  /-- The name of the key that signed it. -/
  keyId : Option String
  deriving Repr, DecidableEq

/-- The fields of a header. -/
def Header.shape : Shape :=
  .recordOf [("typ", .optional .text), ("alg", .word (Algorithm.names.map (·.1))),
    ("cty", .optional .text), ("jku", .optional .text), ("jwk", .optional .any),
    ("kid", .optional .text), ("x5u", .optional .text), ("x5c", .optional (.list .text)),
    ("x5t", .optional .text), ("x5t#S256", .optional .text)]

/-- The header that a value of the shape describes, if the key that it carries is well formed. -/
def Header.ofValue? (v : Value) : Option Header := do
  let algorithm ← Algorithm.names.lookup (← (← v.member? "alg").text?)
  let carried ← (← v.member? "jwk").optional? some
  let keyId ← (← v.member? "kid").optional? Value.text?
  if carried.all PublicKey.wellFormed then return ⟨algorithm, keyId⟩ else none

/-- The header of a token, from its first part. -/
def Header.ofPart? (part : List Char) : Option Header := do
  let source ← sourceOfPart? part
  Header.ofValue? (← (Header.shape.parse source).toOption)

/-- The header of a token. The other two parts need not be well formed. -/
def Header.ofToken? (token : String) : Option Header := do
  Header.ofPart? (← Compact.ofToken? token).header

end TenantOnboarding.Token
