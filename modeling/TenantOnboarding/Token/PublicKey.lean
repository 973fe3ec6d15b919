import TenantOnboarding.Json.Value

/-!
# Keys carried in headers

A header may carry a public key. It is never used, but a header whose key is not well formed is
refused: the key is an object, its common members have the right kinds and come once, and the others
describe a key on a curve, an RSA key, a secret or a key of an Edwards curve.
-/

namespace TenantOnboarding.Token.PublicKey

open TenantOnboarding.Json

/-- The members of an object that have one name. -/
def named (members : List (String × Value)) (name : String) : List Value :=
  (members.filter (·.1 == name)).map (·.2)

/-- A member that may be missing or `null`, and otherwise is as `accepts` asks. -/
def optionalMember (accepts : Value → Bool) (members : List (String × Value)) (name : String) : Bool :=
  match named members name with
  | [] => true
  | [.null] => true
  | [v] => accepts v
  | _ => false

/-- A member that must be there once. -/
def requiredMember (accepts : Value → Bool) (members : List (String × Value)) (name : String) : Bool :=
  match named members name with
  | [v] => accepts v
  | _ => false

/-- Whether a value is a text. -/
def isText (v : Value) : Bool :=
  v.text?.isSome

/-- Whether a value is a list of texts. -/
def isTexts : Value → Bool
  | .list vs => vs.all isText
  | _ => false

/-- Whether a value is one of several words, alone or as the only member of an object. -/
def isWord (names : List String) : Value → Bool
  | .text s => names.contains s
  | .object [(name, .null)] => names.contains name
  | _ => false

/-- Whether a value is the name of what a key is used with. A word may also name an empty object. -/
def isAlgorithmName (v : Value) : Bool :=
  let names := ["HS256", "HS384", "HS512", "ES256", "ES384", "RS256", "RS384", "RS512", "PS256",
    "PS384", "PS512", "EdDSA", "RSA1_5", "RSA-OAEP", "RSA-OAEP-256"]
  match v with
  | .object [(name, .object [])] => names.contains name
  | v => isWord names v

/-- The curves that a key may name. -/
def isCurve (v : Value) : Bool :=
  isWord ["P-256", "P-384", "P-521", "Ed25519"] v

/-- The members that a key of any kind may have. -/
def commonNames : List String :=
  ["use", "key_ops", "alg", "kid", "x5u", "x5c", "x5t", "x5t#S256"]

/-- Whether the members describe a key on a curve. -/
def onCurve (members : List (String × Value)) : Bool :=
  requiredMember (isWord ["EC"]) members "kty" && requiredMember isCurve members "crv" &&
    requiredMember isText members "x" && requiredMember isText members "y"

/-- Whether the members describe an RSA key. -/
def rsa (members : List (String × Value)) : Bool :=
  requiredMember (isWord ["RSA"]) members "kty" && requiredMember isText members "n" &&
    requiredMember isText members "e"

/-- Whether the members describe a secret. -/
def secret (members : List (String × Value)) : Bool :=
  requiredMember (isWord ["oct"]) members "kty" && requiredMember isText members "k"

/-- Whether the members describe a key of an Edwards curve. -/
def onEdwardsCurve (members : List (String × Value)) : Bool :=
  requiredMember (isWord ["OKP"]) members "kty" && requiredMember isCurve members "crv" &&
    requiredMember isText members "x"

/-- Whether a value is a well-formed key. -/
def wellFormed : Value → Bool
  | .object members =>
    let own := members.filter fun m => !commonNames.contains m.1
    ["use", "kid", "x5u", "x5t", "x5t#S256"].all (optionalMember isText members) &&
      ["key_ops", "x5c"].all (optionalMember isTexts members) &&
      optionalMember isAlgorithmName members "alg" &&
      (onCurve own || rsa own || secret own || onEdwardsCurve own)
  | _ => false

end TenantOnboarding.Token.PublicKey
