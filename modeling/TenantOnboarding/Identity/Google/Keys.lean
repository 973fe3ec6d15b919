import TenantOnboarding.Json.Coded
import TenantOnboarding.Rsa.Signature
import TenantOnboarding.Text.Base64
import TenantOnboarding.Text.Utf8

/-!
# Google's keys

Google publishes the keys that sign its tokens, each with a name. They are fetched when a token names a
key that is not known, and then kept for an hour; a fetch that succeeds replaces all of them, and one
that fails none.
-/

namespace TenantOnboarding.Google

open TenantOnboarding.Json

/-- A published key. Its numbers are written in base 64. -/
structure Key where
  /-- The key's name. -/
  id : String
  modulus : String
  exponent : String
  deriving Repr, DecidableEq

instance : Coded Key where
  shape := .recordOf [("kid", .text), ("n", .text), ("e", .text)]
  toValue k := .object [("kid", .text k.id), ("n", .text k.modulus), ("e", .text k.exponent)]
  ofValue? v := do
    return { id := ← (← v.member? "kid").text?
             modulus := ← (← v.member? "n").text?
             exponent := ← (← v.member? "e").text? }

/-- The public key that a published key describes, if its numbers can be read. -/
def Key.publicKey? (k : Key) : Option Rsa.PublicKey := do
  return { modulus := ← Text.Base64.decode? .url k.modulus.toList
           exponent := ← Text.Base64.decode? .url k.exponent.toList }

/-- A list of published keys. -/
structure KeySet where
  keys : List Key
  deriving Repr, DecidableEq

instance : Coded KeySet where
  shape := .recordOf [("keys", .list (Coded.shape Key))]
  toValue s := .object [("keys", .list (s.keys.map Coded.toValue))]
  ofValue? v := do
    match ← v.member? "keys" with
    | .list vs => return ⟨← vs.mapM Coded.ofValue?⟩
    | _ => none

/-- The key of a name. If a name comes twice, the last key counts. -/
def KeySet.find? (s : KeySet) (id : String) : Option Key :=
  s.keys.reverse.find? (·.id == id)

/-! ## The server -/

/-- The answer to a fetch, as the client of the web returns it: where it was sent on to other addresses,
the answer of the last of them. -/
structure KeyAnswer where
  status : Nat
  body : List UInt8
  deriving Repr, DecidableEq

/-- The keys that an answer publishes. An error publishes none. -/
def KeyAnswer.keys? (a : KeyAnswer) : Option KeySet :=
  if 400 ≤ a.status ∧ a.status < 600 then none
  else (parse KeySet (Text.Utf8.decode a.body)).toOption

/-- The server of keys: what it is going to answer. -/
structure KeyServer where
  /-- Whether anybody listens there. -/
  listening : Bool
  /-- The answers to come; `none` is a connection that is closed without an answer. The last one is
  repeated. -/
  answers : List (Option KeyAnswer)
  /-- How often keys were to be fetched from it, whether or not anybody listened. -/
  asked : Nat
  deriving Repr, DecidableEq

/-- Fetches the keys from the server. Where nobody listens there is no answer. -/
def KeyServer.fetch (s : KeyServer) : Option KeyAnswer × KeyServer :=
  let s := { s with asked := s.asked + 1 }
  if s.listening then
    match s.answers with
    | [] => (none, s)
    | [a] => (a, s)
    | a :: rest => (a, { s with answers := rest })
  else (none, s)

/-! ## The cache -/

/-- The keys that were fetched last, and when. -/
structure KeyCache where
  keys : KeySet
  fetchedAt : Option Int
  deriving Repr, DecidableEq

/-- The cache before the first fetch. -/
def KeyCache.empty : KeyCache := ⟨⟨[]⟩, none⟩

/-- How many seconds keys are kept. -/
def KeyCache.lifetime : Int := 3600

/-- The key of a name, if the keys are still good. -/
def KeyCache.find? (c : KeyCache) (now : Int) (id : String) : Option Key :=
  match c.fetchedAt with
  | some at' => if now - at' ≤ KeyCache.lifetime then c.keys.find? id else none
  | none => none

end TenantOnboarding.Google
