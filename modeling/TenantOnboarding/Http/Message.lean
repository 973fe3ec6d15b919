import TenantOnboarding.Http.Target
import TenantOnboarding.Json.Value
import TenantOnboarding.Failure.Basic

/-!
# Requests and responses

A request has a method, a target, headers and a body; a response a status, headers and a body. The
names of headers are in lower case. The value of a request's header is bytes, because a visitor may send
any.
-/

namespace TenantOnboarding.Http

/-- Whether a byte may stand in a method or in the name of a header. -/
def isTokenByte (b : UInt8) : Bool :=
  Target.isAlphanumeric b || ("!#$%&'*+-.^_\x60|~".toList.map Target.byte).contains b

/-- Whether a byte may stand in the value of a header. -/
def isValueByte (b : UInt8) : Bool :=
  (0x20 ≤ b && b != 0x7F) || b == 0x09

/-- A header of a request. -/
structure Header where
  /-- The name, in lower case. -/
  name : String
  value : List UInt8
  deriving Repr, DecidableEq

/-- The name of a header in lower case, if the bytes are a name. -/
def headerName? (bytes : List UInt8) : Option String :=
  if bytes ≠ [] ∧ bytes.length ≤ 65535 ∧ bytes.all isTokenByte then
    some (String.ofList (bytes.map fun b => (Char.ofNat b.toNat).toLower))
  else none

/-- The value of a header, if the bytes are one. -/
def headerValue? (bytes : List UInt8) : Option (List UInt8) :=
  if bytes.all isValueByte then some bytes else none

/-- A method, if the bytes are one. Methods nobody has heard of are methods too. -/
def method? (bytes : List UInt8) : Option String :=
  if bytes ≠ [] ∧ bytes.all isTokenByte then
    some (String.ofList (bytes.map fun b => Char.ofNat b.toNat))
  else none

/-- A request. -/
structure Request where
  method : String
  target : Target
  /-- The headers in the order in which they came. -/
  headers : List Header
  body : List UInt8
  deriving Repr, DecidableEq

/-- The value of the first header of a name. -/
def Request.header? (r : Request) (name : String) : Option (List UInt8) :=
  (r.headers.find? (·.name == name)).map (·.value)

/-- The body of a response. -/
inductive Body where
  | empty
  | text (s : String)
  | json (v : Json.Value)
  deriving Repr

/-- A response. -/
structure Response where
  status : Nat
  headers : List (String × String)
  body : Body
  deriving Repr

namespace Response

/-- A response without headers and body. -/
def bare (status : Nat) : Response := ⟨status, [], .empty⟩

/-- A response in JSON. -/
def json (status : Nat) (v : Json.Value) : Response :=
  ⟨status, [("content-type", "application/json")], .json v⟩

/-- A response of plain text. -/
def text (status : Nat) (s : String) : Response :=
  ⟨status, [("content-type", "text/plain; charset=utf-8")], .text s⟩

/-- The member that tells of an error. -/
def errorMember (code message : String) : String × Json.Value :=
  ("error", .object [("code", .text code), ("message", .text message)])

/-- The response to a failure. -/
def ofFailure (f : Failure) : Response :=
  json f.status <| .object <| errorMember f.code f.message ::
    match f with
    | .alreadyExists user organization =>
      [("appUserId", .int user.toInt), ("organizationId", .int organization.toInt)]
    | _ => []

/-- The response to a refusal. -/
def ofRefusal (r : Refusal) : Response :=
  json r.status (.object [errorMember r.code r.message])

end Response

end TenantOnboarding.Http
