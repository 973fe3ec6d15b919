import TenantOnboarding.Http.MediaType
import TenantOnboarding.Identity.Bearer
import TenantOnboarding.Json.Coded

/-!
# Bodies in JSON

A body is accepted if its first content type is the media type of JSON, if it is not too long, and if it
holds what is asked for and nothing else. Whatever is wrong, the answer is the same.
-/

namespace TenantOnboarding.Http

/-- How many bytes a body may have. -/
def bodyLimit : Nat := 2097152

/-- Whether a request says that its body is JSON. -/
def Request.saysJson (r : Request) : Bool :=
  match r.header? "content-type" with
  | some value => (Bearer.visible? value).isSome && MediaType.isJson value
  | none => false

/-- What the body of a request holds, if it is accepted. -/
def Request.jsonBody? (α : Type) [Json.Coded α] (r : Request) : Option α :=
  if r.saysJson ∧ r.body.length ≤ bodyLimit then
    (Json.parse α (Text.Utf8.decode r.body)).toOption
  else none

/-- The failure of every request whose body is not accepted. -/
def invalidBody : Failure := .validation "Invalid request body"

end TenantOnboarding.Http
