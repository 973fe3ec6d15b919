import TenantOnboarding.Json.Shape

/-!
# Registered claims

Beside its own claims, a payload is read for the claims that every token may have: when it expires and
when it begins, its subject, its issuer and its audience. This reading is lenient. A claim whose value
cannot be taken counts as missing, and the reading goes on behind what was read of it. Each of the five
may come only once.
-/

namespace TenantOnboarding.Token

open TenantOnboarding.Json

/-- A reader that takes what cannot be read for `null`. -/
def lenient (reader : Reader Value) : Reader Value := fun depth source =>
  match reader depth source with
  | .error stop => .ok (.null, stop.rest)
  | .ok outcome => .ok outcome

/-- Reads an instant: a number. A list or an object is left behind its first bracket, or behind both if
it is empty. -/
def readInstant : Reader Value := fun depth source =>
  match skipSpace source with
  | some '[' :: rest =>
    if depth ≤ 1 then .error ⟨.malformed, some '[' :: rest⟩
    else closing closeList (.error ⟨.shape, rest⟩)
  | some '\x7b' :: rest =>
    if depth ≤ 1 then .error ⟨.malformed, some '\x7b' :: rest⟩
    else closing closeObject (.error ⟨.shape, rest⟩)
  | rest => readAny depth rest

/-- The registered claims with their readers. -/
def registeredFields : List Field :=
  [⟨"exp", true, lenient readInstant⟩, ⟨"nbf", true, lenient readInstant⟩,
    ⟨"sub", true, lenient (Shape.read (.optional .text))⟩, ⟨"iss", true, lenient readAny⟩,
    ⟨"aud", true, lenient readAny⟩]

/-- Whether the registered claims of a payload can be read. -/
def registeredReadable (payload : Source) : Bool :=
  (readWhole (readRecord registeredFields) payload).isOk

end TenantOnboarding.Token
