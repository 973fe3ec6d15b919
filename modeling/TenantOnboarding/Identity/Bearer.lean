import TenantOnboarding.Identity.Refusal
import TenantOnboarding.Text.Blank
import TenantOnboarding.Text.Utf8

/-!
# Bearer tokens

An authorization header carries a bearer token if its value is visible ASCII text, spaces and tabs
included, that starts with the word `Bearer` and a space and goes on with more than blanks.
-/

namespace TenantOnboarding.Bearer

/-- Whether a byte is a visible ASCII character, a space or a tab. -/
def isVisible (b : UInt8) : Bool :=
  (0x20 ≤ b && b < 0x7F) || b == 0x09

/-- The text of a header value, if it is visible ASCII. -/
def visible? (value : List UInt8) : Option (List Char) :=
  if value.all isVisible then some (value.map fun b => Char.ofNat b.toNat) else none

/-- The word in front of the token. -/
def scheme : List Char := "Bearer ".toList

/-- What stands behind the scheme, without blanks around it, if anything is left. -/
def behindScheme? (text : List Char) : Option String :=
  if scheme.isPrefixOf text then
    let token := Text.trimEnd (Text.trimStart (text.drop scheme.length))
    if token.isEmpty then none else some (String.ofList token)
  else none

/-- The token of a header value. -/
def token (value : List UInt8) : Except Refusal String :=
  match visible? value >>= behindScheme? with
  | some token => .ok token
  | none => .error .malformedAuthorization

end TenantOnboarding.Bearer
