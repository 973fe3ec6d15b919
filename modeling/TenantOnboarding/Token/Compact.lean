import TenantOnboarding.Text.Base64
import TenantOnboarding.Text.Utf8
import TenantOnboarding.Json.Basic

/-!
# Compact tokens

A token is a header, claims and a signature with points between them, each written in base 64. The
signature covers the text in front of the last point. A token is cut from the right, so that points in
excess belong to the header, where they are a fault.
-/

namespace TenantOnboarding.Token

/-- The text before the last point and the text behind it. -/
def cutLast? (cs : List Char) : Option (List Char × List Char) :=
  match cs.reverse.dropWhile (· ≠ '.') with
  | [] => none
  | _ :: before => some (before.reverse, (cs.reverse.takeWhile (· ≠ '.')).reverse)

/-- The parts of a token. -/
structure Compact where
  /-- The text that is signed: header and claims. -/
  message : List Char
  /-- The written header. -/
  header : List Char
  /-- The written claims. -/
  claims : List Char
  /-- The written signature. -/
  signature : List Char
  deriving Repr, DecidableEq

/-- The parts of a token, if it has all three. -/
def Compact.ofToken? (token : String) : Option Compact := do
  let (message, signature) ← cutLast? token.toList
  let (header, claims) ← cutLast? message
  return ⟨message, header, claims, signature⟩

/-- The JSON text of a part, if the part is base 64. -/
def sourceOfPart? (part : List Char) : Option Json.Source :=
  (Text.Base64.decode? .url part).map Text.Utf8.decode

/-- A JSON text as a part. -/
def partOfText (text : String) : List Char :=
  Text.Base64.encode .url (Text.Utf8.ofString text)

end TenantOnboarding.Token
