import TenantOnboarding.Email.Literal
import TenantOnboarding.Idna.Domain

/-!
# Emails

An email is a user and a domain with the last `@` between them. The domain is labels with points between
them, or ends with the address of a host in brackets; a domain of another script is judged by its ASCII
form.
-/

namespace TenantOnboarding.Email

/-- Whether a character is an ASCII letter or digit. -/
def isAlphanumeric (c : Char) : Bool :=
  ('a' ≤ c && c ≤ 'z') || ('A' ≤ c && c ≤ 'Z') || ('0' ≤ c && c ≤ '9')

/-- Whether a character may stand in the user part. -/
def isUserChar (c : Char) : Bool :=
  isAlphanumeric c || ".!#$%&'*+/=?^_\x60\x7b|\x7d~-".toList.contains c

/-- Whether a text is a label: one to 63 letters, digits and hyphens, no hyphen first or last. -/
def isLabel (cs : List Char) : Bool :=
  cs.all (fun c => isAlphanumeric c || c == '-') && cs.length ≤ 63 &&
    cs.head?.any isAlphanumeric && cs.getLast?.any isAlphanumeric

/-- What stands in the brackets that a text ends with. -/
def inBrackets? (cs : List Char) : Option (List Char) :=
  match cs.reverse with
  | ']' :: rest =>
    if rest.contains '[' then some (rest.takeWhile (· ≠ '[')).reverse else none
  | _ => none

/-- Whether a text is a domain in ASCII: labels, or anything that ends with an address in brackets. -/
def isAsciiDomain (cs : List Char) : Bool :=
  (cs.splitOn '.').all isLabel || (inBrackets? cs).any isHostAddress

/-- Whether a text is a domain. -/
def isDomain (cs : List Char) : Bool :=
  isAsciiDomain cs || (Idna.toAscii? cs).any isAsciiDomain

/-- The user and the domain of a text with an `@`. -/
def split? (cs : List Char) : Option (List Char × List Char) :=
  match cs.reverse.dropWhile (· ≠ '@') with
  | [] => none
  | _ :: user => some (user.reverse, (cs.reverse.takeWhile (· ≠ '@')).reverse)

/-- Whether a text is an email. -/
def isValid (s : String) : Bool :=
  match split? s.toList with
  | none => false
  | some (user, domain) =>
    user.length ≤ 64 && domain.length ≤ 255 && !user.isEmpty && user.all isUserChar && isDomain domain

end TenantOnboarding.Email
