import TenantOnboarding.Email.Basic
import TenantOnboarding.Failure.Basic
import TenantOnboarding.Json.Coded
import TenantOnboarding.Text.Blank

/-!
# Requests for an organization

A visitor asks for an organization with a name, perhaps a description, and an owner's email. The request
is examined against the visitor's verified email; what passes is in the form in which it is stored. How
the faults of what does not pass are put in words is left to a printer.
-/

namespace TenantOnboarding.Provisioning

open TenantOnboarding.Json

/-! ## Wire form -/

/-- What is asked of the organization. -/
structure OrganizationInput where
  name : Option String
  description : Option String
  deriving Repr, DecidableEq

/-- What is said of the owner. -/
structure OwnerInput where
  email : Option String
  deriving Repr, DecidableEq

/-- A request for an organization. -/
structure Request where
  organization : Option OrganizationInput
  owner : Option OwnerInput
  deriving Repr, DecidableEq

instance : Coded OrganizationInput where
  shape := .recordOf [("name", .optional .text), ("description", .optional .text)]
  toValue o := .object [("name", .maybeText o.name), ("description", .maybeText o.description)]
  ofValue? v := do
    return { name := ← (← v.member? "name").optional? Value.text?
             description := ← (← v.member? "description").optional? Value.text? }

instance : Coded OwnerInput where
  shape := .recordOf [("email", .optional .text)]
  toValue o := .object [("email", .maybeText o.email)]
  ofValue? v := do
    return { email := ← (← v.member? "email").optional? Value.text? }

instance : Coded Request where
  shape := .recordOf [("organization", .optional (Coded.shape OrganizationInput)),
    ("appUser", .optional (Coded.shape OwnerInput))]
  toValue r := .object [("organization", .optional (r.organization.map Coded.toValue)),
    ("appUser", .optional (r.owner.map Coded.toValue))]
  ofValue? v := do
    return { organization := ← (← v.member? "organization").optional? Coded.ofValue?
             owner := ← (← v.member? "appUser").optional? Coded.ofValue? }

/-! ## Examination -/

/-- An organization with its owner, as it is to be stored. -/
structure NewOrganization where
  name : String
  description : Option String
  ownerEmail : String
  deriving Repr, DecidableEq

/-- Why a field is not as it must be. -/
inductive FieldFault where
  /-- The text is shorter or longer than it may be. -/
  | length (least : Option Nat) (most : Nat)
  /-- The text is no email. -/
  | email
  deriving Repr, DecidableEq

/-- The code of a fault. -/
def FieldFault.code : FieldFault → String
  | length .. => "length"
  | email => "email"

/-- How many characters a name may have. -/
def longestName : Nat := 255

/-- How many characters a description may have. -/
def longestDescription : Nat := 2000

/-- The faults of an organization, with the fields that have them, in the order of the fields' names. -/
def NewOrganization.faults (n : NewOrganization) : List (String × FieldFault) :=
  (if n.description.any fun d => longestDescription < d.length then
    [("description", .length none longestDescription)] else []) ++
  (if n.name.length < 1 ∨ longestName < n.name.length then
    [("name", .length (some 1) longestName)] else []) ++
  (if Email.isValid n.ownerEmail then [] else [("owner_email", .email)])

/-- How the faults of an organization are put in words. The words may change from one request to the next:
the faults stand in no fixed order. -/
abbrev Printer := NewOrganization → String

/-- A printer that names one fault in a line, in the order of the fields' names and without details. -/
def Printer.plain : Printer := fun n =>
  "\n".intercalate
    (n.faults.map fun (field, fault) => field ++ ": Validation error: " ++ fault.code)

/-- A text without blanks around it, if anything is left. -/
def trimmed? (s : String) : Option String :=
  let t := Text.trim s
  if t.isEmpty then none else some t

/-- Why a request is rejected. -/
inductive Rejection where
  /-- The owner's email is not the visitor's own. -/
  | emailMismatch
  /-- The name or the owner's email is missing. -/
  | incomplete
  /-- Fields of what is asked for are not as they must be. -/
  | faulty (n : NewOrganization)
  deriving Repr, DecidableEq

/-- The message of a rejection. -/
def Rejection.message (print : Printer) : Rejection → String
  | emailMismatch => "Email mismatch between token and request"
  | incomplete => "Organization name and user email are required"
  | faulty n => "Validation failed: " ++ print n

/-- What a request of a visitor with a verified email asks to be stored. -/
def Request.examine (r : Request) (verified : String) : Except Rejection NewOrganization :=
  let email := r.owner.bind (·.email)
  let name := r.organization.bind (·.name) |>.bind trimmed?
  if email.any (· ≠ verified) then .error .emailMismatch
  else match name, email with
    | some name, some ownerEmail =>
      let n : NewOrganization :=
        ⟨name, r.organization.bind (·.description) |>.bind trimmed?, ownerEmail⟩
      if n.faults.isEmpty then .ok n else .error (.faulty n)
    | _, _ => .error .incomplete

/-- The examination, with a rejection as the failure of the visitor's request. -/
def Request.validateFor (r : Request) (print : Printer) (verified : String) :
    Except Failure NewOrganization :=
  match r.examine verified with
  | .ok n => .ok n
  | .error rejection => .error (.validation (rejection.message print))

end TenantOnboarding.Provisioning
