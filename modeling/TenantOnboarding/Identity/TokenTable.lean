import TenantOnboarding.Identity.Basic
import TenantOnboarding.Identity.Refusal

/-!
# Tables of tokens

A fixed table of tokens with the identities that they stand for, for local work without an identity
provider. A token that is entered again stands for its new identity.
-/

namespace TenantOnboarding

/-- Tokens with their identities, the last entered first. -/
structure TokenTable where
  entries : List (String × Identity)
  deriving Repr, DecidableEq

namespace TokenTable

/-- The table without tokens. -/
def empty : TokenTable := ⟨[]⟩

/-- The table with one more token. -/
def insert (t : TokenTable) (token : String) (identity : Identity) : TokenTable :=
  ⟨(token, identity) :: t.entries⟩

/-- The identity that a token stands for. It must have an email. -/
def verify (t : TokenTable) (token : String) : Except Refusal Identity :=
  match t.entries.lookup token with
  | none => .error .invalidToken
  | some identity => if identity.email.isEmpty then .error .missingEmail else .ok identity

end TokenTable

end TenantOnboarding
