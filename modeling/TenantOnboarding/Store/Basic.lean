import TenantOnboarding.Organization.Basic

/-!
# The store

The committed rows: organizations and users. A new row gets the next number of its table unless it brings
one of its own. The numbers of a table are never drawn twice, and when the greatest has been drawn there
are no more.
-/

namespace TenantOnboarding

/-- The committed rows and the next number of each table, if any is left. -/
structure Store where
  organizations : List Organization
  users : List AppUser
  nextOrganization : Option Int64
  nextUser : Option Int64
  deriving Repr, DecidableEq

/-- The rows that a transaction has inserted. -/
structure Pending where
  organizations : List Organization
  users : List AppUser
  /-- The migrations that it has run, by version and description. -/
  migrations : List (Int64 × String)
  deriving Repr, DecidableEq

namespace Store

/-- The store without rows. -/
def empty : Store := ⟨[], [], some 1, some 1⟩

/-- The user of an email. Case and blanks matter. -/
def userOf? (s : Store) (email : String) : Option AppUser :=
  s.users.find? (·.email == email)

/-- Whether there is an organization of a number. -/
def hasOrganization (s : Store) (id : Int64) : Bool :=
  s.organizations.any (·.id == id)

/-! ## Numbers -/

/-- The number after another. There is none after the greatest. -/
def following (id : Int64) : Option Int64 :=
  if id = Int64.maxValue then none else some (id + 1)

/-- The store after the number of an organization was drawn. -/
def drawOrganization (s : Store) : Store :=
  { s with nextOrganization := s.nextOrganization.bind following }

/-- The store after the number of a user was drawn. -/
def drawUser (s : Store) : Store :=
  { s with nextUser := s.nextUser.bind following }

/-! ## What must be unique -/

/-- The rows of a transaction can be added: no committed row has a number or an email of theirs. -/
structure Apart (s : Store) (p : Pending) : Prop where
  organizations : ∀ o ∈ p.organizations, ∀ o' ∈ s.organizations, o'.id ≠ o.id
  users : ∀ u ∈ p.users, ∀ u' ∈ s.users, u'.id ≠ u.id
  emails : ∀ u ∈ p.users, ∀ u' ∈ s.users, u'.email ≠ u.email

instance (s : Store) (p : Pending) : Decidable (s.Apart p) :=
  decidable_of_iff
    ((∀ o ∈ p.organizations, ∀ o' ∈ s.organizations, o'.id ≠ o.id) ∧
      (∀ u ∈ p.users, ∀ u' ∈ s.users, u'.id ≠ u.id) ∧
      ∀ u ∈ p.users, ∀ u' ∈ s.users, u'.email ≠ u.email)
    ⟨fun ⟨organizations, users, emails⟩ => ⟨organizations, users, emails⟩,
      fun h => ⟨h.organizations, h.users, h.emails⟩⟩

/-! ## What others commit -/

/-- What another client may commit meanwhile. A row that is added brings a number of its own or gets the
next one. A number that is drawn is used up even if its row is not committed. -/
inductive Change where
  | addOrganization (own : Option Int64) (name : String) (description : Option String)
  | addUser (own : Option Int64) (email : String) (organization : Int64) (role : Role)
  | removeUser (email : String)
  | drawOrganization
  | drawUser
  deriving Repr, DecidableEq

/-- The store after a change. Where no number is left, no row is added. -/
def apply (s : Store) : Change → Store
  | .addOrganization own name description =>
    match own.or s.nextOrganization with
    | none => s
    | some id =>
      { s with
        organizations := s.organizations ++ [⟨id, name, description⟩]
        nextOrganization := if own.isSome then s.nextOrganization else following id }
  | .addUser own email organization role =>
    match own.or s.nextUser with
    | none => s
    | some id =>
      { s with
        users := s.users ++ [⟨id, email, organization, role⟩]
        nextUser := if own.isSome then s.nextUser else following id }
  | .removeUser email => { s with users := s.users.filter (·.email != email) }
  | .drawOrganization => s.drawOrganization
  | .drawUser => s.drawUser

end Store

end TenantOnboarding
