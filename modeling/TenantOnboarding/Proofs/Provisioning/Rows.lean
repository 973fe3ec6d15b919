import TenantOnboarding.Proofs.Provisioning.Creation

/-!
# Whose rows a provisioning commits

Whatever the request says and whatever goes wrong, the rows that a provisioning commits are an
organization and one user, and that user has the visitor's own email. It is not enough to look at what the
provisioning returns: when the answer to a commit is lost, it fails, and has committed all the same.

* `createWithOwner_commits`: what a creation commits is what was wished for.
* **`provide_commits`**: so is what a provisioning commits, and the wish was found valid for the visitor.
-/

namespace TenantOnboarding

open Database

namespace Provisioning

variable {db db' : Database} {n : NewOrganization} {k : List Occurrence}

/-- Every transaction that the service committed in a history is an organization and its owner as they
were wished for. -/
def CommitsOnly (n : NewOrganization) (k : List Occurrence) : Prop :=
  ∀ p ∈ committedIn k, ∃ c : Created, c.Fulfils n ∧ p = c.rows

/-- Where nothing is committed, nothing else is. -/
theorem CommitsOnly.of_nothing (h : committedIn k = []) : CommitsOnly n k := by
  intro p hp
  rw [h] at hp
  exact absurd hp List.not_mem_nil

/-- What was committed before and after. -/
theorem CommitsOnly.append {k₁ k₂ : List Occurrence} (h₂ : CommitsOnly n k₂) (h₁ : CommitsOnly n k₁) :
    CommitsOnly n (k₂ ++ k₁) := by
  intro p hp
  rw [committedIn_append, List.mem_append] at hp
  exact hp.elim (h₂ p) (h₁ p)

/-- A commit makes the rows of the transaction visible and no others. -/
theorem CommitsOnly.of_settles {c : Created} (hfulfils : c.Fulfils n) (h : db.Settles c.rows k) :
    CommitsOnly n k := by
  intro p hp
  rw [(founding_of_settles hfulfils.founds h).2, List.mem_singleton] at hp
  exact ⟨c, hfulfils, hp⟩

/-- **What a creation commits is what was wished for**, even if the creation fails. -/
theorem createWithOwner_commits {r : Except StorageFailure Created}
    (hclosed : db.transaction = .closed) (hgenuine : db.Genuine)
    (h : (createWithOwner n).run db = (r, db')) :
    ∃ k, db.Advances db' k ∧ CommitsOnly n k := by
  rw [createWithOwner_eq, Tenancy.run_inTransaction] at h
  rcases hbegin : Tenancy.begin.run db with ⟨r₁, db₁⟩
  obtain ⟨k₁, hk₁, hnothing₁, hactive₁, -⟩ := Tenancy.begin_spec hclosed hgenuine hbegin
  have hgenuine₁ := hk₁.genuine hgenuine
  rw [hbegin] at h
  cases r₁ with
  | error cause =>
    cases h
    exact ⟨k₁, hk₁, .of_nothing hnothing₁⟩
  | ok =>
    rcases hbody : (insertions n).run db₁ with ⟨r₂, db₂⟩
    obtain ⟨k₂, hk₂, hnothing₂, hcreated⟩ := insertions_spec (hactive₁ rfl) hgenuine₁ hbody
    have hbefore : CommitsOnly n (k₂ ++ k₁) :=
      CommitsOnly.append (.of_nothing hnothing₂) (.of_nothing hnothing₁)
    simp only [hbody] at h
    cases r₂ with
    | error cause =>
      cases h
      exact ⟨_, (hk₁.trans hk₂).with_transaction .closed, hbefore⟩
    | ok c =>
      obtain ⟨hfulfils, hactive₂⟩ := hcreated c rfl
      rcases hclose : close.run db₂ with ⟨r₃, db₃⟩
      obtain ⟨k₃, hk₃, -, hsettled, hfailed⟩ := close_spec hactive₂ (hk₂.genuine hgenuine₁) hclose
      simp only [hclose] at h
      cases r₃ with
      | ok =>
        cases h
        exact ⟨_, (hk₁.trans hk₂).trans hk₃, .append (.of_settles hfulfils (hsettled rfl)) hbefore⟩
      | error cause =>
        cases h
        refine ⟨_, (hk₁.trans hk₂).trans hk₃, .append ?_ hbefore⟩
        rcases hfailed cause rfl with hnothing₃ | ⟨-, hsettles⟩
        · exact .of_nothing hnothing₃
        · exact .of_settles hfulfils hsettles

/-- How a provisioning goes once the email was looked up. -/
inductive Proceeds (identity : Identity) (wish : Request) (print : Printer)
    (found : Except Failure Membership) (db : Database) : Report → Database → Prop where
  /-- The lookup failed. -/
  | unknown {failure : Failure} (lookup : found = .error failure) :
    Proceeds identity wish print found db ⟨.start, .error failure⟩ db
  /-- The email belongs somewhere. -/
  | taken {user organization : Int64} (lookup : found = .ok ⟨some user, some organization⟩) :
    Proceeds identity wish print found db ⟨.found, .error (.alreadyExists user organization)⟩ db
  /-- The request is rejected. -/
  | rejected {failure : Failure} (invalid : wish.validateFor print identity.email = .error failure) :
    Proceeds identity wish print found db ⟨.rejected, .error failure⟩ db
  /-- An attempt to create is made. -/
  | attempted {n : NewOrganization} {report : Report} {db' : Database}
    (valid : wish.validateFor print identity.email = .ok n)
    (attempt : (attempt n identity.email).run db = (report, db')) :
    Proceeds identity wish print found db report db'

/-- **A provisioning goes in one of four ways.** -/
theorem provide_proceeds (identity : Identity) (wish : Request) (print : Printer) (db : Database) :
    Proceeds identity wish print ((Directory.membership identity.email).run db).1
      ((Directory.membership identity.email).run db).2 ((provide identity wish print).run db).1
      ((provide identity wish print).run db).2 := by
  rw [run_provide]
  match (Directory.membership identity.email).run db with
  | (.error failure, db₁) => exact .unknown rfl
  | (.ok ⟨some user, some organization⟩, db₁) => exact .taken rfl
  | (.ok ⟨none, _⟩, db₁) | (.ok ⟨some _, none⟩, db₁) =>
    simp only
    cases hvalid : wish.validateFor print identity.email with
    | error failure => exact .rejected hvalid
    | ok n => exact .attempted hvalid rfl

/-- **What a provisioning commits is what the visitor wished for**, and nothing at all if the wish is not
valid for their email. -/
theorem provide_commits {identity : Identity} {wish : Request} {print : Printer} {report : Report}
    (hclosed : db.transaction = .closed) (hgenuine : db.Genuine)
    (h : (provide identity wish print).run db = (report, db')) :
    ∃ k, db.Advances db' k ∧ ∀ p ∈ committedIn k,
      ∃ n c, wish.validateFor print identity.email = .ok n ∧ Created.Fulfils c n ∧ p = c.rows := by
  have hproceeds := provide_proceeds identity wish print db
  rcases hmembership : (Directory.membership identity.email).run db with ⟨r, db₁⟩
  obtain ⟨k₁, hlooks, -⟩ := Directory.membership_spec hclosed hgenuine hmembership
  have hk₁ := hlooks.toAdvances
  have hnothing : ∀ p ∈ committedIn k₁,
      ∃ n c, wish.validateFor print identity.email = .ok n ∧ Created.Fulfils c n ∧ p = c.rows := by
    intro p hp
    rw [hlooks.committedIn_eq_nil] at hp
    exact absurd hp List.not_mem_nil
  rw [hmembership, h] at hproceeds
  cases hproceeds with
  | unknown | taken | rejected => exact ⟨k₁, hk₁, hnothing⟩
  | @attempted n _ _ hvalid hattempt =>
    rw [run_attempt] at hattempt
    rcases hcreate : (createWithOwner n).run db₁ with ⟨r₂, db₂⟩
    have hgenuine₁ := hk₁.genuine hgenuine
    obtain ⟨k₂, hk₂, hcommits⟩ := createWithOwner_commits hlooks.closed hgenuine₁ hcreate
    obtain ⟨-, -, hclosed₂, -, -⟩ := createWithOwner_spec hlooks.closed hgenuine₁ hcreate
    have hwished : ∀ p ∈ committedIn (k₂ ++ k₁),
        ∃ n c, wish.validateFor print identity.email = .ok n ∧ Created.Fulfils c n ∧ p = c.rows := by
      intro p hp
      rw [committedIn_append, List.mem_append] at hp
      rcases hp with hp | hp
      · obtain ⟨c, hfulfils, hrows⟩ := hcommits p hp
        exact ⟨n, c, hvalid, hfulfils, hrows⟩
      · exact hnothing p hp
    rw [hcreate] at hattempt
    cases r₂ with
    | ok created =>
      cases hattempt
      exact ⟨_, hk₁.trans hk₂, hwished⟩
    | error cause =>
      rcases hresolve : (resolve cause identity.email).run db₂ with ⟨r₃, db₃⟩
      obtain ⟨k₃, hk₃, hnothing₃, -⟩ := resolve_spec hclosed₂ (hk₂.genuine hgenuine₁) hresolve
      simp only [hresolve] at hattempt
      cases hattempt
      refine ⟨_, (hk₁.trans hk₂).trans hk₃, fun p hp => hwished p ?_⟩
      rw [committedIn_append, hnothing₃] at hp
      exact hp

end Provisioning

end TenantOnboarding
