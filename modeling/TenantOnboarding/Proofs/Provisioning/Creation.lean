import TenantOnboarding.Proofs.Provisioning.Examination
import TenantOnboarding.Proofs.Store.Transaction
import TenantOnboarding.Provisioning.Basic

/-!
# What a provisioning commits

A provisioning runs in one transaction; these statements follow it from the first lookup to its end,
on a database whose answers are genuine and which may otherwise fail at every statement.

* `begin_spec`, `insertOrganization_spec`, `setOrganization_spec`, `insertUser_spec` and `close_spec`:
  one statement of the transaction each.
* **`createWithOwner_spec`**: a creation that succeeds commits one organization with its owner, the
  ones that it returns; one that fails commits nothing, unless the answer to its commit was lost.
* **`provide_spec`**: the same of a whole provisioning, whatever the request asks for.
-/

namespace TenantOnboarding

open Database

variable {db db' : Database}

/-! ## Statements of a transaction -/

/-- A record is there already exactly if a uniqueness constraint was broken. -/
theorem StorageFailure.ofDatabase_eq_alreadyExists_iff {cause : DatabaseFailure} :
    StorageFailure.ofDatabase cause = .alreadyExists ↔
      cause.code? = some DatabaseFailure.uniqueViolation := by
  unfold ofDatabase
  constructor
  · intro h
    by_contra htaken
    rw [if_neg htaken] at h
    split at h <;> cases h
  · intro htaken
    have hrow : cause ≠ .rowNotFound := by
      rintro rfl
      cases htaken
    rw [if_neg hrow, if_pos htaken]

namespace Tenancy

/-- Beginning a transaction means to send a statement, and to hold no transaction if it fails. -/
theorem run_begin (db : Database) :
    begin.run db =
      match (send .begin).run db with
      | (.ok _, db') => (.ok (), db')
      | (.error cause, db') => (.error (.ofDatabase cause), { db' with transaction := .closed }) := by
  unfold begin tell
  rw [Work.run_bind, Work.run_lift, Work.run_adapt]
  rcases (send .begin).run db with ⟨_ | rows, db'⟩ <;> rfl

/-- Writing an organization means to send a statement and to read the row. -/
theorem run_insertOrganization (name : String) (description : Option String) (db : Database) :
    (insertOrganization name description).run db =
      match (send (.insertOrganization name description)).run db with
      | (.ok rows, db') => (required Organization.ofRow? rows, db')
      | (.error cause, db') => (.error (.ofDatabase cause), db') := by
  unfold insertOrganization tell
  rw [Work.run_bind, Work.run_adapt]
  rcases (send (.insertOrganization name description)).run db with ⟨_ | rows, db'⟩ <;> rfl

/-- Setting the claims means to send a statement. -/
theorem run_setOrganization (organization : Int64) (db : Database) :
    (setOrganization organization).run db =
      match (send (.setConfig claimsSetting (claimsOf organization) true)).run db with
      | (.ok _, db') => (.ok (), db')
      | (.error cause, db') => (.error (.ofDatabase cause), db') := by
  unfold setOrganization tell
  rw [Work.run_bind, Work.run_adapt]
  rcases (send (.setConfig claimsSetting (claimsOf organization) true)).run db with ⟨_ | rows, db'⟩ <;> rfl

/-- Writing a user means to send a statement and to read the row. -/
theorem run_insertUser (email : String) (organization : Int64) (role : Role) (db : Database) :
    (insertUser email organization role).run db =
      match (send (.insertUser email organization role)).run db with
      | (.ok rows, db') => (required AppUser.ofRow? rows, db')
      | (.error cause, db') => (.error (.ofDatabase cause), db') := by
  unfold insertUser tell
  rw [Work.run_bind, Work.run_adapt]
  rcases (send (.insertUser email organization role)).run db with ⟨_ | rows, db'⟩ <;> rfl

/-- A transaction is begun, its body is run, and it is committed or abandoned. -/
theorem run_inTransaction {α : Type} (body : Work StorageFailure α) (db : Database) :
    (inTransaction body).run db =
      match begin.run db with
      | (.error cause, db₁) => (.error cause, db₁)
      | (.ok _, db₁) =>
        match body.run db₁ with
        | (.error cause, db₂) => (.error cause, { db₂ with transaction := .closed })
        | (.ok a, db₂) =>
          match close.run db₂ with
          | (.error cause, db₃) => (.error (.ofDatabase cause), db₃)
          | (.ok _, db₃) => (.ok a, db₃) := by
  unfold inTransaction
  rw [Work.run_bind]
  rcases begin.run db with ⟨_ | _, db₁⟩
  · rfl
  · simp only
    rw [Work.run_bind, Work.run_lift]
    rcases body.run db₁ with ⟨_ | a, db₂⟩
    · rfl
    · simp only
      rw [Work.run_bind, Work.run_adapt]
      rcases close.run db₂ with ⟨_ | _, db₃⟩ <;> rfl

end Tenancy

/-- A commit that succeeds ends the transaction. -/
theorem Database.closed_of_commit {rows : List Row} (h : (send .commit).run db = (.ok rows, db')) :
    db'.transaction = .closed := by
  have hexecute : ∀ {db₁ db₂ : Database} {rows : List Row},
      db₁.execute .commit = (.ok rows, db₂) → db₂.transaction = .closed := by
    intro db₁ db₂ rows heffect
    rw [execute_of_clean fun t ht => absurd ht List.not_mem_nil, perform_commit rfl] at heffect
    split at heffect <;> cases heffect
    rfl
  by_cases hlistens : db.Listens
  · obtain ⟨db₁, w, -, hsent⟩ := send_cases h hlistens
    cases hsent with
    | carriedOut heffect => exact hexecute heffect
    | otherRows heffect _ => exact hexecute heffect
  · change deliver .commit db = _ at h
    unfold deliver at h
    match htransaction : db.transaction with
    | .closed => exact absurd (.inl htransaction) hlistens
    | .active p => exact absurd (.inr ⟨p, htransaction⟩) hlistens
    | .lost =>
      rw [htransaction] at h
      cases h
    | .aborted =>
      rw [htransaction] at h
      cases h
      rfl

/-- A commit is sent, and however that goes the transaction has ended. -/
theorem Database.run_close (db : Database) :
    close.run db =
      match (send .commit).run db with
      | (.ok _, db') => (.ok (), { db' with transaction := .closed })
      | (.error cause, db') => (.error cause, { db' with transaction := .closed }) := by
  unfold close
  rw [Work.run_bind, Work.run_lift]
  rcases hcommit : (send .commit).run db with ⟨cause | rows, db'⟩
  · rfl
  · have hsame : { db' with transaction := .closed } = db' := by rw [← closed_of_commit hcommit]
    simp only [hsame]
    rfl

/-- Where the transaction stands does not matter to the rows. -/
theorem Database.Advances.with_transaction {h : List Occurrence} (a : db.Advances db' h)
    (transaction : Transaction) : db.Advances { db' with transaction } h :=
  ⟨a.history, a.store, a.faults, a.changes, a.reachable⟩

namespace Tenancy

/-- A transaction that begins has inserted nothing; if it does not begin, there is none. -/
theorem begin_spec {r : Except StorageFailure Unit} (hclosed : db.transaction = .closed)
    (hgenuine : db.Genuine) (h : begin.run db = (r, db')) :
    ∃ k, db.Advances db' k ∧ committedIn k = [] ∧
      (r = .ok () → db'.transaction = .active ⟨[], [], []⟩) ∧
      ∀ cause, r = .error cause → db'.transaction = .closed := by
  rw [run_begin] at h
  rcases hsend : (send .begin).run db with ⟨_ | rows, db₁⟩
  · obtain ⟨k, hk, hnothing, -⟩ := send_spec (by simp) (.inl hclosed) hgenuine hsend
    rw [hsend] at h
    cases h
    exact ⟨k, hk.with_transaction .closed, hnothing, (fun hr => by cases hr), fun _ _ => rfl⟩
  · obtain ⟨k, hk, hnothing, hok⟩ := send_spec (by simp) (.inl hclosed) hgenuine hsend
    obtain ⟨db₂, w, -, -, hperform⟩ := hok rows rfl
    rw [hsend] at h
    cases h
    cases hperform
    exact ⟨k, hk, hnothing, fun _ => rfl, fun cause hr => by cases hr⟩

variable {p : Pending} (hactive : db.transaction = .active p) (hgenuine : db.Genuine)
include hactive hgenuine

/-- What is written as an organization belongs to the transaction. -/
theorem insertOrganization_spec {name : String} {description : Option String}
    {r : Except StorageFailure Organization}
    (h : (insertOrganization name description).run db = (r, db')) :
    ∃ k, db.Advances db' k ∧ committedIn k = [] ∧ ∀ o, r = .ok o →
      o.name = name ∧ o.description = description ∧
        db'.transaction = .active { p with organizations := p.organizations ++ [o] } := by
  rw [run_insertOrganization] at h
  rcases hsend : (send (.insertOrganization name description)).run db with ⟨_ | rows, db₁⟩
  · obtain ⟨k, hk, hnothing, -⟩ := send_spec (by simp) (.inr ⟨p, hactive⟩) hgenuine hsend
    rw [hsend] at h
    cases h
    exact ⟨k, hk, hnothing, fun o hr => by cases hr⟩
  · obtain ⟨k, hk, hnothing, hok⟩ := send_spec (by simp) (.inr ⟨p, hactive⟩) hgenuine hsend
    obtain ⟨db₂, w, hw, -, hperform⟩ := hok rows rfl
    obtain ⟨o, hname, hdescription, rfl, -, htransaction⟩ := perform_insertOrganization_ok hperform
    rw [hsend] at h
    simp only [required, Organization.ofRow?_toRow] at h
    cases h
    have hpending : (db₂.note (.ran (.insertOrganization name description))).pending = p :=
      pending_of_active (hw.transaction.trans hactive)
    rw [hpending] at htransaction
    refine ⟨k, hk, hnothing, ?_⟩
    rintro o' ⟨⟩
    exact ⟨hname, hdescription, htransaction⟩

/-- Setting the claims leaves the transaction as it is. -/
theorem setOrganization_spec {organization : Int64} {r : Except StorageFailure Unit}
    (h : (setOrganization organization).run db = (r, db')) :
    ∃ k, db.Advances db' k ∧ committedIn k = [] ∧
      (r = .ok () → db'.transaction = .active p) := by
  rw [run_setOrganization] at h
  rcases hsend : (send (.setConfig claimsSetting (claimsOf organization) true)).run db with ⟨_ | rows, db₁⟩
  · obtain ⟨k, hk, hnothing, -⟩ := send_spec (by simp) (.inr ⟨p, hactive⟩) hgenuine hsend
    rw [hsend] at h
    cases h
    exact ⟨k, hk, hnothing, fun hr => by cases hr⟩
  · obtain ⟨k, hk, hnothing, hok⟩ := send_spec (by simp) (.inr ⟨p, hactive⟩) hgenuine hsend
    obtain ⟨db₂, w, hw, -, hperform⟩ := hok rows rfl
    rw [hsend] at h
    cases h
    cases hperform
    exact ⟨k, hk, hnothing, fun _ => hw.transaction.trans hactive⟩

/-- Who is written as a user belongs to the transaction. -/
theorem insertUser_spec {email : String} {organization : Int64} {role : Role}
    {r : Except StorageFailure AppUser}
    (h : (insertUser email organization role).run db = (r, db')) :
    ∃ k, db.Advances db' k ∧ committedIn k = [] ∧ ∀ u, r = .ok u →
      u.email = email ∧ u.organization = organization ∧ u.role = role ∧
        db'.transaction = .active { p with users := p.users ++ [u] } := by
  rw [run_insertUser] at h
  rcases hsend : (send (.insertUser email organization role)).run db with ⟨_ | rows, db₁⟩
  · obtain ⟨k, hk, hnothing, -⟩ := send_spec (by simp) (.inr ⟨p, hactive⟩) hgenuine hsend
    rw [hsend] at h
    cases h
    exact ⟨k, hk, hnothing, fun o hr => by cases hr⟩
  · obtain ⟨k, hk, hnothing, hok⟩ := send_spec (by simp) (.inr ⟨p, hactive⟩) hgenuine hsend
    obtain ⟨db₂, w, hw, -, hperform⟩ := hok rows rfl
    obtain ⟨u, hemail, horganization, hrole, rfl, -, htransaction⟩ := perform_insertUser_ok hperform
    rw [hsend] at h
    simp only [required, AppUser.ofRow?_toRow] at h
    cases h
    have hpending : (db₂.note (.ran (.insertUser email organization role))).pending = p :=
      pending_of_active (hw.transaction.trans hactive)
    rw [hpending] at htransaction
    refine ⟨k, hk, hnothing, ?_⟩
    rintro u' ⟨⟩
    exact ⟨hemail, horganization, hrole, htransaction⟩

end Tenancy

/-! ### Commits -/

namespace Database

/-- The answer to a commit may be lost after the commit took effect. -/
def MayLoseCommit (db : Database) : Prop :=
  ∃ f ∈ db.faults, f.moment = .commit ∧ f.ending = .unanswered

/-- The answer to a commit was to be lost before. -/
theorem Advances.mayLoseCommit {h : List Occurrence} (a : db.Advances db' h)
    (hlost : db'.MayLoseCommit) : db.MayLoseCommit := by
  obtain ⟨f, hf, hmoment, hending⟩ := hlost
  obtain ⟨g, hg, hgm, -, hge⟩ := a.faults f hf
  exact ⟨g, hg, hgm.trans hmoment, hge.trans hending⟩

/-- A commit is refused because somebody has a number or an email of the transaction, or it makes the rows
of the transaction visible. -/
theorem execute_commit {p : Pending} {r : Reply} (hpending : db.pending = p)
    (h : db.execute .commit = (r, db')) :
    (∃ cause, r = .error cause ∧ db.Advances db' [.ran .commit] ∧ ¬db.store.Apart p) ∨
      r = .ok [] ∧ db.Advances db' [.committed p, .ran .commit] ∧ db.store.Apart p := by
  rw [execute_of_clean (fun t ht => absurd ht List.not_mem_nil), perform_commit hpending] at h
  have hran : db.Advances (db.note (.ran .commit)) [.ran .commit] := advances_ran rfl rfl rfl rfl
  split at h
  · rename_i hapart
    cases h
    refine .inr ⟨rfl, ⟨rfl, rfl, hran.faults, ?_, rfl⟩, hapart⟩
    intro c held hc
    simp at hc
  · rename_i htaken
    cases h
    exact .inl ⟨_, rfl, hran.with_transaction .closed, htaken⟩

/-- **A commit makes the rows of the transaction visible**, and their numbers and emails are new; if it
fails, it had no effect or its answer was lost. Either way there is no transaction any more. -/
theorem close_spec {p : Pending} {r : Except DatabaseFailure Unit}
    (hactive : db.transaction = .active p) (hgenuine : db.Genuine) (h : close.run db = (r, db')) :
    ∃ k, db.Advances db' k ∧ db'.transaction = .closed ∧ (r = .ok () → db.Settles p k) ∧
      ∀ cause, r = .error cause → committedIn k = [] ∨ db.MayLoseCommit ∧ db.Settles p k := by
  rw [run_close] at h
  rcases hsend : (send .commit).run db with ⟨r₀, db₀⟩
  obtain ⟨db₁, w, hw, hsent⟩ := send_cases hsend (.inr ⟨p, hactive⟩)
  have hpending : db₁.pending = p := pending_of_active (hw.transaction.trans hactive)
  have hclosed : db' = { db₀ with transaction := .closed } := by
    rw [hsend] at h
    rcases r₀ with _ | _ <;> cases h <;> rfl
  have hr : r = r₀.map fun _ => () := by
    rw [hsend] at h
    rcases r₀ with _ | _ <;> cases h <;> rfl
  have hnothing : committedIn ([.ran .commit] ++ w) = [] := by
    rw [committedIn_append, hw.committedIn_eq_nil]
    rfl
  have hsettles : db₁.store.Apart p → db.Settles p ([.committed p, .ran .commit] ++ w) := by
    intro hnew
    rw [hw.store] at hnew
    exact ⟨.ran .commit :: w, rfl, hnothing, hnew⟩
  subst hclosed hr
  cases hsent with
  | notCarriedOut hfalters _ =>
    exact ⟨_, (hw.toAdvances.trans hfalters.toAdvances).with_transaction .closed, rfl,
      (fun hr => by cases hr), fun _ _ => .inl hw.committedIn_eq_nil⟩
  | carriedOut heffect =>
    rcases execute_commit hpending heffect with ⟨cause, rfl, hran, -⟩ | ⟨rfl, hran, hnew⟩
    · exact ⟨_, (hw.toAdvances.trans hran).with_transaction .closed, rfl,
        (fun hr => by cases hr), fun _ _ => .inl hnothing⟩
    · exact ⟨_, (hw.toAdvances.trans hran).with_transaction .closed, rfl,
        (fun _ => hsettles hnew), fun _ hr => by cases hr⟩
  | unanswered heffect hfalters hfault =>
    rcases execute_commit hpending heffect with ⟨cause, rfl, hran, -⟩ | ⟨rfl, hran, hnew⟩
    · exact ⟨_, ((hw.toAdvances.trans hran).trans hfalters.toAdvances).with_transaction .closed, rfl,
        (fun hr => by cases hr), fun _ _ => .inl hnothing⟩
    · exact ⟨_, ((hw.toAdvances.trans hran).trans hfalters.toAdvances).with_transaction .closed, rfl,
        (fun hr => by cases hr), fun _ _ => .inr ⟨hfault, hsettles hnew⟩⟩
  | otherRows _ hfault =>
    obtain ⟨f, hf, hending⟩ := hfault
    exact absurd hending (hgenuine f hf _)

end Database

/-! ## Creations -/

namespace Provisioning

/-- The three insertions of a creation. -/
def insertions (n : NewOrganization) : Work StorageFailure Created := do
  let organization ← Tenancy.insertOrganization n.name n.description
  Tenancy.setOrganization organization.id
  let user ← Tenancy.insertUser n.ownerEmail organization.id .owner
  return ⟨organization, user⟩

/-- A creation is its insertions in a transaction. -/
theorem createWithOwner_eq (n : NewOrganization) :
    createWithOwner n = Tenancy.inTransaction (insertions n) := rfl

/-- What is created is what was asked for. -/
structure Created.Fulfils (c : Created) (n : NewOrganization) : Prop where
  name : c.organization.name = n.name
  description : c.organization.description = n.description
  email : c.user.email = n.ownerEmail
  reference : c.user.organization = c.organization.id
  role : c.user.role = .owner

/-- The rows of what is created. -/
def Created.rows (c : Created) : Pending := ⟨[c.organization], [c.user], []⟩

/-- What fulfils a wish is an organization with its owner. -/
theorem Created.Fulfils.founds {c : Created} {n : NewOrganization} (h : c.Fulfils n) :
    c.rows.Founds c.organization c.user :=
  ⟨rfl, h.reference, h.role⟩

/-- The insertions commit nothing; if they succeed, their rows are those of the transaction. -/
theorem insertions_spec {n : NewOrganization} {r : Except StorageFailure Created}
    (hactive : db.transaction = .active ⟨[], [], []⟩) (hgenuine : db.Genuine)
    (h : (insertions n).run db = (r, db')) :
    ∃ k, db.Advances db' k ∧ committedIn k = [] ∧
      ∀ c, r = .ok c → c.Fulfils n ∧ db'.transaction = .active c.rows := by
  unfold insertions at h
  rw [Work.run_bind] at h
  rcases hinsert : (Tenancy.insertOrganization n.name n.description).run db with ⟨_ | o, db₁⟩
  · obtain ⟨k, hk, hnothing, -⟩ := Tenancy.insertOrganization_spec hactive hgenuine hinsert
    rw [hinsert] at h
    cases h
    exact ⟨k, hk, hnothing, fun c hr => by cases hr⟩
  obtain ⟨k₁, hk₁, hnothing₁, ho⟩ := Tenancy.insertOrganization_spec hactive hgenuine hinsert
  obtain ⟨hname, hdescription, hactive₁⟩ := ho o rfl
  have hgenuine₁ := hk₁.genuine hgenuine
  simp only [hinsert] at h
  rw [Work.run_bind] at h
  rcases hset : (Tenancy.setOrganization o.id).run db₁ with ⟨_ | _, db₂⟩
  · obtain ⟨k, hk, hnothing, -⟩ := Tenancy.setOrganization_spec hactive₁ hgenuine₁ hset
    rw [hset] at h
    cases h
    exact ⟨_, hk₁.trans hk, by rw [committedIn_append, hnothing, hnothing₁]; rfl,
      fun c hr => by cases hr⟩
  obtain ⟨k₂, hk₂, hnothing₂, hactive₂⟩ := Tenancy.setOrganization_spec hactive₁ hgenuine₁ hset
  have hgenuine₂ := hk₂.genuine hgenuine₁
  simp only [hset] at h
  rw [Work.run_bind] at h
  rcases hwrite : (Tenancy.insertUser n.ownerEmail o.id .owner).run db₂ with ⟨_ | u, db₃⟩
  · obtain ⟨k, hk, hnothing, -⟩ := Tenancy.insertUser_spec (hactive₂ rfl) hgenuine₂ hwrite
    rw [hwrite] at h
    cases h
    exact ⟨_, (hk₁.trans hk₂).trans hk,
      by simp only [committedIn_append, hnothing, hnothing₁, hnothing₂, List.append_nil],
      fun c hr => by cases hr⟩
  obtain ⟨k₃, hk₃, hnothing₃, hu⟩ := Tenancy.insertUser_spec (hactive₂ rfl) hgenuine₂ hwrite
  obtain ⟨hemail, hreference, hrole, hactive₃⟩ := hu u rfl
  rw [hwrite] at h
  cases h
  refine ⟨_, (hk₁.trans hk₂).trans hk₃,
    by simp only [committedIn_append, hnothing₁, hnothing₂, hnothing₃, List.append_nil], ?_⟩
  rintro c ⟨⟩
  exact ⟨⟨hname, hdescription, hemail, hreference, hrole⟩, hactive₃⟩

/-- Where nothing was committed by the service, it committed nothing but foundings. -/
theorem founding_of_nothing {h : List Occurrence} (hnothing : committedIn h = []) (s : Store) :
    Throughout Occurrence.Founding s h := by
  apply throughout_of_forall
  intro o ho t
  cases o with
  | committed p =>
    have hp := mem_committedIn.mpr ho
    rw [hnothing] at hp
    exact absurd hp List.not_mem_nil
  | ran s => trivial
  | changed c held => trivial

/-- What is committed at the end of a creation is a founding. -/
theorem founding_of_settles {p : Pending} {o : Organization} {u : AppUser} {h : List Occurrence}
    (hfounds : p.Founds o u) (hsettles : db.Settles p h) :
    Throughout Occurrence.Founding db.store h ∧ committedIn h = [p] := by
  obtain ⟨earlier, rfl, hnothing, hnew⟩ := hsettles
  refine ⟨.cons ⟨⟨o, u, hfounds⟩, hnew⟩ (founding_of_nothing hnothing _), ?_⟩
  show p :: committedIn earlier = [p]
  rw [hnothing]

/-- What the service committed in a history, by what came of a creation: an organization with its owner
as they were returned; or nothing, unless the answer to a commit may have been lost. -/
structure Outcome {ε : Type} (db : Database) (h : List Occurrence) (r : Except ε Created) : Prop where
  founding : Throughout Occurrence.Founding db.store h
  created : ∀ c, r = .ok c → committedIn h = [c.rows]
  failed : ∀ e, r = .error e → committedIn h = [] ∨ db.MayLoseCommit

/-- A failure without any commit. -/
theorem Outcome.of_nothing {ε : Type} {h : List Occurrence} (hnothing : committedIn h = []) (e : ε) :
    Outcome db h (.error e : Except ε Created) :=
  ⟨founding_of_nothing hnothing _, (fun c hr => by cases hr), fun _ _ => .inl hnothing⟩

/-- What happened before without any commit does not matter. -/
theorem Outcome.after {ε : Type} {db₁ : Database} {h₁ h : List Occurrence} {r : Except ε Created}
    (a : db.Advances db₁ h₁) (hnothing : committedIn h₁ = []) (b : Outcome db₁ h r) :
    Outcome db (h ++ h₁) r where
  founding := throughout_append.mpr ⟨a.store ▸ b.founding, founding_of_nothing hnothing _⟩
  created c hr := by rw [committedIn_append, hnothing, b.created c hr, List.append_nil]
  failed e hr := by
    rw [committedIn_append, hnothing, List.append_nil]
    exact (b.failed e hr).imp_right a.mayLoseCommit

/-- What happens after a failure without any commit does not matter. -/
theorem Outcome.before {ε ε' : Type} {h₁ h : List Occurrence} {e : ε} {e' : ε'}
    (b : Outcome db h₁ (.error e)) (hnothing : committedIn h = []) :
    Outcome db (h ++ h₁) (.error e' : Except ε' Created) where
  founding := throughout_append.mpr ⟨founding_of_nothing hnothing _, b.founding⟩
  created c hr := by cases hr
  failed _ _ := by
    rw [committedIn_append, hnothing, List.nil_append]
    exact b.failed e rfl

/-- **A creation that succeeds commits what it returns, and one that fails commits nothing**, unless the
answer to its commit was lost. -/
theorem createWithOwner_spec {n : NewOrganization} {r : Except StorageFailure Created}
    (hclosed : db.transaction = .closed) (hgenuine : db.Genuine)
    (h : (createWithOwner n).run db = (r, db')) :
    ∃ k, db.Advances db' k ∧ db'.transaction = .closed ∧ Outcome db k r ∧
      ∀ c, r = .ok c → c.Fulfils n := by
  rw [createWithOwner_eq, Tenancy.run_inTransaction] at h
  rcases hbegin : Tenancy.begin.run db with ⟨_ | _, db₁⟩
  · obtain ⟨k, hk, hnothing, -, hclosed'⟩ := Tenancy.begin_spec hclosed hgenuine hbegin
    rw [hbegin] at h
    cases h
    exact ⟨k, hk, hclosed' _ rfl, .of_nothing hnothing _, fun c hr => by cases hr⟩
  obtain ⟨k₁, hk₁, hnothing₁, hactive₁, -⟩ := Tenancy.begin_spec hclosed hgenuine hbegin
  have hgenuine₁ := hk₁.genuine hgenuine
  simp only [hbegin] at h
  rcases hbody : (insertions n).run db₁ with ⟨cause | c, db₂⟩
  · obtain ⟨k₂, hk₂, hnothing₂, -⟩ := insertions_spec (hactive₁ rfl) hgenuine₁ hbody
    rw [hbody] at h
    cases h
    exact ⟨_, (hk₁.trans hk₂).with_transaction .closed, rfl,
      .of_nothing (by rw [committedIn_append, hnothing₁, hnothing₂]; rfl) _,
      fun c hr => by cases hr⟩
  obtain ⟨k₂, hk₂, hnothing₂, hcreated⟩ := insertions_spec (hactive₁ rfl) hgenuine₁ hbody
  obtain ⟨hfulfils, hactive₂⟩ := hcreated c rfl
  have hnothing : committedIn (k₂ ++ k₁) = [] := by
    rw [committedIn_append, hnothing₁, hnothing₂]
    rfl
  simp only [hbody] at h
  rcases hclose : close.run db₂ with ⟨cause | _, db₃⟩
  · obtain ⟨k₃, hk₃, hclosed₃, -, hfailed⟩ := close_spec hactive₂ (hk₂.genuine hgenuine₁) hclose
    rw [hclose] at h
    cases h
    refine ⟨_, (hk₁.trans hk₂).trans hk₃, hclosed₃, Outcome.after (hk₁.trans hk₂) hnothing ?_,
      fun c hr => by cases hr⟩
    rcases hfailed cause rfl with hnothing₃ | ⟨hlost, hsettles⟩
    · exact .of_nothing hnothing₃ _
    · exact ⟨(founding_of_settles hfulfils.founds hsettles).1, (fun c hr => by cases hr),
        fun _ _ => .inr hlost⟩
  · obtain ⟨k₃, hk₃, hclosed₃, hsettled, -⟩ := close_spec hactive₂ (hk₂.genuine hgenuine₁) hclose
    rw [hclose] at h
    cases h
    obtain ⟨hfounding, hcommitted⟩ := founding_of_settles hfulfils.founds (hsettled rfl)
    refine ⟨_, (hk₁.trans hk₂).trans hk₃, hclosed₃, Outcome.after (hk₁.trans hk₂) hnothing
      ⟨hfounding, ?_, fun e hr => by cases hr⟩, ?_⟩
    · rintro c' ⟨⟩
      exact hcommitted
    · rintro c' ⟨⟩
      exact hfulfils

/-! ## Provisionings -/

/-! ### Courses -/

/-- The course of a provisioning that found the user. -/
def Course.found : Course := ⟨.exists, [(.userFound, none)]⟩

/-- The course of a provisioning that rejected the request. -/
def Course.rejected : Course := ⟨.failed, [(.userMissing, none), (.reject, none)]⟩

/-- The course of a provisioning that is creating. -/
def Course.creating : Course := ⟨.creating, [(.userMissing, none), (.beginCreate, some true)]⟩

/-- The course of a provisioning that created. -/
def Course.created : Course :=
  ⟨.created, [(.userMissing, none), (.beginCreate, some true), (.commit, none)]⟩

/-- The course of a provisioning that failed to create. -/
def Course.aborted : Course :=
  ⟨.failed, [(.userMissing, none), (.beginCreate, some true), (.abort, none)]⟩

/-- A provisioning from the moment at which the request was found valid. -/
def attempt (n : NewOrganization) (email : String) : Script Report := do
  match ← (createWithOwner n).run with
  | .ok created => Course.creating.finish .commit (.ok created)
  | .error cause =>
    match ← Course.creating.advance .abort none with
    | .error failure => return ⟨.creating, .error failure⟩
    | .ok course => return ⟨course, ← (resolve cause email).run⟩

/-- An attempt creates, or else finds out what stood against it. -/
theorem run_attempt (n : NewOrganization) (email : String) (db : Database) :
    (attempt n email).run db =
      match (createWithOwner n).run db with
      | (.ok created, db₁) => (⟨.created, .ok created⟩, db₁)
      | (.error cause, db₁) =>
        (⟨.aborted, ((resolve cause email).run db₁).1⟩, ((resolve cause email).run db₁).2) := by
  unfold attempt
  rw [Script.run_bind]
  rcases (createWithOwner n).run db with ⟨cause | created, db₁⟩
  · exact Script.run_map (Report.mk .aborted) (resolve cause email).run db₁
  · rfl

/-- **A provisioning looks the email up, examines the request if there is no user, and then makes an
attempt.** The events that lead through it can always happen. -/
theorem run_provide (identity : Identity) (request : Request) (print : Printer) (db : Database) :
    (provide identity request print).run db =
      match (Directory.membership identity.email).run db with
      | (.error failure, db₁) => (⟨.start, .error failure⟩, db₁)
      | (.ok ⟨some user, some organization⟩, db₁) =>
        (⟨.found, .error (.alreadyExists user organization)⟩, db₁)
      | (.ok _, db₁) =>
        match request.validateFor print identity.email with
        | .error failure => (⟨.rejected, .error failure⟩, db₁)
        | .ok n => (attempt n identity.email).run db₁ := by
  unfold provide
  rw [Script.run_bind]
  rcases (Directory.membership identity.email).run db with ⟨failure | ⟨user, organization⟩, db₁⟩
  · rfl
  · rcases request.validateFor print identity.email with failure | n <;>
      rcases user with _ | user <;> rcases organization with _ | organization <;> rfl

/-- How faults are put in words matters to nothing but the words of a request that was found faulty. -/
theorem run_provide_print (identity : Identity) (request : Request) (print print' : Printer)
    (db : Database) :
    (provide identity request print').run db = (provide identity request print).run db ∨
      ∃ n db', (provide identity request print).run db =
          (⟨.rejected, .error (.validation ((Rejection.faulty n).message print))⟩, db') ∧
        (provide identity request print').run db =
          (⟨.rejected, .error (.validation ((Rejection.faulty n).message print'))⟩, db') := by
  rw [run_provide, run_provide]
  rcases (Directory.membership identity.email).run db with ⟨failure | m, db₁⟩
  · exact .inl rfl
  match m with
  | ⟨some user, some organization⟩ => exact .inl rfl
  | ⟨none, _⟩ | ⟨some _, none⟩ =>
    unfold Request.validateFor
    cases request.examine identity.email with
    | ok n => exact .inl rfl
    | error rejection =>
      cases rejection with
      | emailMismatch | incomplete => exact .inl rfl
      | faulty n => exact .inr ⟨n, db₁, rfl, rfl⟩

/-- Where a visitor is told that their email belongs, it belongs. -/
def TellsTruth {α : Type} (db : Database) (email : String) (r : Except Failure α) : Prop :=
  ∀ user organization, r = .error (.alreadyExists user organization) →
    ∃ u, db.store.userOf? email = some u ∧ u.id = user ∧ u.organization = organization

/-- A membership with both numbers is that of a user. -/
theorem tellsTruth_of_membership {α : Type} {email : String} {user organization : Int64}
    (h : Membership.of (db.store.userOf? email) = ⟨some user, some organization⟩) :
    TellsTruth db email (.error (.alreadyExists user organization) : Except Failure α) := by
  rintro user' organization' ⟨⟩
  rcases hu : db.store.userOf? email with _ | u
  · rw [hu] at h
    cases h
  · rw [hu] at h
    cases h
    exact ⟨u, rfl, rfl, rfl⟩

/-- A failure of storage does not tell where an email belongs. -/
theorem tellsTruth_of_storage {α : Type} {email : String} (cause : StorageFailure) :
    TellsTruth db email (.error (.ofStorage cause) : Except Failure α) := by
  intro user organization h
  cases cause <;> cases h

/-- The conflict of a creation is told, and nothing is committed meanwhile. -/
theorem resolve_spec {cause : StorageFailure} {email : String} {r : Except Failure Created}
    (hclosed : db.transaction = .closed) (hgenuine : db.Genuine)
    (h : (resolve cause email).run db = (r, db')) :
    ∃ k, db.Advances db' k ∧ committedIn k = [] ∧ db'.transaction = .closed ∧
      (∃ failure, r = .error failure) ∧ TellsTruth db' email r := by
  unfold resolve at h
  split at h
  · rw [Work.run_bind] at h
    rcases hmembership : (Directory.membership email).run db with ⟨failure | m, db₁⟩
    · obtain ⟨k, hk, -⟩ := Directory.membership_spec hclosed hgenuine hmembership
      obtain ⟨cause, rfl⟩ := Directory.database_of_membership hmembership
      rw [hmembership] at h
      cases h
      exact ⟨k, hk.toAdvances, hk.committedIn_eq_nil, hk.closed, ⟨_, rfl⟩, fun _ _ hr => by cases hr⟩
    · obtain ⟨k, hk, hm⟩ := Directory.membership_spec hclosed hgenuine hmembership
      rw [hmembership] at h
      have htruth := hm m rfl
      rcases m with ⟨_ | user, _ | organization⟩
      · cases h
        exact ⟨k, hk.toAdvances, hk.committedIn_eq_nil, hk.closed, ⟨_, rfl⟩, tellsTruth_of_storage _⟩
      · cases h
        exact ⟨k, hk.toAdvances, hk.committedIn_eq_nil, hk.closed, ⟨_, rfl⟩, tellsTruth_of_storage _⟩
      · cases h
        exact ⟨k, hk.toAdvances, hk.committedIn_eq_nil, hk.closed, ⟨_, rfl⟩, tellsTruth_of_storage _⟩
      · cases h
        exact ⟨k, hk.toAdvances, hk.committedIn_eq_nil, hk.closed, ⟨_, rfl⟩,
          tellsTruth_of_membership htruth.symm⟩
  · cases h
    exact ⟨[], Advances.refl db, rfl, hclosed, ⟨_, rfl⟩, tellsTruth_of_storage _⟩

/-! ### What is committed -/

/-- An attempt commits what it returns, or nothing unless the answer to its commit was lost. -/
theorem attempt_spec {n : NewOrganization} {email : String} {report : Report}
    (hclosed : db.transaction = .closed) (hgenuine : db.Genuine)
    (h : (attempt n email).run db = (report, db')) :
    ∃ k, db.Advances db' k ∧ db'.transaction = .closed ∧ Outcome db k report.outcome ∧
      (∀ c, report.outcome = .ok c → c.Fulfils n) ∧ TellsTruth db' email report.outcome := by
  rw [run_attempt] at h
  rcases hcreate : (createWithOwner n).run db with ⟨cause | created, db₁⟩
  · obtain ⟨k₁, hk₁, hclosed₁, houtcome, -⟩ := createWithOwner_spec hclosed hgenuine hcreate
    rw [hcreate] at h
    rcases hresolve : (resolve cause email).run db₁ with ⟨r, db₂⟩
    obtain ⟨k₂, hk₂, hnothing, hclosed₂, ⟨failure, rfl⟩, htruth⟩ :=
      resolve_spec hclosed₁ (hk₁.genuine hgenuine) hresolve
    simp only [hresolve] at h
    cases h
    exact ⟨_, hk₁.trans hk₂, hclosed₂, houtcome.before hnothing, (fun c hr => by cases hr), htruth⟩
  · obtain ⟨k, hk, hclosed', houtcome, hfulfils⟩ := createWithOwner_spec hclosed hgenuine hcreate
    rw [hcreate] at h
    cases h
    refine ⟨k, hk, hclosed', ⟨houtcome.founding, ?_, fun e hr => by cases hr⟩, ?_, ?_⟩
    · rintro c ⟨⟩
      exact houtcome.created created rfl
    · rintro c ⟨⟩
      exact hfulfils created rfl
    · intro user organization hr
      cases hr

/-- A provisioning succeeds only for an email that a column can hold. -/
theorem clean_of_provide {identity : Identity} {request : Request} {print : Printer} {report : Report}
    {c : Created} (hclosed : db.transaction = .closed)
    (h : (provide identity request print).run db = (report, db'))
    (hcreated : report.outcome = .ok c) : '\x00' ∉ identity.email.toList := by
  rw [run_provide] at h
  rcases hmembership : (Directory.membership identity.email).run db with ⟨failure | m, db₁⟩
  · rw [hmembership] at h
    cases h
    cases hcreated
  · exact Directory.clean_of_membership hclosed hmembership

/-- **A provisioning that succeeds commits what it returns, which is what the request asks for; one that
fails commits nothing**, unless the answer to its commit was lost. If it tells where the email belongs,
it tells the truth. -/
theorem provide_spec {identity : Identity} {request : Request} {print : Printer} {report : Report}
    (hclosed : db.transaction = .closed) (hgenuine : db.Genuine)
    (h : (provide identity request print).run db = (report, db')) :
    ∃ k, db.Advances db' k ∧ db'.transaction = .closed ∧ Outcome db k report.outcome ∧
      (∀ c, report.outcome = .ok c →
        ∃ n, request.validateFor print identity.email = .ok n ∧ c.Fulfils n) ∧
      TellsTruth db' identity.email report.outcome := by
  rw [run_provide] at h
  rcases hmembership : (Directory.membership identity.email).run db with ⟨failure | m, db₁⟩
  · obtain ⟨k, hk, -⟩ := Directory.membership_spec hclosed hgenuine hmembership
    obtain ⟨cause, rfl⟩ := Directory.database_of_membership hmembership
    rw [hmembership] at h
    cases h
    exact ⟨k, hk.toAdvances, hk.closed, .of_nothing hk.committedIn_eq_nil _,
      (fun c hr => by cases hr), fun _ _ hr => by cases hr⟩
  obtain ⟨k₁, hlooks₁, hm⟩ := Directory.membership_spec hclosed hgenuine hmembership
  have hk₁ := hlooks₁.toAdvances
  have hnothing₁ := hlooks₁.committedIn_eq_nil
  have hclosed₁ := hlooks₁.closed
  rw [hmembership] at h
  -- Unless the user is found, the request is rejected or an attempt is made.
  have hcases : (∃ course failure, report = ⟨course, .error failure⟩ ∧ db' = db₁ ∧
        TellsTruth db₁ identity.email (.error failure : Except Failure Created)) ∨
      ∃ n, request.validateFor print identity.email = .ok n ∧
        (attempt n identity.email).run db₁ = (report, db') := by
    have htruth := hm m rfl
    rcases hvalid : request.validateFor print identity.email with failure | n
    · obtain ⟨message, rfl⟩ := Request.validation_of_validateFor hvalid
      simp only [hvalid] at h
      rcases m with ⟨_ | user, _ | organization⟩
      all_goals cases h
      · exact .inl ⟨_, _, rfl, rfl, fun _ _ hr => by cases hr⟩
      · exact .inl ⟨_, _, rfl, rfl, fun _ _ hr => by cases hr⟩
      · exact .inl ⟨_, _, rfl, rfl, fun _ _ hr => by cases hr⟩
      · exact .inl ⟨_, _, rfl, rfl, tellsTruth_of_membership htruth.symm⟩
    · simp only [hvalid] at h
      rcases m with ⟨_ | user, _ | organization⟩
      · exact .inr ⟨n, rfl, h⟩
      · exact .inr ⟨n, rfl, h⟩
      · exact .inr ⟨n, rfl, h⟩
      · cases h
        exact .inl ⟨_, _, rfl, rfl, tellsTruth_of_membership htruth.symm⟩
  rcases hcases with ⟨course, failure, rfl, rfl, htruth⟩ | ⟨n, hvalid, hattempt⟩
  · exact ⟨k₁, hk₁, hclosed₁, .of_nothing hnothing₁ _, (fun c hr => by cases hr), htruth⟩
  · obtain ⟨k₂, hk₂, hclosed₂, houtcome, hfulfils, htruth⟩ :=
      attempt_spec hclosed₁ (hk₁.genuine hgenuine) hattempt
    exact ⟨_, hk₁.trans hk₂, hclosed₂, .after hk₁ hnothing₁ houtcome,
      fun c hr => ⟨n, hvalid, hfulfils c hr⟩, htruth⟩

end Provisioning

end TenantOnboarding
