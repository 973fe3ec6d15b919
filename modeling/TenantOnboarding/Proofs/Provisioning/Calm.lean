import TenantOnboarding.Proofs.Provisioning.Race

/-!
# Provisionings in a calm

Where nothing goes wrong and nobody else commits anything, what the service does with its database can be
told beforehand from the rows alone.

* `Database.Calm` is such a database, and `Database.Rests` one with given rows and a given transaction.
  `send_calm` says that a statement which is sent to it has its effect and nothing else happens.
* There is a lemma for each statement of a creation, and **`createWithOwner_calm`** puts them together:
  what is created, or why it is not, is `Provisioning.founding`, which depends on the numbers that are
  drawn.
* `Provisioning.foretell` is what comes of a provisioning, as a function of the rows, and
  **`provide_calm`** says that it is right.
-/

namespace TenantOnboarding

open Database

variable {db db' : Database} {store : Store} {transaction : Transaction}

/-! ## Calm databases -/

namespace Database

/-- Nothing is going to go wrong, and nobody else is going to commit anything. -/
structure Calm (db : Database) : Prop where
  quiet : ¬db.Disturbed
  alone : db.Alone

/-- What may happen was to be expected, so a calm lasts. -/
theorem Advances.calm {h : List Occurrence} (a : db.Advances db' h) (hcalm : db.Calm) : db'.Calm where
  quiet := a.undisturbed hcalm.quiet
  alone f hf := by
    obtain ⟨g, hg, -, hchanges, -⟩ := a.faults f hf
    rw [← hchanges]
    exact hcalm.alone g hg

/-- A calm database with these rows and numbers, at which the transaction stands so. -/
structure Rests (db : Database) (store : Store) (transaction : Transaction) : Prop
    extends db.Calm where
  store_eq : db.store = store
  transaction_eq : db.transaction = transaction

/-- What is done without a change of the faults does not end a calm. -/
theorem Calm.rests (h : db.Calm) (hfaults : db'.faults = db.faults)
    (hreachable : db'.reachable = db.reachable) : db'.Rests db'.store db'.transaction := by
  refine ⟨⟨?_, ?_⟩, rfl, rfl⟩
  · rw [Disturbed, hfaults, hreachable]
    exact h.quiet
  · rw [Alone, hfaults]
    exact h.alone

/-- That a transaction is abandoned does not end a calm. -/
theorem Rests.abandon (h : db.Rests store transaction) :
    Rests { db with transaction := .closed } store .closed :=
  ⟨⟨h.quiet, h.alone⟩, h.store_eq, rfl⟩

/-- While a calm database waits, nothing happens to the rows. -/
theorem Waits.rests {w : List Occurrence} (hw : db.Waits db' w) (h : db.Rests store transaction) :
    db'.Rests store transaction := by
  have hnothing : w = [] := by
    apply List.eq_nil_iff_forall_not_mem.mpr
    intro o ho
    obtain ⟨c, rfl⟩ := hw.foreign o ho
    exact hw.alone h.alone c _ ho
  refine ⟨hw.calm h.toCalm, ?_, hw.transaction.trans h.transaction_eq⟩
  rw [hw.store, hnothing, h.store_eq]
  rfl

/-- **In a calm a statement is carried out on the rows as they are.** -/
theorem send_calm (s : Statement) (h : db.Rests store transaction) (hlistens : db.Listens) :
    ∃ db₁ : Database, db₁.Rests store transaction ∧ (send s).run db = db₁.execute s := by
  obtain ⟨db₁, w, hw, hsend⟩ := send_undisturbed (s := s) hlistens h.quiet
  exact ⟨db₁, hw.rests h, hsend⟩

/-- A statement with a text that no column can hold is refused. -/
theorem execute_of_not_clean {s : Statement} (h : ¬s.IsClean) : db.execute s = db.refuse badText := by
  have htext : s.texts.any (·.toList.contains '\x00') = true := by
    simpa [Statement.IsClean] using h
  rw [execute, if_pos htext]

/-- Where there is no transaction, none is aborted. -/
theorem abort_of_closed (h : db.transaction = .closed) : db.abort = db := by
  simp only [abort, h]

/-- A transaction that goes on is aborted. -/
theorem abort_of_active {p : Pending} (h : db.transaction = .active p) :
    db.abort = { db with transaction := .aborted } := by
  simp only [abort, h]

end Database

instance (s : Statement) : Decidable s.IsClean :=
  inferInstanceAs (Decidable (∀ t ∈ s.texts, '\x00' ∉ t.toList))

/-! ## Lookups -/

namespace Directory

/-- What a visitor is told in a calm who asks, by a statement, for `a`. -/
def told {α : Type} (s : Statement) (a : α) : Except Failure α :=
  if s.IsClean then .ok a else .error (.database (refusal badText))

/-- In a calm a membership is told as it is, if a column can hold the email. -/
theorem membership_calm (email : String) (h : db.Rests store .closed) :
    ∃ db', db'.Rests store .closed ∧ (membership email).run db =
      (told (.findMembership email) (.of (store.userOf? email)), db') := by
  unfold told
  by_cases hclean : (Statement.findMembership email).IsClean
  · obtain ⟨db₁, w, hw, hrun⟩ := membership_undisturbed h.transaction_eq h.quiet
      (hclean email List.mem_cons_self)
    obtain ⟨hcalm, rfl, hclosed⟩ := hw.rests h
    rw [if_pos hclean, hrun]
    exact ⟨_, hclosed ▸ hcalm.rests (by rfl) (by rfl), rfl⟩
  · obtain ⟨db₁, hrests, hsend⟩ := send_calm (.findMembership email) h (.inl h.transaction_eq)
    rw [if_neg hclean, run_membership, hsend, execute_of_not_clean hclean, refuse,
      abort_of_closed hrests.transaction_eq]
    exact ⟨db₁, hrests, rfl⟩

/-- In a calm the user of an email is told, if a column can hold the email. -/
theorem user?_calm (email : String) (h : db.Rests store .closed) :
    ∃ db', db'.Rests store .closed ∧ (user? email).run db =
      (told (.findUser email) (store.userOf? email), db') := by
  unfold told
  by_cases hclean : (Statement.findUser email).IsClean
  · obtain ⟨db₁, w, hw, hrun⟩ := user?_undisturbed h.transaction_eq h.quiet
      (hclean email List.mem_cons_self)
    obtain ⟨hcalm, rfl, hclosed⟩ := hw.rests h
    rw [if_pos hclean, hrun]
    exact ⟨_, hclosed ▸ hcalm.rests (by rfl) (by rfl), rfl⟩
  · obtain ⟨db₁, hrests, hsend⟩ := send_calm (.findUser email) h (.inl h.transaction_eq)
    rw [if_neg hclean, run_user?, hsend, execute_of_not_clean hclean, refuse,
      abort_of_closed hrests.transaction_eq]
    exact ⟨db₁, hrests, rfl⟩

end Directory

/-! ## Transactions -/

namespace Tenancy

/-- In a calm a transaction begins. -/
theorem begin_calm (h : db.Rests store .closed) :
    ∃ db', db'.Rests store (.active ⟨[], [], []⟩) ∧ begin.run db = (.ok (), db') := by
  obtain ⟨db₁, ⟨hcalm, rfl, -⟩, hsend⟩ := send_calm .begin h (.inl h.transaction_eq)
  rw [run_begin, hsend, execute_of_clean fun t ht => absurd ht List.not_mem_nil]
  exact ⟨_, hcalm.rests (by rfl) (by rfl), rfl⟩

variable {p : Pending} (h : db.Rests store (.active p))
include h

/-- In a calm an organization that fits is written if it gets a number. -/
theorem insertOrganization_calm {name : String} {description : Option String} (hp : p = ⟨[], [], []⟩)
    (hclean : (Statement.insertOrganization name description).IsClean)
    (hfits : fits name description = true) :
    match numberFor store.nextOrganization (store.organizations.map (·.id)) with
    | .error cause => ∃ db', db'.Rests store.drawOrganization .aborted ∧
      (insertOrganization name description).run db = (.error (.ofDatabase cause), db')
    | .ok id => ∃ db', db'.Rests store.drawOrganization
        (.active ⟨[⟨id, name, description⟩], [], []⟩) ∧
      (insertOrganization name description).run db = (.ok ⟨id, name, description⟩, db') := by
  subst hp
  obtain ⟨db₁, ⟨hcalm, rfl, hactive⟩, hsend⟩ :=
    send_calm (.insertOrganization name description) h (.inr ⟨_, h.transaction_eq⟩)
  have hpending : (db₁.note (.ran (.insertOrganization name description))).pending = ⟨[], [], []⟩ :=
    pending_of_active hactive
  rw [run_insertOrganization, hsend, execute_of_clean hclean, perform_insertOrganization hfits,
    hpending]
  simp only [note, List.append_nil, List.nil_append]
  cases numberFor db₁.store.nextOrganization (db₁.store.organizations.map (·.id)) with
  | error cause =>
    simp only [abort, hactive]
    exact ⟨_, hcalm.rests (by rfl) (by rfl), rfl⟩
  | ok id =>
    simp only [required, Organization.ofRow?_toRow]
    exact ⟨_, hcalm.rests (by rfl) (by rfl), rfl⟩

/-- In a calm an organization whose name or description no column can hold is refused. -/
theorem insertOrganization_refused {name : String} {description : Option String}
    (hclean : ¬(Statement.insertOrganization name description).IsClean) :
    ∃ db', db'.Rests store .aborted ∧ (insertOrganization name description).run db =
      (.error (.connection (refusal badText)), db') := by
  obtain ⟨db₁, ⟨hcalm, rfl, hactive⟩, hsend⟩ :=
    send_calm (.insertOrganization name description) h (.inr ⟨p, h.transaction_eq⟩)
  rw [run_insertOrganization, hsend, execute_of_not_clean hclean, refuse, abort_of_active hactive]
  exact ⟨_, hcalm.rests (by rfl) (by rfl), rfl⟩

/-- In a calm the claims are set. -/
theorem setOrganization_calm (organization : Int64) :
    ∃ db', db'.Rests store (.active p) ∧ (setOrganization organization).run db = (.ok (), db') := by
  obtain ⟨db₁, ⟨hcalm, rfl, hactive⟩, hsend⟩ :=
    send_calm (.setConfig claimsSetting (claimsOf organization) true) h (.inr ⟨p, h.transaction_eq⟩)
  rw [run_setOrganization, hsend, execute_of_clean (isClean_claims organization)]
  exact ⟨_, hactive ▸ hcalm.rests (by rfl) (by rfl), rfl⟩

/-- In a calm the first user of the transaction's own organization, whose email is free, is written if they
get a number. -/
theorem insertUser_calm {email : String} {o : Organization} (role : Role) (hp : p = ⟨[o], [], []⟩)
    (hclean : '\x00' ∉ email.toList) (hfree : store.userOf? email = none) :
    match numberFor store.nextUser (store.users.map (·.id)) with
    | .error cause => ∃ db', db'.Rests store.drawUser .aborted ∧
      (insertUser email o.id role).run db = (.error (.ofDatabase cause), db')
    | .ok id => ∃ db', db'.Rests store.drawUser (.active ⟨[o], [⟨id, email, o.id, role⟩], []⟩) ∧
      (insertUser email o.id role).run db = (.ok ⟨id, email, o.id, role⟩, db') := by
  subst hp
  have hclean' : (Statement.insertUser email o.id role).IsClean := by
    simpa [Statement.IsClean, Statement.texts] using hclean
  obtain ⟨db₁, ⟨hcalm, rfl, hactive⟩, hsend⟩ :=
    send_calm (.insertUser email o.id role) h (.inr ⟨_, h.transaction_eq⟩)
  have hpending : (db₁.note (.ran (.insertUser email o.id role))).pending = ⟨[o], [], []⟩ :=
    pending_of_active hactive
  have hnobody : ∀ u ∈ db₁.store.users ++ [], u.email ≠ email := by
    rw [List.append_nil]
    exact Store.userOf?_eq_none_iff.mp hfree
  rw [run_insertUser, hsend, execute_of_clean hclean',
    perform_insertUser_free role _ (hpending ▸ hnobody)
      ⟨o, List.mem_append_right _ (hpending ▸ List.mem_cons_self), rfl⟩, hpending]
  simp only [note, List.append_nil, List.nil_append]
  cases numberFor db₁.store.nextUser (db₁.store.users.map (·.id)) with
  | error cause =>
    simp only [abort, hactive]
    exact ⟨_, hcalm.rests (by rfl) (by rfl), rfl⟩
  | ok id =>
    simp only [required, AppUser.ofRow?_toRow]
    exact ⟨_, hcalm.rests (by rfl) (by rfl), rfl⟩

end Tenancy

/-- In a calm a commit makes the rows of the transaction visible, if they can be added. -/
theorem Database.close_calm {p : Pending} (h : db.Rests store (.active p)) (hapart : store.Apart p) :
    ∃ db', db'.Rests (store.after (.committed p)) .closed ∧ close.run db = (.ok (), db') := by
  obtain ⟨db₁, ⟨hcalm, rfl, hactive⟩, hsend⟩ := send_calm .commit h (.inr ⟨p, h.transaction_eq⟩)
  rw [run_close, hsend, execute_of_clean fun t ht => absurd ht List.not_mem_nil,
    perform_commit (pending_of_active hactive), if_pos hapart]
  exact ⟨_, hcalm.rests (by rfl) (by rfl), rfl⟩

/-! ## Creations -/

/-- These are the next numbers of the tables, and no row has them. -/
structure Store.Draws (s : Store) (organization user : Int64) : Prop where
  nextOrganization : s.nextOrganization = some organization
  nextUser : s.nextUser = some user
  organizations : ∀ o ∈ s.organizations, o.id ≠ organization
  users : ∀ u ∈ s.users, u.id ≠ user

namespace Provisioning

/-- The organization and its owner that are wished for, with their numbers. -/
def NewOrganization.numbered (n : NewOrganization) (organization user : Int64) : Created where
  organization := ⟨organization, n.name, n.description⟩
  user := ⟨user, n.ownerEmail, organization, .owner⟩

/-- A store with an organization and its owner added, after their numbers were drawn. -/
def Created.addedTo (c : Created) (store : Store) : Store where
  organizations := store.organizations ++ [c.organization]
  users := store.users ++ [c.user]
  nextOrganization := store.nextOrganization.bind Store.following
  nextUser := store.nextUser.bind Store.following

/-- What is created for a wish in a calm, or why it is not, and the rows and numbers afterwards. A number
is used up even if it turns out to be that of another row. -/
def founding (store : Store) (n : NewOrganization) : Except DatabaseFailure Created × Store :=
  match numberFor store.nextOrganization (store.organizations.map (·.id)) with
  | .error cause => (.error cause, store.drawOrganization)
  | .ok organization =>
    match numberFor store.nextUser (store.users.map (·.id)) with
    | .error cause => (.error cause, store.drawOrganization.drawUser)
    | .ok user => (.ok (n.numbered organization user), (n.numbered organization user).addedTo store)

/-- A founding draws the next numbers if they are free. -/
theorem founding_of_draws {organization user : Int64} (h : store.Draws organization user)
    (n : NewOrganization) : founding store n =
      (.ok (n.numbered organization user), (n.numbered organization user).addedTo store) := by
  have horganization : numberFor store.nextOrganization (store.organizations.map (·.id)) =
      .ok organization := numberFor_map_eq_ok_iff.mpr ⟨h.nextOrganization, h.organizations⟩
  have huser : numberFor store.nextUser (store.users.map (·.id)) = .ok user :=
    numberFor_map_eq_ok_iff.mpr ⟨h.nextUser, h.users⟩
  simp only [founding, horganization, huser]

/-- Without free numbers a founding is refused and adds no rows. -/
theorem founding_of_not_draws (h : ∀ organization user, ¬store.Draws organization user)
    (n : NewOrganization) : ∃ code, (founding store n).1 = .error (refusal code) ∧
      (founding store n).2.organizations = store.organizations ∧
      (founding store n).2.users = store.users := by
  rcases horganization : numberFor store.nextOrganization (store.organizations.map (·.id)) with
    cause | organization
  · obtain ⟨code, rfl⟩ := refusal_of_numberFor horganization
    simp only [founding, horganization]
    exact ⟨code, rfl, rfl, rfl⟩
  rcases huser : numberFor store.nextUser (store.users.map (·.id)) with cause | user
  · obtain ⟨code, rfl⟩ := refusal_of_numberFor huser
    simp only [founding, horganization, huser]
    exact ⟨code, rfl, rfl, rfl⟩
  obtain ⟨hnextOrganization, hnoOrganization⟩ := numberFor_map_eq_ok_iff.mp horganization
  obtain ⟨hnextUser, hnoUser⟩ := numberFor_map_eq_ok_iff.mp huser
  exact absurd ⟨hnextOrganization, hnextUser, hnoOrganization, hnoUser⟩ (h organization user)

/-- A column can hold the name and the description that are wished for. -/
abbrev NewOrganization.Storable (n : NewOrganization) : Prop :=
  (Statement.insertOrganization n.name n.description).IsClean

variable {n : NewOrganization}

/-- **In a calm a creation comes to a founding** for a visitor whose email is free. -/
theorem createWithOwner_calm (h : db.Rests store .closed) (hstorable : n.Storable)
    (hvalid : n.faults = []) (hclean : '\x00' ∉ n.ownerEmail.toList)
    (hfree : store.userOf? n.ownerEmail = none) :
    ∃ db', db'.Rests (founding store n).2 .closed ∧ (createWithOwner n).run db =
      ((founding store n).1.mapError .ofDatabase, db') := by
  obtain ⟨db₁, hrests₁, hbegin⟩ := Tenancy.begin_calm h
  rw [createWithOwner_eq, Tenancy.run_inTransaction, hbegin]
  simp only
  unfold insertions
  rw [Work.run_bind]
  have horganization :=
    Tenancy.insertOrganization_calm hrests₁ rfl hstorable (NewOrganization.fits hvalid)
  rcases hnumber : numberFor store.nextOrganization (store.organizations.map (·.id)) with
    cause | organization
  · rw [hnumber] at horganization
    obtain ⟨db₂, hrests₂, hinsert⟩ := horganization
    have hfounding : founding store n = (.error cause, store.drawOrganization) := by
      simp only [founding, hnumber]
    rw [hinsert, hfounding]
    exact ⟨_, hrests₂.abandon, rfl⟩
  rw [hnumber] at horganization
  obtain ⟨db₂, hrests₂, hinsert⟩ := horganization
  obtain ⟨db₃, hrests₃, hset⟩ := Tenancy.setOrganization_calm hrests₂ organization
  rw [hinsert]
  simp only
  rw [Work.run_bind, hset]
  simp only
  rw [Work.run_bind]
  have howner := Tenancy.insertUser_calm hrests₃ .owner rfl hclean hfree
  rcases hnumber' : numberFor store.drawOrganization.nextUser
    (store.drawOrganization.users.map (·.id)) with cause | user
  · rw [hnumber'] at howner
    obtain ⟨db₄, hrests₄, hwrite⟩ := howner
    change numberFor store.nextUser (store.users.map (·.id)) = _ at hnumber'
    have hfounding : founding store n = (.error cause, store.drawOrganization.drawUser) := by
      simp only [founding, hnumber, hnumber']
    rw [hwrite, hfounding]
    exact ⟨_, hrests₄.abandon, rfl⟩
  rw [hnumber'] at howner
  obtain ⟨db₄, hrests₄, hwrite⟩ := howner
  obtain ⟨db₅, hrests₅, hclose⟩ := close_calm hrests₄
    (Store.apart_founding (numberFor_map_eq_ok_iff.mp hnumber).2
      (numberFor_map_eq_ok_iff.mp hnumber').2 (Store.userOf?_eq_none_iff.mp hfree))
  change numberFor store.nextUser (store.users.map (·.id)) = _ at hnumber'
  simp only [founding, hnumber, hnumber', hwrite, Work.run_pure, hclose]
  exact ⟨db₅, hrests₅, rfl⟩

/-- In a calm a creation fails and changes nothing if no column can hold what is wished for. -/
theorem createWithOwner_refused (h : db.Rests store .closed) (hstorable : ¬n.Storable) :
    ∃ db', db'.Rests store .closed ∧
      (createWithOwner n).run db = (.error (.connection (refusal badText)), db') := by
  obtain ⟨db₁, hrests₁, hbegin⟩ := Tenancy.begin_calm h
  obtain ⟨db₂, ⟨hcalm, rfl, -⟩, hinsert⟩ := Tenancy.insertOrganization_refused hrests₁ hstorable
  refine ⟨{ db₂ with transaction := .closed }, hcalm.rests (by rfl) (by rfl), ?_⟩
  rw [createWithOwner_eq, Tenancy.run_inTransaction, hbegin]
  simp only [insertions]
  rw [Work.run_bind, hinsert]

/-! ## Provisionings -/

/-- **What comes of a provisioning in a calm, by the rows alone**: what the visitor is told, and the
rows and numbers afterwards. -/
def foretell (print : Printer) (store : Store) (email : String) (wish : Request) :
    Except Failure Created × Store :=
  if '\x00' ∈ email.toList then (.error (.database (refusal badText)), store)
  else match store.userOf? email with
    | some u => (.error (.alreadyExists u.id u.organization), store)
    | none =>
      match wish.validateFor print email with
      | .error failure => (.error failure, store)
      | .ok n =>
        if n.Storable then
          ((founding store n).1.mapError fun cause => .ofStorage (.ofDatabase cause),
            (founding store n).2)
        else (.error (.database (refusal badText)), store)

/-- A founding does not give the email of its owner to anybody if it fails. -/
theorem userOf?_founding {cause : DatabaseFailure} {email : String}
    (hfailed : (founding store n).1 = .error cause) :
    (founding store n).2.userOf? email = store.userOf? email := by
  unfold founding at hfailed ⊢
  split at hfailed
  · rfl
  · split at hfailed
    · rfl
    · cases hfailed

/-- In a calm a conflict over an email that nobody has is not explained. -/
theorem resolve_calm (cause : StorageFailure) {email : String} (h : db.Rests store .closed)
    (hclean : '\x00' ∉ email.toList) (hfree : store.userOf? email = none) :
    ∃ db', db'.Rests store .closed ∧
      (resolve cause email).run db = (.error (.ofStorage cause), db') := by
  unfold resolve
  by_cases hcause : cause = .alreadyExists
  · obtain ⟨db₁, hrests₁, hmembership⟩ := Directory.membership_calm email h
    have hlegible : (Statement.findMembership email).IsClean := by
      simpa [Statement.IsClean, Statement.texts] using hclean
    rw [Directory.told, if_pos hlegible, hfree] at hmembership
    rw [if_pos hcause, Work.run_bind, hmembership]
    exact ⟨db₁, hrests₁, rfl⟩
  · rw [if_neg hcause]
    exact ⟨db, h, rfl⟩

/-- **In a calm a provisioning comes to what was foretold.** -/
theorem provide_calm (identity : Identity) (wish : Request) (print : Printer)
    (h : db.Rests store .closed) :
    ((provide identity wish print).run db).1.outcome =
        (foretell print store identity.email wish).1 ∧
      ((provide identity wish print).run db).2.Rests
        (foretell print store identity.email wish).2 .closed := by
  obtain ⟨db₁, hrests₁, hmembership⟩ := Directory.membership_calm identity.email h
  have hclean : (Statement.findMembership identity.email).IsClean ↔
      '\x00' ∉ identity.email.toList := by
    simp [Statement.IsClean, Statement.texts]
  rw [run_provide, hmembership, Directory.told, foretell]
  by_cases hemail : '\x00' ∈ identity.email.toList
  · rw [if_neg fun hc => hclean.mp hc hemail, if_pos hemail]
    exact ⟨rfl, hrests₁⟩
  rw [if_pos (hclean.mpr hemail), if_neg hemail]
  cases huser : store.userOf? identity.email with
  | some u => exact ⟨rfl, hrests₁⟩
  | none =>
    cases hvalid : wish.validateFor print identity.email with
    | error failure => exact ⟨rfl, hrests₁⟩
    | ok n =>
      obtain ⟨-, -, hverified, hfaults⟩ := Request.examine_ok (Request.validateFor_ok_iff.mp hvalid)
      simp only [Membership.of, Membership.nowhere]
      rw [run_attempt]
      by_cases hstorable : n.Storable
      · obtain ⟨db₂, hrests₂, hcreate⟩ := createWithOwner_calm hrests₁ hstorable hfaults
          (hverified ▸ hemail) (hverified ▸ huser)
        rw [hcreate, if_pos hstorable]
        rcases hfounding : (founding store n).1 with cause | c
        · obtain ⟨db₃, hrests₃, hresolve⟩ := resolve_calm (.ofDatabase cause) hrests₂ hemail
            ((userOf?_founding hfounding).trans huser)
          simp only [Except.mapError, hresolve, true_and]
          exact hrests₃
        · exact ⟨rfl, hrests₂⟩
      · obtain ⟨db₂, hrests₂, hcreate⟩ := createWithOwner_refused hrests₁ hstorable
        rw [hcreate, if_neg hstorable]
        exact ⟨rfl, hrests₂⟩

end Provisioning

end TenantOnboarding
