import TenantOnboarding.Proofs.Provisioning.Rows
import TenantOnboarding.Proofs.Store.Likeness

/-!
# Where the failures of a creation come from

A creation fails because a statement of it fails, and the visitor is told of a conflict or of a failure of
the service. There is one exception: if the database says, of a statement that must return a row, that
there is none, the visitor is told that something was not found.

* `Heard` says where what is heard of a statement comes from, and `send_heard` that there is nothing else.
* `Work.Accounted` is work that fails only with failures of the database, and misses a row only if the
  database was going to say so. Each piece of a creation is (`createWithOwner_accounted`).
* **`provide_fails`**: the failures of a provisioning.
-/

namespace TenantOnboarding

open Database

variable {db db' : Database}

/-! ## What is heard of statements -/

namespace Database

/-- Whatever may still happen was to be expected before. -/
def Foresees (db db' : Database) : Prop :=
  ∀ f ∈ db'.faults, ∃ g ∈ db.faults, g.moment = f.moment ∧ g.ending = f.ending

namespace Foresees

variable {db₁ db₂ : Database}

/-- The same may happen. -/
theorem of_faults_eq (h : db'.faults = db.faults) : db.Foresees db' :=
  fun f hf => ⟨f, h ▸ hf, rfl, rfl⟩

/-- What was to be expected before was to be expected from the start. -/
theorem trans (h₁ : db.Foresees db₁) (h₂ : db₁.Foresees db₂) : db.Foresees db₂ := by
  intro f hf
  obtain ⟨g, hg, hmoment, hending⟩ := h₂ f hf
  obtain ⟨g', hg', hmoment', hending'⟩ := h₁ g hg
  exact ⟨g', hg', hmoment'.trans hmoment, hending'.trans hending⟩

end Foresees

/-- What was to happen at a moment happens, and the rest was to be expected. -/
theorem foresees_meet {moment : Moment} {e : Ending} (h : db.meet moment = (e, db')) :
    db.Foresees db' ∧ (e = .plain ∨ ∃ f ∈ db.faults, f.moment = moment ∧ f.ending = e) := by
  obtain ⟨⟨k, hk⟩, he⟩ := waits_meet h
  refine ⟨fun f hf => ?_, he⟩
  obtain ⟨g, hg, hmoment, -, hending⟩ := hk.faults f hf
  exact ⟨g, hg, hmoment, hending⟩

/-- The database refuses statements, it does not say of them what it says of missing rows. -/
theorem refusal_of_execute {s : Statement} {cause : DatabaseFailure}
    (h : (db.execute s).1 = .error cause) : ∃ code, cause = refusal code := by
  unfold execute at h
  by_cases htexts : s.texts.any (·.toList.contains '\x00') = true
  · rw [if_pos htexts] at h
    cases h
    exact ⟨badText, rfl⟩
  rw [if_neg htexts] at h
  cases s with
  | findMembership | findUser | begin | setConfig | migrate | recordMigration => cases h
  | insertOrganization name description =>
    simp only [perform, insertOrganization] at h
    split at h
    · cases h
      exact ⟨sequenceLimit, rfl⟩
    · split at h
      · split at h
        · cases h
          exact ⟨DatabaseFailure.uniqueViolation, rfl⟩
        · cases h
      · cases h
        exact ⟨checkViolation, rfl⟩
  | insertUser email organization role =>
    simp only [perform, insertUser] at h
    split at h
    · cases h
      exact ⟨sequenceLimit, rfl⟩
    · split at h
      · cases h
        exact ⟨DatabaseFailure.uniqueViolation, rfl⟩
      · split at h
        · cases h
        · cases h
          exact ⟨referenceViolation, rfl⟩
  | commit =>
    rw [perform_commit rfl] at h
    split at h
    · cases h
    · cases h
      exact ⟨DatabaseFailure.uniqueViolation, rfl⟩

/-- Where what is heard of a statement comes from: the connection broke, the statement was refused, it
was to fail, it was carried out, its rows were to be others, or it was a commit that rolled back. -/
inductive Heard (s : Statement) (db : Database) : Except DatabaseFailure (List Row) → Prop where
  | broken : Heard s db (.error broken)
  | refused (code : String) : Heard s db (.error (refusal code))
  | failed {f : Fault} {cause : DatabaseFailure} (fault : f ∈ db.faults)
    (moment : f.moment = .connect ∨ f.moment = s.moment) (ending : f.ending = .failed cause) :
    Heard s db (.error cause)
  | carriedOut {db₁ : Database} {rows : List Row} (effect : (db₁.execute s).1 = .ok rows) :
    Heard s db (.ok rows)
  | otherRows {f : Fault} {rows : List Row} (fault : f ∈ db.faults) (moment : f.moment = s.moment)
    (ending : f.ending = .rows rows) : Heard s db (.ok rows)
  | rolledBack (commit : s = .commit) : Heard s db (.ok [])

/-- What is heard later was to be expected before. -/
theorem Heard.of_foresees {s : Statement} {db₁ : Database} {r : Except DatabaseFailure (List Row)}
    (h : db.Foresees db₁) (hheard : Heard s db₁ r) : Heard s db r := by
  cases hheard with
  | broken => exact .broken
  | refused code => exact .refused code
  | failed hfault hmoment hending =>
    obtain ⟨g, hg, hgm, hge⟩ := h _ hfault
    exact .failed hg (hgm ▸ hmoment) (hge.trans hending)
  | carriedOut heffect => exact .carriedOut heffect
  | otherRows hfault hmoment hending =>
    obtain ⟨g, hg, hgm, hge⟩ := h _ hfault
    exact .otherRows hg (hgm.trans hmoment) (hge.trans hending)
  | rolledBack hcommit => exact .rolledBack hcommit

/-- A statement that is carried out is heard of. -/
theorem heard_execute (s : Statement) (db₀ : Database) : Heard s db₀ (db.execute s).1 := by
  cases hresult : (db.execute s).1 with
  | ok rows => exact .carriedOut hresult
  | error cause =>
    obtain ⟨code, rfl⟩ := refusal_of_execute hresult
    exact .refused code

/-- A statement that reached the database is heard of. -/
theorem heard_answer (s : Statement) (db : Database) :
    db.Foresees (db.answer s).2 ∧ Heard s db (db.answer s).1 := by
  unfold answer
  rcases hmeet : db.meet s.moment with ⟨e, db₁⟩
  obtain ⟨hforesees, he⟩ := foresees_meet hmeet
  have hexecuted : db.Foresees (db₁.execute s).2 :=
    hforesees.trans (.of_faults_eq (oblivious_execute s db₁ db₁.faults).2)
  cases e with
  | plain => exact ⟨hexecuted, heard_execute s db⟩
  | lost => exact ⟨hforesees.trans (.of_faults_eq rfl), .broken⟩
  | unanswered => exact ⟨hexecuted.trans (.of_faults_eq rfl), .broken⟩
  | failed cause =>
    obtain ⟨f, hf, hmoment, hending⟩ := he.resolve_left (by simp)
    exact ⟨hforesees.trans (.of_faults_eq (abort_faults db₁ db₁.faults).2),
      .failed hf (.inr hmoment) hending⟩
  | rows rs =>
    obtain ⟨f, hf, hmoment, hending⟩ := he.resolve_left (by simp)
    have hheard : Heard s db (db₁.execute s).1 := heard_execute s db
    rcases hexecute : db₁.execute s with ⟨cause | rows, db₂⟩
    · rw [hexecute] at hexecuted hheard
      simp only [hexecute]
      exact ⟨hexecuted, hheard⟩
    · rw [hexecute] at hexecuted
      simp only [hexecute]
      exact ⟨hexecuted, .otherRows hf hmoment hending⟩

/-- A connection is opened, breaks or was to fail. -/
theorem heard_connect (s : Statement) {r : Except DatabaseFailure Unit}
    (h : db.connect = (r, db')) :
    db.Foresees db' ∧ ∀ cause, r = .error cause → Heard s db (.error cause) := by
  rcases hmeet : db.meet .connect with ⟨e, db₁⟩
  obtain ⟨hforesees, he⟩ := foresees_meet hmeet
  rw [connect_of_meet hmeet] at h
  by_cases hconnected : db.connected = true
  · rw [if_pos hconnected] at h
    cases h
    exact ⟨.of_faults_eq rfl, fun cause hr => by cases hr⟩
  rw [if_neg hconnected] at h
  by_cases hreachable : (!db.reachable) = true
  · rw [if_pos hreachable] at h
    cases h
    refine ⟨.of_faults_eq rfl, ?_⟩
    rintro cause ⟨⟩
    exact .broken
  rw [if_neg hreachable] at h
  cases e with
  | plain | rows =>
    cases h
    exact ⟨hforesees.trans (.of_faults_eq rfl), fun cause hr => by cases hr⟩
  | lost | unanswered =>
    cases h
    refine ⟨hforesees, ?_⟩
    rintro cause ⟨⟩
    exact .broken
  | failed cause =>
    cases h
    obtain ⟨f, hf, hmoment, hending⟩ := he.resolve_left (by simp)
    refine ⟨hforesees, ?_⟩
    rintro cause ⟨⟩
    exact .failed hf (.inl hmoment) hending

/-- **All that can be heard of a statement that is sent**, at any database. -/
theorem send_heard (s : Statement) (db : Database) :
    db.Foresees ((send s).run db).2 ∧ Heard s db ((send s).run db).1 := by
  change db.Foresees (db.deliver s).2 ∧ Heard s db (db.deliver s).1
  by_cases hlistens : db.Listens
  · rw [send_of_listens hlistens]
    rcases hconnect : db.connect with ⟨cause | _, db₁⟩
    · obtain ⟨hforesees, herror⟩ := heard_connect s hconnect
      exact ⟨hforesees, herror cause rfl⟩
    · obtain ⟨hforesees, -⟩ := heard_connect s hconnect
      have hopened : db.Foresees { db₁ with log := s :: db₁.log } :=
        hforesees.trans (.of_faults_eq rfl)
      obtain ⟨hanswered, hheard⟩ := heard_answer s { db₁ with log := s :: db₁.log }
      exact ⟨hopened.trans hanswered, hheard.of_foresees hopened⟩
  · unfold deliver
    match htransaction : db.transaction with
    | .closed => exact absurd (.inl htransaction) hlistens
    | .active p => exact absurd (.inr ⟨p, htransaction⟩) hlistens
    | .lost => exact ⟨.of_faults_eq rfl, .broken⟩
    | .aborted =>
      by_cases hcommit : s = .commit
      · simp only [if_pos hcommit]
        exact ⟨.of_faults_eq rfl, .rolledBack hcommit⟩
      · simp only [if_neg hcommit]
        exact ⟨.of_faults_eq rfl, .refused inAborted⟩

/-- An insertion of an organization that is carried out returns a row. -/
theorem execute_insertOrganization_ne_nil (name : String) (description : Option String)
    (db : Database) : (db.execute (.insertOrganization name description)).1 ≠ .ok [] := by
  intro h
  rcases hexecute : db.execute (.insertOrganization name description) with ⟨r, db'⟩
  rw [hexecute] at h
  cases h
  rcases execute_cases hexecute with ⟨-, cause, hr⟩ | ⟨-, hperform⟩
  · cases hr
  · obtain ⟨o, -, -, hrows, -⟩ := perform_insertOrganization_ok hperform
    cases hrows

/-- An insertion of a user that is carried out returns a row. -/
theorem execute_insertUser_ne_nil (email : String) (organization : Int64) (role : Role)
    (db : Database) : (db.execute (.insertUser email organization role)).1 ≠ .ok [] := by
  intro h
  rcases hexecute : db.execute (.insertUser email organization role) with ⟨r, db'⟩
  rw [hexecute] at h
  cases h
  rcases execute_cases hexecute with ⟨-, cause, hr⟩ | ⟨-, hperform⟩
  · cases hr
  · obtain ⟨u, -, -, -, hrows, -⟩ := perform_insertUser_ok hperform
    cases hrows

/-! ## Missing rows -/

/-- The moments of a creation. -/
def creationMoments : List Moment :=
  [.connect, .begin, .insertOrganization, .setConfig, .insertUser, .commit]

/-- A statement of a creation is going to be answered as if there were no row. -/
def MayMissRow (db : Database) : Prop :=
  ∃ f ∈ db.faults, f.moment ∈ creationMoments ∧
    (f.ending = .failed .rowNotFound ∨ f.ending = .rows [])

/-- A row that may be missing later might have been missing before. -/
theorem Foresees.mayMissRow (h : db.Foresees db') (hmiss : db'.MayMissRow) : db.MayMissRow := by
  obtain ⟨f, hf, hmoment, hending⟩ := hmiss
  obtain ⟨g, hg, hgm, hge⟩ := h f hf
  exact ⟨g, hg, hgm ▸ hmoment, hge ▸ hending⟩

/-- A creation's statement fails as if there were no row only if it was to. -/
theorem Heard.mayMissRow {s : Statement} (hs : s.moment ∈ creationMoments)
    (h : Heard s db (.error .rowNotFound)) : db.MayMissRow := by
  cases h with
  | failed hfault hmoment hending =>
    refine ⟨_, hfault, ?_, .inl hending⟩
    rcases hmoment with hmoment | hmoment
    · rw [hmoment]
      decide
    · rw [hmoment]
      exact hs

end Database

/-! ## Work that accounts for its failures -/

/-- A failure of storage is one of the database, and that a row is missing was to be expected. -/
structure StorageFailure.Accounted (db : Database) (e : StorageFailure) : Prop where
  cause : ∃ cause, e = .ofDatabase cause
  missing : e = .notFound → db.MayMissRow

/-- Work that fails only with failures of the database, and misses a row only if the database was going
to say so. -/
def Work.Accounted {α : Type} (w : Work StorageFailure α) : Prop :=
  ∀ db : Database, db.Foresees (w.run db).2 ∧
    ∀ e, (w.run db).1 = .error e → e.Accounted db

/-- What the database says is a failure of the database, and it misses a row only if the database says
so. -/
theorem StorageFailure.Accounted.ofDatabase {cause : DatabaseFailure}
    (h : cause = .rowNotFound → db.MayMissRow) : (StorageFailure.ofDatabase cause).Accounted db := by
  refine ⟨⟨cause, rfl⟩, fun hmissing => h ?_⟩
  unfold StorageFailure.ofDatabase at hmissing
  by_contra hother
  rw [if_neg hother] at hmissing
  split at hmissing <;> cases hmissing

/-- What is heard of a creation's statement accounts for its failure. -/
theorem Database.Heard.accounted {s : Statement} {cause : DatabaseFailure}
    (hs : s.moment ∈ creationMoments) (h : Heard s db (.error cause)) :
    (StorageFailure.ofDatabase cause).Accounted db :=
  .ofDatabase fun hmissing => Heard.mayMissRow hs (hmissing ▸ h)

/-- What accounts for a failure later accounts for it from the start. -/
theorem StorageFailure.Accounted.of_foresees {e : StorageFailure} (h : db.Foresees db')
    (he : e.Accounted db') : e.Accounted db :=
  ⟨he.cause, fun hnot => h.mayMissRow (he.missing hnot)⟩

namespace Work.Accounted

variable {α β : Type}

/-- What does nothing accounts for its failures. -/
theorem pure (a : α) : (pure a : Work StorageFailure α).Accounted :=
  fun _ => ⟨.of_faults_eq rfl, fun _ he => by cases he⟩

/-- One piece of work after another. -/
theorem bind {w : Work StorageFailure α} {f : α → Work StorageFailure β} (hw : w.Accounted)
    (hf : ∀ a, (f a).Accounted) : (w >>= f).Accounted := by
  intro db
  obtain ⟨hforesees, herror⟩ := hw db
  rw [Work.run_bind]
  rcases hrun : w.run db with ⟨e | a, db₁⟩
  · rw [hrun] at hforesees herror
    refine ⟨hforesees, ?_⟩
    rintro e ⟨⟩
    exact herror e rfl
  · rw [hrun] at hforesees
    obtain ⟨hforesees', herror'⟩ := hf a db₁
    exact ⟨hforesees.trans hforesees', fun e he => (herror' e he).of_foresees hforesees⟩

end Work.Accounted

namespace Tenancy

/-- A statement of a creation accounts for its failures. -/
theorem tell_accounted {s : Statement} (hs : s.moment ∈ creationMoments) : (tell s).Accounted := by
  intro db
  obtain ⟨hforesees, hheard⟩ := send_heard s db
  unfold tell
  rw [Work.run_adapt]
  refine ⟨hforesees, fun e he => ?_⟩
  cases hresult : ((send s).run db).1 with
  | ok rows =>
    rw [hresult] at he
    cases he
  | error cause =>
    rw [hresult] at he hheard
    cases he
    exact hheard.accounted hs

/-- A statement whose row is needed accounts for its failures, if it returns a row when it is carried
out. -/
theorem required_accounted {α : Type} (ofRow? : Row → Option α) {s : Statement}
    (hs : s.moment ∈ creationMoments) (hcommit : s ≠ .commit)
    (hrows : ∀ db : Database, (db.execute s).1 ≠ .ok []) :
    Work.Accounted (tell s >>= fun rows => (liftM (required ofRow? rows) : Work StorageFailure α)) := by
  intro db
  obtain ⟨hforesees, herror⟩ := tell_accounted hs db
  rw [Work.run_bind]
  rcases hrun : (tell s).run db with ⟨e | rows, db₁⟩
  · rw [hrun] at hforesees herror
    refine ⟨hforesees, ?_⟩
    rintro e ⟨⟩
    exact herror e rfl
  rw [hrun] at hforesees
  have hheard : Heard s db (.ok rows) := by
    have hsent := (send_heard s db).2
    unfold tell at hrun
    rw [Work.run_adapt] at hrun
    cases hresult : ((send s).run db).1 with
    | ok rows' =>
      rw [hresult] at hrun hsent
      cases hrun
      exact hsent
    | error cause =>
      rw [hresult] at hrun
      cases hrun
  cases rows with
  | nil =>
    refine ⟨hforesees, ?_⟩
    rintro e ⟨⟩
    refine .ofDatabase fun _ => ?_
    cases hheard with
    | carriedOut heffect => exact absurd heffect (hrows _)
    | otherRows hfault hmoment hending => exact ⟨_, hfault, hmoment ▸ hs, .inr hending⟩
    | rolledBack hrolled => exact absurd hrolled hcommit
  | cons row rest =>
    simp only [required]
    cases ofRow? row with
    | some a => exact ⟨hforesees, fun e he => by cases he⟩
    | none =>
      refine ⟨hforesees, ?_⟩
      rintro e ⟨⟩
      exact .ofDatabase fun hmissing => by cases hmissing

/-- Beginning a transaction accounts for its failures. -/
theorem begin_accounted : begin.Accounted := by
  intro db
  obtain ⟨hforesees, hheard⟩ := send_heard .begin db
  rw [run_begin]
  rcases hsend : (send .begin).run db with ⟨cause | rows, db₁⟩
  · rw [hsend] at hforesees hheard
    refine ⟨hforesees.trans (.of_faults_eq rfl), ?_⟩
    rintro e ⟨⟩
    exact hheard.accounted (by decide)
  · rw [hsend] at hforesees
    exact ⟨hforesees, fun e he => by cases he⟩

/-- A transaction accounts for its failures if its body does. -/
theorem inTransaction_accounted {α : Type} {body : Work StorageFailure α} (hbody : body.Accounted) :
    (inTransaction body).Accounted := by
  intro db
  rw [run_inTransaction]
  obtain ⟨hforesees₁, herror₁⟩ := begin_accounted db
  rcases hbegin : begin.run db with ⟨e | _, db₁⟩
  · rw [hbegin] at hforesees₁ herror₁
    refine ⟨hforesees₁, ?_⟩
    rintro e ⟨⟩
    exact herror₁ e rfl
  rw [hbegin] at hforesees₁
  obtain ⟨hforesees₂, herror₂⟩ := hbody db₁
  simp only
  rcases hrun : body.run db₁ with ⟨e | a, db₂⟩
  · rw [hrun] at hforesees₂ herror₂
    refine ⟨(hforesees₁.trans hforesees₂).trans (.of_faults_eq rfl), ?_⟩
    rintro e ⟨⟩
    exact (herror₂ e rfl).of_foresees hforesees₁
  rw [hrun] at hforesees₂
  have hforesees := hforesees₁.trans hforesees₂
  obtain ⟨hforesees₃, hheard⟩ := send_heard .commit db₂
  simp only [run_close]
  rcases hsend : (send .commit).run db₂ with ⟨cause | rows, db₃⟩
  · rw [hsend] at hforesees₃ hheard
    refine ⟨(hforesees.trans hforesees₃).trans (.of_faults_eq rfl), ?_⟩
    rintro e ⟨⟩
    exact (hheard.accounted (by decide)).of_foresees hforesees
  · rw [hsend] at hforesees₃
    exact ⟨(hforesees.trans hforesees₃).trans (.of_faults_eq rfl), fun e he => by cases he⟩

end Tenancy

/-- A lookup brings nothing that was not to be expected. -/
theorem Directory.membership_foresees (email : String) (db : Database) :
    db.Foresees ((Directory.membership email).run db).2 := by
  obtain ⟨hforesees, -⟩ := send_heard (.findMembership email) db
  rw [Directory.run_membership]
  rcases hsend : (send (.findMembership email)).run db with ⟨cause | rows, db₁⟩
  · rw [hsend] at hforesees
    exact hforesees
  · rw [hsend] at hforesees
    exact hforesees

namespace Provisioning

/-- **A creation accounts for its failures.** -/
theorem createWithOwner_accounted (n : NewOrganization) : (createWithOwner n).Accounted := by
  rw [createWithOwner_eq]
  apply Tenancy.inTransaction_accounted
  unfold insertions
  refine .bind (Tenancy.required_accounted _ (by simp [Statement.moment, creationMoments]) (by simp)
    (execute_insertOrganization_ne_nil n.name n.description)) fun organization => ?_
  refine .bind (.bind (Tenancy.tell_accounted (by simp [Statement.moment, creationMoments]))
    fun _ => .pure _) fun _ => ?_
  exact .bind (Tenancy.required_accounted _ (by simp [Statement.moment, creationMoments]) (by simp)
    (execute_insertUser_ne_nil n.ownerEmail organization.id .owner)) fun user => .pure _

/-! ## Failures of provisionings -/

/-- What the failures of a provisioning are, unless the request is not valid. -/
inductive Fails (db : Database) : Failure → Prop where
  /-- The email belongs somewhere. -/
  | conflict (user organization : Int64) : Fails db (.alreadyExists user organization)
  /-- The database failed. -/
  | database (cause : DatabaseFailure) : Fails db (.database cause)
  /-- A number or the email was taken, and the email belongs nowhere. -/
  | unexplained : Fails db (.internal "Record already exists")
  /-- The database was going to say that a row is missing. -/
  | missing (may : db.MayMissRow) : Fails db (.notFound "Record not found")

/-- A failure of storage is told as a conflict or as what it is. -/
theorem resolve_fails {cause : StorageFailure} (h : cause.Accounted db) (email : String)
    (db₁ : Database) :
    ∃ told, ((resolve cause email).run db₁).1 = .error told ∧ Fails db told := by
  unfold resolve
  by_cases htaken : cause = .alreadyExists
  · rw [if_pos htaken, Work.run_bind, htaken]
    rcases hmembership : (Directory.membership email).run db₁ with ⟨failure | m, db₂⟩
    · obtain ⟨cause, rfl⟩ := Directory.database_of_membership hmembership
      exact ⟨_, rfl, .database cause⟩
    · match m with
      | ⟨some user, some organization⟩ => exact ⟨_, rfl, .conflict user organization⟩
      | ⟨none, _⟩ | ⟨some _, none⟩ => exact ⟨_, rfl, .unexplained⟩
  · rw [if_neg htaken]
    refine ⟨_, rfl, ?_⟩
    obtain ⟨⟨refusal, hrefusal⟩, hmissing⟩ := h
    cases cause with
    | notFound => exact .missing (hmissing rfl)
    | alreadyExists => exact absurd rfl htaken
    | connection cause => exact .database cause
    | invalidData message =>
      unfold StorageFailure.ofDatabase at hrefusal
      split at hrefusal
      · cases hrefusal
      · split at hrefusal <;> cases hrefusal

/-- **A provisioning fails because its request is not valid, with a conflict or with a failure of the
service**, or it misses a row because the database was going to say so. -/
theorem provide_fails {identity : Identity} {wish : Request} {print : Printer} {failure : Failure}
    (h : ((provide identity wish print).run db).1.outcome = .error failure) :
    wish.validateFor print identity.email = .error failure ∨ Fails db failure := by
  have hforesees := Directory.membership_foresees identity.email db
  have hproceeds := provide_proceeds identity wish print db
  rcases hmembership : (Directory.membership identity.email).run db with ⟨found, db₁⟩
  rw [hmembership] at hforesees hproceeds
  rcases hprovide : (provide identity wish print).run db with ⟨report, db'⟩
  rw [hprovide] at h hproceeds
  cases hproceeds with
  | unknown hlookup =>
    cases h
    subst hlookup
    obtain ⟨cause, rfl⟩ := Directory.database_of_membership hmembership
    exact .inr (.database cause)
  | taken =>
    cases h
    exact .inr (.conflict _ _)
  | rejected hinvalid =>
    cases h
    exact .inl hinvalid
  | @attempted n _ _ _ hattempt =>
    rw [run_attempt] at hattempt
    obtain ⟨-, herror⟩ := createWithOwner_accounted n db₁
    rcases hcreate : (createWithOwner n).run db₁ with ⟨cause | created, db₂⟩
    · rw [hcreate] at hattempt herror
      obtain ⟨told, htold, hfails⟩ :=
        resolve_fails ((herror cause rfl).of_foresees hforesees) identity.email db₂
      cases hattempt
      rw [htold] at h
      cases h
      exact .inr hfails
    · rw [hcreate] at hattempt
      cases hattempt
      cases h

end Provisioning

end TenantOnboarding
