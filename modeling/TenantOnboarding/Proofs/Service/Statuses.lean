import TenantOnboarding.Proofs.Provisioning.MissingRow
import TenantOnboarding.Proofs.Service.Answers
import TenantOnboarding.Proofs.Service.Requests

/-!
# How requests for organizations are answered

* `Service.Answered` lists the answers to a request for an organization whose visitor is recognised and
  whose body is valid, and `createOrganization_answered` says that there are no others.
* **`creation_answers`**: the statuses of all requests for organizations. The service means to tell no
  more of a failed creation than that it failed, or that the email belongs somewhere; but when the
  database says that a row is missing, it tells that something was not found.
-/

namespace TenantOnboarding

open Database Http

namespace Service

variable {s : Service} {r : Http.Request} {now : Instant}

/-- The answers to a request for an organization of a recognised visitor with a valid body. -/
inductive Answered (s : Service) (email : String) : Response × Database → Prop where
  /-- The organization and its owner were created. -/
  | created (c : Provisioning.Created) (db : Database) : Answered s email (.json 201 c.toValue, db)
  /-- The email belongs somewhere. It is the truth if the database's answers are genuine. -/
  | conflict (user organization : Int64) (db : Database)
    (truth : s.database.transaction = .closed → s.database.Genuine → ∃ u ∈ db.store.users,
      u.email = email ∧ u.id = user ∧ u.organization = organization) :
    Answered s email
      (.json 400 (.object
        [("error", .object
          [("code", .text "ALREADY_EXISTS"), ("message", .text "User already exists")]),
          ("appUserId", .int user.toInt), ("organizationId", .int organization.toInt)]), db)
  /-- The service failed. -/
  | failed (code : String) (db : Database) :
    Answered s email
      (.json 500 (.object
        [("error", .object
          [("code", .text code), ("message", .text "Internal server error")])]), db)
  /-- The database said that a row is missing. -/
  | missing (may : s.database.MayMissRow) (db : Database) :
    Answered s email
      (.json 404 (.object
        [("error", .object
          [("code", .text "NOT_FOUND"), ("message", .text "Record not found")])]), db)

/-- **A recognised visitor with a valid body gets one of these answers.** -/
theorem createOrganization_answered {identity : Identity} {wish : Provisioning.Request}
    {n : Provisioning.NewOrganization} (hvisitor : (s.identify r now).1 = .ok identity)
    (hbody : r.jsonBody? Provisioning.Request = some wish)
    (hvalid : wish.validateFor s.print identity.email = .ok n) :
    s.Answered identity.email (s.served .createOrganization r now) := by
  rw [served_createOrganization, hvisitor, hbody]
  rcases hprovide : (Provisioning.provide identity wish s.print).run s.database with
    ⟨⟨course, outcome⟩, db⟩
  simp only [hprovide]
  cases outcome with
  | ok c => exact .created c db
  | error failure =>
    obtain hinvalid | hfails := Provisioning.provide_fails (congrArg (·.1.outcome) hprovide)
    · rw [hvalid] at hinvalid
      cases hinvalid
    cases hfails with
    | database cause => exact .failed "DATABASE_ERROR" db
    | unexplained => exact .failed "INTERNAL_ERROR" db
    | missing hmay => exact .missing hmay db
    | conflict user organization =>
      refine .conflict user organization db fun hclosed hgenuine => ?_
      obtain ⟨-, -, -, -, -, htruth⟩ := Provisioning.provide_spec hclosed hgenuine hprovide
      obtain ⟨u, hu, hid, horganization⟩ := htruth user organization rfl
      obtain ⟨hmem, hemail⟩ := Store.mem_of_userOf? hu
      exact ⟨u, hmem, hemail, hid, horganization⟩

/-- Whoever is turned away is turned away with one of these statuses. -/
theorem ofRefusal_status (refusal : Refusal) :
    (Response.ofRefusal refusal).status ∈ [201, 400, 401, 500] := by
  cases refusal <;> decide

/-- The statuses of all requests for organizations. -/
theorem createOrganization_status (s : Service) (r : Http.Request) (now : Instant) :
    (s.served .createOrganization r now).1.status ∈ [201, 400, 401, 500] ∨
      (s.served .createOrganization r now).1.status = 404 ∧ s.database.MayMissRow := by
  rw [served_createOrganization]
  cases (s.identify r now).1 with
  | error refusal => exact .inl (ofRefusal_status refusal)
  | ok identity =>
    cases r.jsonBody? Provisioning.Request with
    | none =>
      left
      simp [Response.ofFailure, Response.json, invalidBody, Failure.status]
    | some wish =>
      simp only
      cases houtcome : ((Provisioning.provide identity wish s.print).run s.database).1.outcome with
      | ok c =>
        left
        simp [Response.json]
      | error failure =>
        obtain hinvalid | hfails := Provisioning.provide_fails houtcome
        · obtain ⟨message, rfl⟩ := Provisioning.Request.validation_of_validateFor hinvalid
          left
          simp [Response.ofFailure, Response.json, Failure.status]
        · cases hfails with
          | conflict | database | unexplained =>
            left
            simp [Response.ofFailure, Response.json, Failure.status]
          | missing hmay => exact .inr ⟨rfl, hmay⟩

/-- **How requests for organizations are answered**, whatever goes wrong. The status is 201, 400, 401 or
500, unless the database says of a statement of the creation that a row is missing: then it may be 404. A
recognised visitor with a valid body is told what was created, of a user who has their email, or that the
service failed; or, if the database says so, that a row is missing. -/
theorem creation_answers (policy : CorsPolicy) {routes : List Route} {s : Service} {r : Http.Request}
    {now : Instant} (hpost : r.method = "POST")
    (hroute : Route.find? routes r.target = some .createOrganization) :
    ((s.respondUnder policy routes r now).1.status ∈ [201, 400, 401, 500] ∨
        (s.respondUnder policy routes r now).1.status = 404 ∧ s.database.MayMissRow) ∧
      ∀ identity wish n, (s.identify r now).1 = .ok identity →
        r.jsonBody? Provisioning.Request = some wish → wish.validateFor s.print identity.email = .ok n →
        ∃ inner, (s.respondUnder policy routes r now).1 = policy.decorate r inner ∧
          s.Answered identity.email (inner, (s.respondUnder policy routes r now).2.database) := by
  have hreached : Route.reached? routes r = some .createOrganization :=
    Route.reached?_eq_some_iff.mpr ⟨hroute, Route.takes_createOrganization.mpr hpost⟩
  obtain ⟨hanswer, hleft⟩ := respondUnder_createOrganization policy hreached s now
  rw [hanswer, hleft]
  refine ⟨createOrganization_status s r now, fun identity wish n hvisitor hbody hvalid => ?_⟩
  exact ⟨_, rfl, createOrganization_answered hvisitor hbody hvalid⟩

/-- The sample when the database is going to say of the organization that it has no row. -/
def sampleMissing : Service :=
  { sample with database.faults := [⟨.insertOrganization, 0, [], .failed .rowNotFound⟩] }

/-- The sample's visitor is answered in one of these ways when the database says that a row is missing,
and in another way than with status 404 if the database says no such thing. -/
theorem creation_answers_sample :
    (∃ inner, (sampleMissing.respondUnder samplePolicy Route.all sampleWish sampleInstant).1 =
        samplePolicy.decorate sampleWish inner ∧
      sampleMissing.Answered "ada@example.org" (inner,
        (sampleMissing.respondUnder samplePolicy Route.all sampleWish sampleInstant).2.database)) ∧
      (sample.respondUnder samplePolicy Route.all sampleWish sampleInstant).1.status ∈
        [201, 400, 401, 500] := by
  have hroute : Route.find? Route.all sampleWish.target = some .createOrganization := by
    decide +kernel
  constructor
  · have hvisitor : (sampleMissing.identify sampleWish sampleInstant).1 =
        .ok Provisioning.sampleVisitor := by decide +kernel
    have hbody : sampleWish.jsonBody? Provisioning.Request = some Provisioning.sampleRequest := by
      decide +kernel
    have hvalid : Provisioning.sampleRequest.validateFor .plain Provisioning.sampleVisitor.email =
        .ok ⟨"Acme", none, "ada@example.org"⟩ := by decide +kernel
    exact (creation_answers samplePolicy rfl hroute).2 _ _ _ hvisitor hbody hvalid
  · have hanswer : (sample.respondUnder samplePolicy Route.all sampleWish sampleInstant).1.status ∈
          [201, 400, 401, 500] ∨
        (sample.respondUnder samplePolicy Route.all sampleWish sampleInstant).1.status = 404 ∧
          sample.database.MayMissRow := (creation_answers samplePolicy rfl hroute).1
    obtain hstatus | ⟨-, f, hf, -⟩ := hanswer
    · exact hstatus
    · exact absurd hf List.not_mem_nil

/-- A recognised visitor with a valid body and no organization is told that a record was not found. -/
theorem record_not_found :
    (sampleMissing.identify sampleWish sampleInstant).1 = .ok Provisioning.sampleVisitor ∧
      sampleWish.jsonBody? Provisioning.Request = some Provisioning.sampleRequest ∧
      Provisioning.sampleRequest.validateFor .plain Provisioning.sampleVisitor.email =
        .ok ⟨"Acme", none, "ada@example.org"⟩ ∧
      sampleMissing.database.store.userOf? Provisioning.sampleVisitor.email = none ∧
      (sampleMissing.respondUnder samplePolicy Route.all sampleWish sampleInstant).1.status =
        404 := by
  decide +kernel

end Service

end TenantOnboarding
