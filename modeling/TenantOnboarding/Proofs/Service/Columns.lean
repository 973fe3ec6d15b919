import TenantOnboarding.Proofs.Service.Isolation

/-!
# What the columns can hold

The examination of a request and the tables each say what an organization is. The two agree on lengths,
and they disagree on one character: the examination lets the null character through, which no column can
hold.

* `NewOrganization.FitsColumns` is what the tables say, and `fitsColumns_iff` what is left of it after the
  examination.
* `execute_insertOrganization` is the database's answer to an organization that keeps to the lengths,
  whatever it is called and whatever the rows are.
* `served_invalid` and `served_rejected`: a body that is no request and a request that is rejected are
  answered 400, and nothing is written.
* **`accepted_fits`** puts these together, and says what becomes of a request that is accepted. It is
  fulfilled if it fits the columns; if not, then the visitor is told that the service failed
  (`null_accepted`).
-/

namespace TenantOnboarding

open Database Http

namespace Provisioning

/-! ## What was accepted -/

/-- The columns can hold an organization and its owner's email: the lengths keep to the checks, and no
text has the null character. -/
structure NewOrganization.FitsColumns (n : NewOrganization) : Prop where
  name_length : 1 ≤ n.name.length ∧ n.name.length ≤ 255
  description_length : ∀ text, n.description = some text → text.length ≤ 2000
  legible : n.IsClean

/-- The null character stands in the name or in the description that a request asks for. -/
def Request.HoldsNull (r : Request) : Prop :=
  (∃ name, r.name? = some name ∧ '\x00' ∈ name.toList) ∨
    ∃ text, r.description? = some text ∧ '\x00' ∈ text.toList

variable {r : Request} {verified : String} {n : NewOrganization}

/-- The null character is not blank. -/
theorem isBlank_null : Text.isBlank '\x00' = false := by
  decide

/-- The columns can hold the name and the description that are kept of a request exactly if they could
hold those that were given: the null character is not trimmed. -/
theorem Request.Yields.storable_iff (h : r.Yields verified n) : n.Storable ↔ ¬r.HoldsNull := by
  have hname : (∃ name, r.name? = some name ∧ '\x00' ∈ name.toList) ↔ '\x00' ∈ n.name.toList := by
    rw [← h.name.mem_iff isBlank_null]
    simp
  unfold Request.HoldsNull
  rw [← h.description.mem_iff isBlank_null, hname, not_or, not_exists]
  simp only [not_and, NewOrganization.Storable, Statement.IsClean, Statement.texts,
    List.forall_mem_cons, Option.mem_toList]

/-- All three texts are clean if those of the organization are and the owner's email is. -/
theorem NewOrganization.isClean_iff : n.IsClean ↔ n.Storable ∧ '\x00' ∉ n.ownerEmail.toList := by
  simp only [Storable, Statement.IsClean, Statement.texts, List.forall_mem_cons, Option.mem_toList]
  constructor
  · rintro ⟨hname, hdescription, hemail⟩
    exact ⟨⟨hname, hdescription⟩, hemail⟩
  · rintro ⟨⟨hname, hdescription⟩, hemail⟩
    exact ⟨hname, hdescription, hemail⟩

/-- What is accepted keeps to the lengths, so it fits the columns if its texts are clean. -/
theorem Request.fitsColumns_iff {print : Printer} (h : r.validateFor print verified = .ok n) :
    n.FitsColumns ↔ ¬r.HoldsNull ∧ '\x00' ∉ verified.toList := by
  obtain ⟨-, -, hkeeps, hyields⟩ := examine_eq_ok_iff.mp (validateFor_ok_iff.mp h)
  obtain ⟨hname, hdescription, -⟩ :=
    NewOrganization.faults_eq_nil_iff.mp (hyields.faults_iff.mpr hkeeps)
  rw [← hyields.storable_iff, ← hyields.owner, ← NewOrganization.isClean_iff]
  exact ⟨NewOrganization.FitsColumns.legible, fun hclean => ⟨hname, hdescription, hclean⟩⟩

end Provisioning

/-! ## The database's answer -/

/-- **The answer to an organization that keeps to the lengths**: a text that no column can hold is refused,
and everything else becomes a row if there is a number for it. -/
theorem Database.execute_insertOrganization (db : Database) {name : String}
    {description : Option String} (hfits : fits name description = true) :
    (db.execute (.insertOrganization name description)).1 =
      if (Statement.insertOrganization name description).IsClean then
        (numberFor db.store.nextOrganization
          ((db.store.organizations ++ db.pending.organizations).map (·.id))).map
            fun id => [Organization.toRow ⟨id, name, description⟩]
      else .error (refusal badText) := by
  by_cases hclean : (Statement.insertOrganization name description).IsClean
  · have hpending : (db.note (.ran (.insertOrganization name description))).pending = db.pending := rfl
    rw [if_pos hclean, execute_of_clean hclean, perform_insertOrganization hfits, hpending]
    simp only [note]
    cases numberFor db.store.nextOrganization
      ((db.store.organizations ++ db.pending.organizations).map (·.id)) <;> rfl
  · rw [if_neg hclean, execute_of_not_clean hclean]
    rfl

namespace Service

/-! ## Answers -/

/-- A request for an organization of a recognised visitor, with a valid body. -/
structure Asks (s : Service) (routes : List Route) (r : Http.Request) (now : Instant)
    (identity : Identity) (wish : Provisioning.Request) : Prop where
  reached : Route.reached? routes r = some .createOrganization
  visitor : (s.identify r now).1 = .ok identity
  body : r.jsonBody? Provisioning.Request = some wish

variable {s : Service} {r : Http.Request} {now : Instant} {identity : Identity}
  {wish : Provisioning.Request}

/-- A recognised visitor whose body is no request is told so, and nothing is done. -/
theorem served_invalid (hvisitor : (s.identify r now).1 = .ok identity)
    (hbody : r.jsonBody? Provisioning.Request = none) :
    s.served .createOrganization r now = (.ofFailure invalidBody, s.database) := by
  rw [served_createOrganization, hvisitor, hbody]

/-- When it was found out where the visitor's email belongs, a request that is to be rejected is answered
400, and nothing else is done. -/
theorem served_rejected {failure : Failure} {membership : Membership} {db : Database}
    (hvisitor : (s.identify r now).1 = .ok identity)
    (hbody : r.jsonBody? Provisioning.Request = some wish)
    (hrejected : wish.validateFor s.print identity.email = .error failure)
    (hlookup : (Directory.membership identity.email).run s.database = (.ok membership, db)) :
    (s.served .createOrganization r now).1.status = 400 ∧
      (s.served .createOrganization r now).2 = db := by
  obtain ⟨message, rfl⟩ := Provisioning.Request.validation_of_validateFor hrejected
  rw [served_createOrganization, hvisitor, hbody]
  simp only [Provisioning.run_provide, hlookup, hrejected]
  obtain ⟨_ | user, _ | organization⟩ := membership <;> exact ⟨rfl, rfl⟩

/-- In a calm, a request that is accepted of a visitor whose email is free is fulfilled if it fits the
columns, and else the service fails and changes nothing. -/
theorem served_accepted {n : Provisioning.NewOrganization}
    (hvisitor : (s.identify r now).1 = .ok identity)
    (hbody : r.jsonBody? Provisioning.Request = some wish)
    (hvalid : wish.validateFor s.print identity.email = .ok n) (hcalm : s.database.Calm)
    (hclosed : s.database.transaction = .closed)
    (hfree : s.database.store.userOf? identity.email = none) :
    (n.FitsColumns → s.Founds n (s.served .createOrganization r now)) ∧
      (¬n.FitsColumns →
        (s.served .createOrganization r now).1 = .ofFailure (.database (refusal badText)) ∧
          (s.served .createOrganization r now).2.store = s.database.store) := by
  have hyields := (Provisioning.Request.examine_eq_ok_iff.mp
    (Provisioning.Request.validateFor_ok_iff.mp hvalid)).2.2.2
  have hbefore : s.database.Rests s.database.store .closed := ⟨hcalm, rfl, hclosed⟩
  obtain ⟨houtcome, hrests⟩ := Provisioning.provide_calm identity wish s.print hbefore
  rw [served_createOrganization, hvisitor, hbody, Provisioning.Request.fitsColumns_iff hvalid,
    ← hyields.storable_iff]
  simp only
  unfold Provisioning.foretell at houtcome hrests
  simp only [hfree, hvalid] at houtcome hrests
  by_cases hemail : '\x00' ∈ identity.email.toList
  · rw [if_pos hemail] at houtcome hrests
    rw [houtcome]
    exact ⟨fun h => absurd hemail h.2, fun _ => ⟨rfl, hrests.store_eq⟩⟩
  rw [if_neg hemail] at houtcome hrests
  by_cases hstorable : n.Storable
  · rw [if_pos hstorable] at houtcome hrests
    rw [houtcome]
    exact ⟨fun _ => founds_of_founding n hrests.store_eq, fun h => absurd ⟨hstorable, hemail⟩ h⟩
  · rw [if_neg hstorable] at houtcome hrests
    rw [houtcome]
    exact ⟨fun h => absurd h.1 hstorable, fun _ => ⟨rfl, hrests.store_eq⟩⟩

/-- **What is accepted fits the columns, but for null characters.** What an accepted request asks to be
stored keeps to the lengths of the columns. It fits them exactly if the null character stands neither in
the name and the description that were given nor in the email. Then every database writes the
organization if it has a number for it; else, if it is the name or the description, every database
refuses it.

Ill-formed input is answered 400 before anything is written: a body that is no request, and a request that
is rejected when it was found out where the email belongs. An accepted request of a visitor whose email is
free is fulfilled in a calm if it fits the columns and the numbers that are drawn are free; if it does not
fit them, the service fails with 500 where it should have rejected the request, and changes nothing. -/
theorem accepted_fits (policy : CorsPolicy) (routes : List Route) :
    (∀ (wish : Provisioning.Request) (print : Provisioning.Printer) (verified : String)
        (n : Provisioning.NewOrganization), wish.validateFor print verified = .ok n →
      (1 ≤ n.name.length ∧ n.name.length ≤ 255) ∧
      (∀ text, n.description = some text → text.length ≤ 2000) ∧
      (n.FitsColumns ↔ ¬wish.HoldsNull ∧ '\x00' ∉ verified.toList) ∧
      ∀ db : Database,
        (¬wish.HoldsNull → (db.execute (.insertOrganization n.name n.description)).1 =
          (numberFor db.store.nextOrganization
            ((db.store.organizations ++ db.pending.organizations).map (·.id))).map
              fun id => [Organization.toRow ⟨id, n.name, n.description⟩]) ∧
        (wish.HoldsNull → (db.execute (.insertOrganization n.name n.description)).1 =
          .error (refusal badText))) ∧
    (∀ (s : Service) (r : Http.Request) (now : Instant) (identity : Identity),
      Route.reached? routes r = some .createOrganization → (s.identify r now).1 = .ok identity →
      r.jsonBody? Provisioning.Request = none →
      (s.respondUnder policy routes r now).1.status = 400 ∧
        (s.respondUnder policy routes r now).2.database = s.database) ∧
    ∀ (s : Service) (r : Http.Request) (now : Instant) (identity : Identity)
      (wish : Provisioning.Request), s.Asks routes r now identity wish →
      (∀ failure membership db, wish.validateFor s.print identity.email = .error failure →
        (Directory.membership identity.email).run s.database = (.ok membership, db) →
        (s.respondUnder policy routes r now).1.status = 400 ∧
          (s.respondUnder policy routes r now).2.database = db) ∧
      ∀ n, wish.validateFor s.print identity.email = .ok n → s.database.Calm →
        s.database.transaction = .closed → s.database.store.userOf? identity.email = none →
        (n.FitsColumns → ∃ inner,
          (s.respondUnder policy routes r now).1 = policy.decorate r inner ∧
            s.Founds n (inner, (s.respondUnder policy routes r now).2.database)) ∧
        (¬n.FitsColumns →
          (s.respondUnder policy routes r now).1 =
              policy.decorate r (.ofFailure (.database (refusal badText))) ∧
            (s.respondUnder policy routes r now).1.status = 500 ∧
            (s.respondUnder policy routes r now).2.database.store = s.database.store) := by
  refine ⟨?_, ?_, ?_⟩
  · intro wish print verified n hvalid
    obtain ⟨-, -, hkeeps, hyields⟩ := Provisioning.Request.examine_eq_ok_iff.mp
      (Provisioning.Request.validateFor_ok_iff.mp hvalid)
    have hfaults := hyields.faults_iff.mpr hkeeps
    obtain ⟨hname, hdescription, -⟩ := Provisioning.NewOrganization.faults_eq_nil_iff.mp hfaults
    refine ⟨hname, hdescription, Provisioning.Request.fitsColumns_iff hvalid, fun db => ⟨?_, ?_⟩⟩
    · intro hlegible
      rw [execute_insertOrganization db (Provisioning.NewOrganization.fits hfaults),
        if_pos (hyields.storable_iff.mpr hlegible)]
    · intro hnull
      rw [execute_insertOrganization db (Provisioning.NewOrganization.fits hfaults),
        if_neg fun hstorable => hyields.storable_iff.mp hstorable hnull]
  · intro s r now identity hreached hvisitor hbody
    obtain ⟨hanswer, hleft⟩ := respondUnder_createOrganization policy hreached s now
    rw [hanswer, hleft, served_invalid hvisitor hbody]
    exact ⟨rfl, rfl⟩
  · intro s r now identity wish hasks
    obtain ⟨hanswer, hleft⟩ := respondUnder_createOrganization policy hasks.reached s now
    rw [hanswer, hleft]
    constructor
    · intro failure membership db hrejected hlookup
      exact served_rejected hasks.visitor hasks.body hrejected hlookup
    · intro n hvalid hcalm hclosed hfree
      obtain ⟨hfits, hfails⟩ :=
        served_accepted hasks.visitor hasks.body hvalid hcalm hclosed hfree
      constructor
      · exact fun h => ⟨_, rfl, hfits h⟩
      · intro h
        obtain ⟨hfailed, hstore⟩ := hfails h
        rw [hfailed]
        exact ⟨rfl, rfl, hstore⟩

/-- The visitor asks for an organization with the null character in its name. -/
def sampleNull : Http.Request :=
  { sampleWish with
    body := Text.Utf8.ofString
      "\x7b\"organization\":\x7b\"name\":\"A\\u0000B\"\x7d,\"appUser\":\x7b\"email\":\"ada@example.org\"\x7d\x7d" }

/-- What the body asks for. -/
def sampleNullRequest : Provisioning.Request :=
  ⟨some ⟨some "A\x00B", none⟩, some ⟨some "ada@example.org"⟩⟩

/-- What is accepted of it. -/
def sampleNullAccepted : Provisioning.NewOrganization := ⟨"A\x00B", none, "ada@example.org"⟩

/-- The request is accepted, no column can hold the name, and nothing was changed when it is answered. -/
theorem accepted_fits_sample :
    sampleNullRequest.validateFor .plain Provisioning.sampleVisitor.email = .ok sampleNullAccepted ∧
      (∀ db : Database, (db.execute (.insertOrganization "A\x00B" none)).1 =
        .error (refusal badText)) ∧
      (sample.respondUnder samplePolicy Route.all sampleNull sampleInstant).1.status = 500 ∧
      (sample.respondUnder samplePolicy Route.all sampleNull sampleInstant).2.database.store =
        .empty := by
  have hvalid : sampleNullRequest.validateFor .plain Provisioning.sampleVisitor.email =
      .ok sampleNullAccepted := by decide +kernel
  have hasks : sample.Asks Route.all sampleNull sampleInstant Provisioning.sampleVisitor
      sampleNullRequest := ⟨by decide +kernel, by decide +kernel, by decide +kernel⟩
  have hnull : sampleNullRequest.HoldsNull := .inl ⟨"A\x00B", rfl, by decide⟩
  obtain ⟨hcolumns, -, hanswers⟩ := accepted_fits samplePolicy Route.all
  obtain ⟨-, -, hfits, hwritten⟩ := hcolumns _ _ _ _ hvalid
  obtain ⟨-, hfails⟩ := (hanswers _ _ _ _ _ hasks).2 _ hvalid atRest_sample.calm rfl (by decide)
  obtain ⟨-, hstatus, hstore⟩ := hfails fun h => (hfits.mp h).1 hnull
  exact ⟨hvalid, fun db => (hwritten db).2 hnull, hstatus, hstore⟩

/-- A request is accepted although no column can hold what it asks for, and the visitor, whose email is
free, is told that the service failed. -/
theorem null_accepted :
    sampleNullRequest.validateFor .plain Provisioning.sampleVisitor.email = .ok sampleNullAccepted ∧
      ¬sampleNullAccepted.FitsColumns ∧
      sampleNull.jsonBody? Provisioning.Request = some sampleNullRequest ∧
      sample.database.store.userOf? Provisioning.sampleVisitor.email = none ∧
      sample.database.faults = [] ∧
      (sample.respondUnder samplePolicy Route.all sampleNull sampleInstant).1.status = 500 := by
  refine ⟨by decide +kernel, fun h => ?_, by decide +kernel, by decide, rfl, by decide +kernel⟩
  exact h.legible.name (by decide)

end Service

end TenantOnboarding
