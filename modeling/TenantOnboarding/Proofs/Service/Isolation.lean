import TenantOnboarding.Proofs.Provisioning.Calm
import TenantOnboarding.Proofs.Provisioning.Rows
import TenantOnboarding.Proofs.Service.Answers
import TenantOnboarding.Proofs.Service.Requests

/-!
# Tenants are isolated

A visitor sees the row of their own email and no other.

* `Store.userOf?_congr`: the row of an email does not depend on the rows of other emails, and
  `foretell_congr`: neither does what comes of a provisioning, but for the words of its faults and for the
  numbers that are drawn.
* `Service.Resembles` relates two services at rest that hold the same row for an email, and
  `served_isolated` says that whoever has this email is served alike by both, or that the services
  differ in words or numbers (`Service.Differ`).
* `served_commits`: whatever goes wrong, a visitor's request commits nothing for another email.
* **`tenants_isolated`** says both of requests.
* `tenants_told_apart` shows that the two differences are there: faults are put in other words, and where
  the next number of a table is taken, nothing can be created.
-/

namespace TenantOnboarding

open Database Http

/-! ## One row among others -/

/-- The user of an email does not depend on the rows of other emails. -/
theorem Store.userOf?_congr {s t : Store} (ht : t.Consistent) {email : String}
    (hsame : ∀ u : AppUser, u.email = email → (u ∈ s.users ↔ u ∈ t.users)) :
    s.userOf? email = t.userOf? email := by
  cases hu : s.userOf? email with
  | some u =>
    obtain ⟨hmem, hemail⟩ := Store.mem_of_userOf? hu
    rw [← hemail, ht.userOf?_of_mem ((hsame u hemail).mp hmem)]
  | none =>
    symm
    rw [Store.userOf?_eq_none_iff] at hu ⊢
    intro v hv hemail
    exact hu v ((hsame v hemail).mpr hv) hemail

/-- With the same user for an email, a provisioning comes to the same failure and changes nothing, or it is
rejected for the same faults, or the same is to be founded. -/
theorem Provisioning.foretell_congr {s t : Store} {email : String}
    (h : s.userOf? email = t.userOf? email) (print print' : Printer) (wish : Request) :
    (∃ failure, foretell print s email wish = (.error failure, s) ∧
        foretell print' t email wish = (.error failure, t)) ∨
      (∃ n, foretell print s email wish =
          (.error (.validation ((Rejection.faulty n).message print)), s) ∧
        foretell print' t email wish =
          (.error (.validation ((Rejection.faulty n).message print')), t)) ∨
      ∃ n, n.ownerEmail = email ∧
        foretell print s email wish =
          ((founding s n).1.mapError fun cause => .ofStorage (.ofDatabase cause), (founding s n).2) ∧
        foretell print' t email wish =
          ((founding t n).1.mapError fun cause => .ofStorage (.ofDatabase cause), (founding t n).2) := by
  unfold foretell
  rw [h]
  by_cases hemail : '\x00' ∈ email.toList
  · rw [if_pos hemail, if_pos hemail]
    exact .inl ⟨_, rfl, rfl⟩
  rw [if_neg hemail, if_neg hemail]
  cases t.userOf? email with
  | some u => exact .inl ⟨_, rfl, rfl⟩
  | none =>
    unfold Request.validateFor
    cases hexamine : wish.examine email with
    | error rejection =>
      cases rejection with
      | emailMismatch | incomplete => exact .inl ⟨_, rfl, rfl⟩
      | faulty n => exact .inr (.inl ⟨n, rfl, rfl⟩)
    | ok n =>
      obtain ⟨-, -, hverified, -⟩ := Request.examine_ok hexamine
      by_cases hstorable : n.Storable
      · simp only [if_pos hstorable]
        exact .inr (.inr ⟨n, hverified, rfl, rfl⟩)
      · simp only [if_neg hstorable]
        exact .inl ⟨_, rfl, rfl⟩

namespace Service

/-! ## Services that resemble each other -/

/-- Nothing goes on at a service: there is no transaction, nothing is going to go wrong, nobody else is
going to commit anything, and the rows keep the constraints. -/
structure AtRest (s : Service) : Prop where
  closed : s.database.transaction = .closed
  calm : s.database.Calm
  consistent : s.database.store.Consistent

/-- The database of a service at rest. -/
theorem AtRest.rests {s : Service} (h : s.AtRest) : s.database.Rests s.database.store .closed :=
  ⟨h.calm, rfl, h.closed⟩

/-- Two services at rest that recognise the same visitors, issue the same sessions and have the same user
for an email. -/
structure Resembles (email : String) (s₁ s₂ : Service) : Prop where
  verifier_eq : s₁.verifier = s₂.verifier
  sessions_eq : s₁.sessions = s₂.sessions
  first : s₁.AtRest
  second : s₂.AtRest
  user_eq : s₁.database.store.userOf? email = s₂.database.store.userOf? email

/-- What comes of a request that can be fulfilled. The organization and its owner are created, with the
next numbers, and nothing else is added; but if a next number is taken, or there is none, the service
fails and adds nothing. -/
structure Founds (s : Service) (n : Provisioning.NewOrganization) (answer : Response × Database) :
    Prop where
  created : ∀ organization user, s.database.store.Draws organization user →
    answer.1 = .json 201 (n.numbered organization user).toValue ∧
      answer.2.store = (n.numbered organization user).addedTo s.database.store
  refused : (∀ organization user, ¬s.database.store.Draws organization user) →
    answer.1.status = 500 ∧
      answer.2.store.organizations = s.database.store.organizations ∧
      answer.2.store.users = s.database.store.users

/-- How two services may answer a request of an email for an organization differently, and which databases
they leave. -/
inductive Differ (s₁ s₂ : Service) (email : String) : Response × Database → Response × Database → Prop
  /-- The request is found faulty, and each service puts the faults in its own words. -/
  | inWords (n : Provisioning.NewOrganization) {db₁ db₂ : Database}
    (kept₁ : db₁.store = s₁.database.store) (kept₂ : db₂.store = s₂.database.store) :
    Differ s₁ s₂ email (ofFaulty s₁.print n, db₁) (ofFaulty s₂.print n, db₂)
  /-- The request can be fulfilled, and each service draws its own numbers. -/
  | inNumbers {n : Provisioning.NewOrganization} {a₁ a₂ : Response × Database}
    (own : n.ownerEmail = email) (first : s₁.Founds n a₁) (second : s₂.Founds n a₂) :
    Differ s₁ s₂ email a₁ a₂

/-- What comes of a founding is answered so. -/
theorem founds_of_founding {s : Service} (n : Provisioning.NewOrganization) {db : Database}
    (hstore : db.store = (Provisioning.founding s.database.store n).2) :
    s.Founds n
      (match (Provisioning.founding s.database.store n).1.mapError
          fun cause => Failure.ofStorage (.ofDatabase cause) with
        | .error failure => .ofFailure failure
        | .ok created => .json 201 created.toValue, db) where
  created organization user hdraws := by
    rw [Provisioning.founding_of_draws hdraws] at hstore ⊢
    exact ⟨rfl, hstore⟩
  refused hno := by
    obtain ⟨code, hfailed, horganizations, husers⟩ := Provisioning.founding_of_not_draws hno n
    rw [hfailed]
    refine ⟨?_, hstore ▸ horganizations, hstore ▸ husers⟩
    -- A refusal is told as a conflict that nobody can explain, or as a failure of the database.
    simp only [Except.mapError, StorageFailure.ofDatabase]
    split
    · rename_i hmissing
      cases hmissing
    · split <;> rfl

variable {s₁ s₂ : Service} {r : Http.Request} {now₁ now₂ : Instant} {identity : Identity}

/-- What a recognised visitor exchanges is the token that they are recognised by. -/
theorem exists_token_of_identify {s : Service} {now : Instant}
    (h : (s.identify r now).1 = .ok identity) :
    ∃ token, exchangedToken (r.header? "authorization") = .ok token ∧
      (s.verifier.verify token now.seconds).1 = .ok identity := by
  unfold identify Verifier.authenticate at h
  unfold exchangedToken
  cases hheader : r.header? "authorization" with
  | none =>
    rw [hheader] at h
    cases h
  | some value =>
    rw [hheader] at h
    simp only at h ⊢
    cases htoken : Bearer.token value with
    | error refusal =>
      rw [htoken] at h
      cases h
    | ok token =>
      rw [htoken] at h
      exact ⟨token, rfl, h⟩

section isolated

variable (h : s₁.Resembles identity.email s₂) (hseconds : now₁.seconds = now₂.seconds)
include h hseconds

/-- Services that resemble each other recognise a visitor alike. -/
theorem Resembles.identify_eq : (s₁.identify r now₁).1 = (s₂.identify r now₂).1 := by
  unfold identify
  rw [h.verifier_eq, hseconds]

variable (hvisitor : (s₁.identify r now₁).1 = .ok identity)
include hvisitor

/-- Where their email belongs, a visitor is told alike. -/
theorem checkMembership_isolated :
    (s₁.served .checkMembership r now₁).1 = (s₂.served .checkMembership r now₂).1 ∧
      (s₁.served .checkMembership r now₁).2.store = s₁.database.store ∧
      (s₂.served .checkMembership r now₂).2.store = s₂.database.store := by
  obtain ⟨db₁, hrests₁, hrun₁⟩ := Directory.membership_calm identity.email h.first.rests
  obtain ⟨db₂, hrests₂, hrun₂⟩ := Directory.membership_calm identity.email h.second.rests
  rw [served_checkMembership, served_checkMembership, ← h.identify_eq hseconds, hvisitor]
  simp only [hrun₁, hrun₂, h.user_eq]
  cases Directory.told (.findMembership identity.email)
    (Membership.of (s₂.database.store.userOf? identity.email)) with
  | error failure => exact ⟨rfl, hrests₁.store_eq, hrests₂.store_eq⟩
  | ok membership => exact ⟨rfl, hrests₁.store_eq, hrests₂.store_eq⟩

/-- A visitor gets the same session token. -/
theorem exchangeToken_isolated :
    (s₁.served .exchangeToken r now₁).1 = (s₂.served .exchangeToken r now₂).1 ∧
      (s₁.served .exchangeToken r now₁).2.store = s₁.database.store ∧
      (s₂.served .exchangeToken r now₂).2.store = s₂.database.store := by
  obtain ⟨db₁, hrests₁, hrun₁⟩ := Directory.user?_calm identity.email h.first.rests
  obtain ⟨db₂, hrests₂, hrun₂⟩ := Directory.user?_calm identity.email h.second.rests
  obtain ⟨token, htoken, hverify⟩ := exists_token_of_identify hvisitor
  have hverify₂ := hverify
  rw [h.verifier_eq, hseconds] at hverify₂
  rw [served_exchangeToken, served_exchangeToken, htoken]
  simp only [hverify, hverify₂, hrun₁, hrun₂, h.user_eq]
  cases Directory.told (.findUser identity.email)
    (s₂.database.store.userOf? identity.email) with
  | error failure => exact ⟨rfl, hrests₁.store_eq, hrests₂.store_eq⟩
  | ok user =>
    cases user with
    | none => exact ⟨rfl, hrests₁.store_eq, hrests₂.store_eq⟩
    | some user =>
      refine ⟨?_, hrests₁.store_eq, hrests₂.store_eq⟩
      have hclaims : Session.Issuer.claimsAt user.id user.email identity.subject identity.name now₁ =
          Session.Issuer.claimsAt user.id user.email identity.subject identity.name now₂ := by
        simp only [Session.Issuer.claimsAt, hseconds]
      simp only [Session.Issuer.issueAt, h.sessions_eq, hclaims]

/-- A visitor is provided alike, but for words and numbers. -/
theorem createOrganization_isolated :
    ((s₁.served .createOrganization r now₁).1 = (s₂.served .createOrganization r now₂).1 ∧
        (s₁.served .createOrganization r now₁).2.store = s₁.database.store ∧
        (s₂.served .createOrganization r now₂).2.store = s₂.database.store) ∨
      s₁.Differ s₂ identity.email (s₁.served .createOrganization r now₁)
        (s₂.served .createOrganization r now₂) := by
  rw [served_createOrganization, served_createOrganization, ← h.identify_eq hseconds, hvisitor]
  simp only
  cases r.jsonBody? Provisioning.Request with
  | none => exact .inl ⟨rfl, rfl, rfl⟩
  | some wish =>
    obtain ⟨houtcome₁, hrests₁⟩ := Provisioning.provide_calm identity wish s₁.print h.first.rests
    obtain ⟨houtcome₂, hrests₂⟩ := Provisioning.provide_calm identity wish s₂.print h.second.rests
    obtain ⟨failure, hforetold₁, hforetold₂⟩ | ⟨n, hforetold₁, hforetold₂⟩ |
        ⟨n, hemail, hforetold₁, hforetold₂⟩ :=
      Provisioning.foretell_congr h.user_eq s₁.print s₂.print wish
    all_goals
      rw [hforetold₁] at houtcome₁ hrests₁
      rw [hforetold₂] at houtcome₂ hrests₂
      simp only
      rw [houtcome₁, houtcome₂]
    · exact .inl ⟨rfl, hrests₁.store_eq, hrests₂.store_eq⟩
    · exact .inr (.inWords n hrests₁.store_eq hrests₂.store_eq)
    · exact .inr (.inNumbers hemail (founds_of_founding n hrests₁.store_eq)
        (founds_of_founding n hrests₂.store_eq))

/-- **Every handler serves a visitor alike at services that resemble each other**, but for the words of
faults and the numbers of what is created. -/
theorem served_isolated (route : Route) :
    ((s₁.served route r now₁).1 = (s₂.served route r now₂).1 ∧
        (s₁.served route r now₁).2.store = s₁.database.store ∧
        (s₂.served route r now₂).2.store = s₂.database.store) ∨
      route = .createOrganization ∧
        s₁.Differ s₂ identity.email (s₁.served route r now₁) (s₂.served route r now₂) := by
  cases route with
  | health => exact .inl ⟨rfl, rfl, rfl⟩
  | exchangeToken => exact .inl (exchangeToken_isolated h hseconds hvisitor)
  | checkMembership => exact .inl (checkMembership_isolated h hseconds hvisitor)
  | createOrganization =>
    exact (createOrganization_isolated h hseconds hvisitor).imp_right fun hdiffer => ⟨rfl, hdiffer⟩

end isolated

/-! ## What is committed -/

/-- **Whatever goes wrong, a request commits nothing but an organization and its owner, who has the
visitor's own email.** -/
theorem served_commits {s : Service} {now : Instant} (route : Route)
    (hclosed : s.database.transaction = .closed) (hgenuine : s.database.Genuine) :
    ∃ new, s.database.Advances (s.served route r now).2 new ∧ ∀ p ∈ committedIn new,
      ∃ identity o u, (s.identify r now).1 = .ok identity ∧ p = ⟨[o], [u], []⟩ ∧
        u.email = identity.email := by
  by_cases hcreate : route = .createOrganization
  · subst hcreate
    rw [served_createOrganization]
    cases hvisitor : (s.identify r now).1 with
    | error refusal => exact ⟨[], Advances.refl _, fun p hp => absurd hp List.not_mem_nil⟩
    | ok identity =>
      simp only
      cases r.jsonBody? Provisioning.Request with
      | none => exact ⟨[], Advances.refl _, fun p hp => absurd hp List.not_mem_nil⟩
      | some wish =>
        rcases hprovide : (Provisioning.provide identity wish s.print).run s.database with
          ⟨report, db⟩
        obtain ⟨k, hk, hcommits⟩ := Provisioning.provide_commits hclosed hgenuine hprovide
        simp only [hprovide]
        refine ⟨k, hk, fun p hp => ?_⟩
        obtain ⟨n, c, hvalid, hfulfils, rfl⟩ := hcommits p hp
        obtain ⟨-, -, hverified, -⟩ := Provisioning.Request.examine_ok
          (Provisioning.Request.validateFor_ok_iff.mp hvalid)
        exact ⟨identity, c.organization, c.user, rfl, rfl, hfulfils.email.trans hverified⟩
  · obtain ⟨hreads, -⟩ :=
      (handle_serves hclosed hgenuine (Prod.eta (s.handle route r now)).symm).2 hcreate
    change ∃ new, s.database.Advances (s.handle route r now).2.database new ∧ _
    rcases hreads with hsame | ⟨q, k, -, hlooks⟩
    · rw [hsame]
      exact ⟨[], Advances.refl _, fun p hp => absurd hp List.not_mem_nil⟩
    · refine ⟨k, hlooks.toAdvances, fun p hp => ?_⟩
      rw [hlooks.committedIn_eq_nil] at hp
      exact absurd hp List.not_mem_nil

/-! ## Requests -/

/-- **Tenants are isolated.** Take two services that recognise the same visitors and issue the same
sessions, at both of which nothing goes wrong and nobody else commits anything, and whose rows keep the
constraints. If they have the same rows for the email of a visitor, then they answer the visitor's
request alike, in the same second, and change nothing; or the request is for an organization. Then both
find it faulty, each in its own words; or both create the organization and its owner, with the
visitor's email and each with its own next numbers, and nothing else, but a service whose next number is
taken, or has none left, fails and adds nothing.

And at any service, whatever goes wrong and whatever others commit, a request commits no rows but an
organization with one user, who has the email of the visitor that is recognised. -/
theorem tenants_isolated (policy : CorsPolicy) (routes : List Route) :
    (∀ (s₁ s₂ : Service) (r : Http.Request) (now₁ now₂ : Instant) (identity : Identity),
      s₁.verifier = s₂.verifier → s₁.sessions = s₂.sessions → s₁.AtRest → s₂.AtRest →
      now₁.seconds = now₂.seconds → (s₁.identify r now₁).1 = .ok identity →
      (∀ u : AppUser, u.email = identity.email →
        (u ∈ s₁.database.store.users ↔ u ∈ s₂.database.store.users)) →
      ((s₁.respondUnder policy routes r now₁).1 = (s₂.respondUnder policy routes r now₂).1 ∧
          (s₁.respondUnder policy routes r now₁).2.database.store = s₁.database.store ∧
          (s₂.respondUnder policy routes r now₂).2.database.store = s₂.database.store) ∨
        Route.reached? routes r = some .createOrganization ∧ ∃ inner₁ inner₂,
          (s₁.respondUnder policy routes r now₁).1 = policy.decorate r inner₁ ∧
          (s₂.respondUnder policy routes r now₂).1 = policy.decorate r inner₂ ∧
          s₁.Differ s₂ identity.email
            (inner₁, (s₁.respondUnder policy routes r now₁).2.database)
            (inner₂, (s₂.respondUnder policy routes r now₂).2.database)) ∧
    ∀ (s : Service) (r : Http.Request) (now : Instant), s.database.transaction = .closed →
      s.database.Genuine →
      ∃ new, s.database.Advances (s.respondUnder policy routes r now).2.database new ∧
        ∀ p ∈ committedIn new, ∃ identity o u, (s.identify r now).1 = .ok identity ∧
          p = ⟨[o], [u], []⟩ ∧ u.email = identity.email := by
  constructor
  · intro s₁ s₂ r now₁ now₂ identity hverifier hsessions hrest₁ hrest₂ hseconds hvisitor hsame
    have hresembles : s₁.Resembles identity.email s₂ :=
      ⟨hverifier, hsessions, hrest₁, hrest₂, Store.userOf?_congr hrest₂.consistent hsame⟩
    cases hreached : Route.reached? routes r with
    | none =>
      rw [respondUnder_unreached policy hreached, respondUnder_unreached policy hreached]
      exact .inl ⟨rfl, rfl, rfl⟩
    | some route =>
      obtain ⟨hsame, hkept⟩ | ⟨rfl, hdiffer⟩ := served_isolated hresembles hseconds hvisitor route
      · obtain ⟨hanswer₁, hleft₁⟩ := respondUnder_reached policy hreached s₁ now₁
        obtain ⟨hanswer₂, hleft₂⟩ := respondUnder_reached policy hreached s₂ now₂
        rw [hanswer₁, hanswer₂, hleft₁, hleft₂, hsame]
        exact .inl ⟨rfl, hkept⟩
      · obtain ⟨hanswer₁, hleft₁⟩ := respondUnder_createOrganization policy hreached s₁ now₁
        obtain ⟨hanswer₂, hleft₂⟩ := respondUnder_createOrganization policy hreached s₂ now₂
        rw [hanswer₁, hanswer₂, hleft₁, hleft₂]
        exact .inr ⟨rfl, _, _, rfl, rfl, hdiffer⟩
  · intro s r now hclosed hgenuine
    cases hreached : Route.reached? routes r with
    | none =>
      rw [respondUnder_unreached policy hreached]
      exact ⟨[], Advances.refl _, fun p hp => absurd hp List.not_mem_nil⟩
    | some route =>
      rw [(respondUnder_reached policy hreached s now).2]
      exact served_commits route hclosed hgenuine

/-- The sample with somebody else's organization. -/
def sampleNeighbour : Service :=
  { sample with
    database := .ofStore
      ⟨[⟨1, "Other", none⟩], [⟨1, "grace@example.org", 1, .owner⟩], some 2, some 2⟩ }

/-- Nothing goes on at the sample. -/
theorem atRest_sample : sample.AtRest where
  closed := rfl
  calm := ⟨by simp [Disturbed, sample, ofStore], by simp [Alone, faults_sample]⟩
  consistent := Store.consistent_empty

/-- Nothing goes on at the sample with somebody else's organization. -/
theorem atRest_sampleNeighbour : sampleNeighbour.AtRest where
  closed := rfl
  calm := ⟨by simp [Disturbed, sampleNeighbour, ofStore], by simp [Alone, sampleNeighbour, ofStore]⟩
  consistent := ⟨by decide, by decide, by decide, by decide⟩

/-- The sample's visitor cannot tell that somebody else has an organization, and what they commit there
has their own email. -/
theorem tenants_isolated_sample :
    (sample.respondUnder samplePolicy Route.all (sampleCheck "GET") sampleInstant).1 =
        (sampleNeighbour.respondUnder samplePolicy Route.all (sampleCheck "GET") sampleInstant).1 ∧
      ∃ new, sampleNeighbour.database.Advances
          (sampleNeighbour.respondUnder samplePolicy Route.all sampleWish sampleInstant).2.database
          new ∧
        ∀ p ∈ committedIn new, ∃ o u, p = ⟨[o], [u], []⟩ ∧ u.email = "ada@example.org" := by
  obtain ⟨hisolated, hcommits⟩ := tenants_isolated samplePolicy Route.all
  constructor
  · have hvisitor : (sample.identify (sampleCheck "GET") sampleInstant).1 =
        .ok Provisioning.sampleVisitor := by decide +kernel
    have hsame : ∀ u : AppUser, u.email = Provisioning.sampleVisitor.email →
        (u ∈ sample.database.store.users ↔ u ∈ sampleNeighbour.database.store.users) := by
      intro u hemail
      refine ⟨fun hu => absurd hu List.not_mem_nil, fun hu => ?_⟩
      rw [List.mem_singleton.mp hu] at hemail
      exact absurd hemail (by decide)
    obtain ⟨hanswer, -⟩ | ⟨hcreate, -⟩ := hisolated sample sampleNeighbour (sampleCheck "GET")
      sampleInstant sampleInstant _ rfl rfl atRest_sample atRest_sampleNeighbour rfl hvisitor hsame
    · exact hanswer
    · exact absurd hcreate (by decide +kernel)
  · have hvisitor : (sampleNeighbour.identify sampleWish sampleInstant).1 =
        .ok Provisioning.sampleVisitor := by decide +kernel
    obtain ⟨new, hadvances, hown⟩ := hcommits sampleNeighbour sampleWish sampleInstant rfl
      (genuine_of_undisturbed atRest_sampleNeighbour.calm.quiet)
    refine ⟨new, hadvances, fun p hp => ?_⟩
    obtain ⟨identity, o, u, hidentity, hrows, hemail⟩ := hown p hp
    cases hvisitor.symm.trans hidentity
    exact ⟨o, u, hrows, hemail⟩

/-- The sample with somebody else's organization, which has the number that is drawn next. -/
def sampleTaken : Service :=
  { sample with
    database := .ofStore
      ⟨[⟨1, "Other", none⟩], [⟨1, "grace@example.org", 1, .owner⟩], some 1, some 2⟩ }

/-- Nothing goes on at the sample at which the next number is taken. -/
theorem atRest_sampleTaken : sampleTaken.AtRest where
  closed := rfl
  calm := ⟨by simp [Disturbed, sampleTaken, ofStore], by simp [Alone, sampleTaken, ofStore]⟩
  consistent := ⟨by decide, by decide, by decide, by decide⟩

/-- A printer that names one fault in a line, in the other order of the fields' names. -/
def backwards : Provisioning.Printer := fun n =>
  "\n".intercalate
    (n.faults.reverse.map fun (field, fault) => field ++ ": Validation error: " ++ fault.code)

/-- A visitor whose email is no valid one. -/
def sampleOddVisitor : Identity := ⟨"117", "ada", "Ada"⟩

/-- An organization for this visitor, with a name of some length. -/
def sampleLong (length : Nat) : Provisioning.NewOrganization :=
  ⟨String.ofList (.replicate length 'A'), none, "ada"⟩

/-- The visitor asks for it. -/
def sampleLongWish (length : Nat) : Provisioning.Request :=
  ⟨some ⟨some (sampleLong length).name, none⟩, some ⟨some "ada"⟩⟩

section long

open Provisioning

/-- The name is as long as it was to be. -/
theorem length_sampleLong (length : Nat) : (sampleLong length).name.length = length := by
  rw [sampleLong, String.length_ofList, List.length_replicate]

/-- The name has no blanks around it. -/
theorem trim_sampleLong (length : Nat) :
    Text.trim (sampleLong length).name = (sampleLong length).name := by
  have hstart : Text.trimStart (.replicate length 'A') = .replicate length 'A' := by
    cases length <;> rfl
  have hend : Text.trimEnd (.replicate length 'A') = .replicate length 'A' := by
    rw [Text.trimEnd, List.reverse_replicate]
    exact (congrArg List.reverse hstart).trans List.reverse_replicate
  rw [sampleLong, Text.trim, String.toList_ofList, hstart, hend]

variable {length : Nat} (hlong : 255 < length)
include hlong

/-- What is wrong with it if the name is too long. -/
theorem faults_sampleLong :
    (sampleLong length).faults = [("name", .length (some 1) 255), ("owner_email", .email)] := by
  have hemail : ¬Email.isValid "ada" = true := by decide
  have hname : (sampleLong length).name.length < 1 ∨ longestName < (sampleLong length).name.length :=
    .inr ((length_sampleLong length).symm ▸ hlong)
  rw [NewOrganization.faults, if_pos hname, show (sampleLong length).ownerEmail = "ada" from rfl,
    if_neg hemail]
  rfl

/-- The request for it is found faulty then. -/
theorem examine_sampleLong :
    (sampleLongWish length).examine "ada" = .error (.faulty (sampleLong length)) := by
  have hname : trimmed? (sampleLong length).name = some (sampleLong length).name := by
    rw [trimmed?, trim_sampleLong]
    refine if_neg fun hempty => ?_
    have hnone := congrArg String.length (String.isEmpty_iff.mp hempty)
    rw [length_sampleLong, String.length_empty] at hnone
    omega
  have hfaulty : ¬(sampleLong length).faults.isEmpty = true := by
    rw [faults_sampleLong hlong]
    decide
  simp only [Request.examine, sampleLongWish, Option.bind_some, hname]
  exact if_neg hfaulty

/-- The visitor is told so in the words of the printer. -/
theorem outcome_sampleLong (print : Printer) :
    ((provide sampleOddVisitor (sampleLongWish length) print).run sample.database).1.outcome =
      .error (.validation ("Validation failed: " ++ print (sampleLong length))) := by
  have hlegible : '\x00' ∉ "ada".toList := by decide
  rw [(provide_calm sampleOddVisitor (sampleLongWish length) print atRest_sample.rests).1]
  show (foretell print .empty "ada" (sampleLongWish length)).1 = _
  rw [foretell, if_neg hlegible]
  simp only [Request.validateFor, examine_sampleLong hlong]
  rfl

end long

/-- **Visitors may tell services that resemble each other apart**, though nothing goes wrong. The same
request is fulfilled by one and not by another, at which somebody else's organization has the next number.
And a request that is found faulty is answered in other words if the faults are put in other words. -/
theorem tenants_told_apart :
    (sample.AtRest ∧ sampleTaken.AtRest ∧
      (sample.identify sampleWish sampleInstant).1 = .ok Provisioning.sampleVisitor ∧
      (∀ u : AppUser, u.email = Provisioning.sampleVisitor.email →
        (u ∈ sample.database.store.users ↔ u ∈ sampleTaken.database.store.users)) ∧
      (sample.respondUnder samplePolicy Route.all sampleWish sampleInstant).1.status = 201 ∧
      (sampleTaken.respondUnder samplePolicy Route.all sampleWish sampleInstant).1.status = 500) ∧
    ((Provisioning.provide sampleOddVisitor (sampleLongWish 256) .plain).run
        sample.database).1.outcome = .error (.validation
          "Validation failed: name: Validation error: length\nowner_email: Validation error: email") ∧
      ((Provisioning.provide sampleOddVisitor (sampleLongWish 256) backwards).run
        sample.database).1.outcome = .error (.validation
          "Validation failed: owner_email: Validation error: email\nname: Validation error: length") := by
  refine ⟨⟨atRest_sample, atRest_sampleTaken, by decide +kernel, ?_, by decide +kernel,
    by decide +kernel⟩, ?_, ?_⟩
  · intro u hemail
    refine ⟨fun hu => absurd hu List.not_mem_nil, fun hu => ?_⟩
    rw [List.mem_singleton.mp hu] at hemail
    exact absurd hemail (by decide)
  · rw [outcome_sampleLong (by decide), Provisioning.Printer.plain, faults_sampleLong (by decide)]
    decide +kernel
  · rw [outcome_sampleLong (by decide), backwards, faults_sampleLong (by decide)]
    decide +kernel

end Service

end TenantOnboarding
