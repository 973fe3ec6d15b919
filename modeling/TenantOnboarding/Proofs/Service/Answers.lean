import TenantOnboarding.Proofs.Provisioning.Creation
import TenantOnboarding.Service.Router

/-!
# What answers are made of

The router and its handlers as equations, for statements that compare the answers of services.

* `Route.reached?` is the route whose handler a request reaches, and `respondUnder_reached` and
  `respondUnder_unreached` say what the router does with the one kind of requests and with the other.
  Requests of the other kind get the answer `Service.unserved`.
* `Service.served` is what a handler answers and which database it leaves. `served_checkMembership`,
  `served_createOrganization` and `served_exchangeToken` say what that is, by what came of the handler's
  work with the database.
* `respondUnder_print`: how faults are put in words matters to nothing but the words of a request that was
  found faulty.
-/

namespace TenantOnboarding

open Http

/-! ## The router -/

/-- The route whose handler a request reaches, if it reaches one. -/
def Route.reached? (routes : List Route) (r : Http.Request) : Option Route :=
  (Route.find? routes r.target).filter (·.takes r.method)

/-- A request reaches the handler of its target's route if the route takes its method. -/
theorem Route.reached?_eq_some_iff {routes : List Route} {r : Http.Request} {route : Route} :
    reached? routes r = some route ↔
      find? routes r.target = some route ∧ route.takes r.method = true := by
  unfold reached?
  rw [Option.filter_eq_some_iff]

/-- No route takes requests for options. -/
theorem Route.not_answersItself {r : Http.Request} {route : Route}
    (h : route.takes r.method = true) : ¬CorsPolicy.answersItself r = true := by
  intro hself
  have hmethod : r.method = "OPTIONS" := by simpa [CorsPolicy.answersItself] using hself
  rw [hmethod] at h
  cases route <;> revert h <;> decide

/-- Organizations are asked for by `POST` alone. -/
theorem Route.takes_createOrganization {method : String} :
    takes .createOrganization method = true ↔ method = "POST" := by
  simp [takes, isRead]

namespace Service

/-- What the handler of a route answers, and the database that it leaves. -/
def served (s : Service) (route : Route) (r : Http.Request) (now : Instant) : Response × Database :=
  Prod.map id database (s.handle route r now)

variable (policy : CorsPolicy) {routes : List Route} {r : Http.Request}

/-- A request that reaches a handler is answered by it. -/
theorem respondUnder_reached {route : Route} (h : Route.reached? routes r = some route)
    (s : Service) (now : Instant) :
    (s.respondUnder policy routes r now).1 =
        policy.decorate r (withoutBody r.method (s.served route r now).1) ∧
      (s.respondUnder policy routes r now).2.database = (s.served route r now).2 := by
  obtain ⟨hroute, htakes⟩ := Route.reached?_eq_some_iff.mp h
  rw [respondUnder, if_neg (Route.not_answersItself htakes), respond, hroute]
  simp only [htakes, if_true]
  exact ⟨rfl, rfl⟩

/-- A request for an organization that reaches its handler is answered by it in full. -/
theorem respondUnder_createOrganization (h : Route.reached? routes r = some .createOrganization)
    (s : Service) (now : Instant) :
    (s.respondUnder policy routes r now).1 =
        policy.decorate r (s.served .createOrganization r now).1 ∧
      (s.respondUnder policy routes r now).2.database = (s.served .createOrganization r now).2 := by
  obtain ⟨hanswer, hleft⟩ := respondUnder_reached policy h s now
  have hpost : r.method = "POST" :=
    Route.takes_createOrganization.mp (Route.reached?_eq_some_iff.mp h).2
  have hwhole : withoutBody r.method (s.served .createOrganization r now).1 =
      (s.served .createOrganization r now).1 := if_neg (by rw [hpost]; decide)
  rw [hwhole] at hanswer
  exact ⟨hanswer, hleft⟩

variable (routes r) in
/-- The answer to a request that reaches no handler. -/
def unserved : Response :=
  if CorsPolicy.answersItself r then
    policy.options r (((Route.find? routes r.target).map Route.allowed).getD [])
  else
    policy.decorate r
      (((Route.find? routes r.target).map fun route =>
        { Response.bare 405 with headers := route.allowed }).getD (.bare 404))

/-- A request that reaches no handler is no failure of the service. -/
theorem status_unserved : (unserved policy routes r).status ≠ 500 := by
  unfold unserved
  split
  · show 200 ≠ 500
    decide
  · cases Route.find? routes r.target with
    | none =>
      show 404 ≠ 500
      decide
    | some route =>
      show 405 ≠ 500
      decide

/-- A request that reaches no handler is answered without one, and nothing is done. -/
theorem respondUnder_unreached (h : Route.reached? routes r = none) (s : Service) (now : Instant) :
    s.respondUnder policy routes r now = (unserved policy routes r, s) := by
  unfold respondUnder respond unserved
  by_cases hself : CorsPolicy.answersItself r = true
  · rw [if_pos hself, if_pos hself]
    cases Route.find? routes r.target <;> rfl
  · rw [if_neg hself, if_neg hself]
    cases hroute : Route.find? routes r.target with
    | none => rfl
    | some route =>
      have htakes : ¬route.takes r.method = true :=
        fun htakes => by simpa [h] using Route.reached?_eq_some_iff.mpr ⟨hroute, htakes⟩
      simp only [if_neg htakes]
      rfl

/-! ## The handlers -/

variable (r : Http.Request) (now : Instant) (s : Service)

/-- Whoever is recognised is told where their email belongs, or that this cannot be told. -/
theorem served_checkMembership :
    s.served .checkMembership r now =
      match (s.identify r now).1 with
      | .error refusal => (.ofRefusal refusal, s.database)
      | .ok identity =>
        match (Directory.membership identity.email).run s.database with
        | (.error failure, db) => (.ofFailure failure, db)
        | (.ok membership, db) => (.json 200 (Json.Coded.toValue membership), db) := by
  unfold served handle checkMembership identify work
  rcases s.verifier.authenticate (r.header? "authorization") now.seconds with
    ⟨refusal | identity, verifier⟩
  · rfl
  · simp only
    rcases (Directory.membership identity.email).run s.database with ⟨failure | membership, db⟩ <;> rfl

/-- Whoever is recognised is provided with what they ask for, or told why not. -/
theorem served_createOrganization :
    s.served .createOrganization r now =
      match (s.identify r now).1 with
      | .error refusal => (.ofRefusal refusal, s.database)
      | .ok identity =>
        match r.jsonBody? Provisioning.Request with
        | none => (.ofFailure invalidBody, s.database)
        | some wish =>
          (match ((Provisioning.provide identity wish s.print).run s.database).1.outcome with
            | .error failure => .ofFailure failure
            | .ok created => .json 201 created.toValue,
            ((Provisioning.provide identity wish s.print).run s.database).2) := by
  unfold served handle createOrganization identify
  rcases s.verifier.authenticate (r.header? "authorization") now.seconds with
    ⟨refusal | identity, verifier⟩
  · rfl
  simp only
  rcases r.jsonBody? Provisioning.Request with _ | wish
  · rfl
  simp only
  rcases (Provisioning.provide identity wish s.print).run s.database with
    ⟨⟨course, failure | created⟩, db⟩ <;> rfl

/-- Whoever shows a genuine token and is a user gets a session token. -/
theorem served_exchangeToken :
    s.served .exchangeToken r now =
      match exchangedToken (r.header? "authorization") with
      | .error failure => (.ofFailure failure, s.database)
      | .ok token =>
        match (s.verifier.verify token now.seconds).1 with
        | .error refusal => (.ofFailure (.ofRefusal refusal), s.database)
        | .ok identity =>
          match (Directory.user? identity.email).run s.database with
          | (.error failure, db) => (.ofFailure failure, db)
          | (.ok none, db) => (.ofFailure (.notFound "User not found"), db)
          | (.ok (some user), db) =>
            (tokenResponse
              (s.sessions.issueAt user.id user.email identity.subject identity.name now), db) := by
  unfold served handle exchangeToken work
  rcases exchangedToken (r.header? "authorization") with failure | token
  · rfl
  simp only
  rcases s.verifier.verify token now.seconds with ⟨refusal | identity, verifier⟩
  · rfl
  simp only
  rcases (Directory.user? identity.email).run s.database with ⟨failure | _ | user, db⟩ <;> rfl

/-! ## The words of faults -/

/-- The answer to a request that asks for an organization with faults, which a printer puts in words. -/
def ofFaulty (print : Provisioning.Printer) (n : Provisioning.NewOrganization) : Response :=
  .ofFailure (.validation ((Provisioning.Rejection.faulty n).message print))

/-- With other words for faults a handler serves alike, but for these words. -/
theorem served_print (print : Provisioning.Printer) (route : Route) :
    Service.served { s with print } route r now = s.served route r now ∨
      route = .createOrganization ∧ ∃ n db,
        s.served route r now = (ofFaulty s.print n, db) ∧
          Service.served { s with print } route r now = (ofFaulty print n, db) := by
  cases route with
  | health => exact .inl rfl
  | checkMembership =>
    rw [served_checkMembership, served_checkMembership]
    exact .inl rfl
  | exchangeToken =>
    rw [served_exchangeToken, served_exchangeToken]
    exact .inl rfl
  | createOrganization =>
    have hidentify : (identify { s with print } r now).1 = (s.identify r now).1 := rfl
    rw [served_createOrganization, served_createOrganization, hidentify]
    cases (s.identify r now).1 with
    | error refusal => exact .inl rfl
    | ok identity =>
      cases r.jsonBody? Provisioning.Request with
      | none => exact .inl rfl
      | some wish =>
        obtain hsame | ⟨n, db, hfaulty, hfaulty'⟩ :=
          Provisioning.run_provide_print identity wish s.print print s.database
        · left
          simp only [hsame]
        · refine .inr ⟨rfl, n, db, ?_, ?_⟩
          · simp only [hfaulty]
            rfl
          · simp only [hfaulty']
            rfl

/-- **With other words for faults a request is answered alike**, but for these words. -/
theorem respondUnder_print (print : Provisioning.Printer) :
    ((Service.respondUnder { s with print } policy routes r now).1 =
          (s.respondUnder policy routes r now).1 ∧
        (Service.respondUnder { s with print } policy routes r now).2.database =
          (s.respondUnder policy routes r now).2.database) ∨
      Route.reached? routes r = some .createOrganization ∧ ∃ n,
        (s.respondUnder policy routes r now).1 = policy.decorate r (ofFaulty s.print n) ∧
        (Service.respondUnder { s with print } policy routes r now).1 =
          policy.decorate r (ofFaulty print n) ∧
        (Service.respondUnder { s with print } policy routes r now).2.database =
          (s.respondUnder policy routes r now).2.database := by
  cases hreached : Route.reached? routes r with
  | none =>
    rw [respondUnder_unreached policy hreached, respondUnder_unreached policy hreached]
    exact .inl ⟨rfl, rfl⟩
  | some route =>
    obtain hsame | ⟨rfl, n, db, hfaulty, hfaulty'⟩ := served_print r now s print route
    · obtain ⟨hanswer, hleft⟩ := respondUnder_reached policy hreached s now
      obtain ⟨hanswer', hleft'⟩ := respondUnder_reached policy hreached { s with print } now
      rw [hanswer, hanswer', hleft, hleft', hsame]
      exact .inl ⟨rfl, rfl⟩
    · obtain ⟨hanswer, hleft⟩ := respondUnder_createOrganization policy hreached s now
      obtain ⟨hanswer', hleft'⟩ :=
        respondUnder_createOrganization policy hreached { s with print } now
      rw [hanswer, hanswer', hleft, hleft', hfaulty, hfaulty']
      exact .inr ⟨rfl, n, rfl, rfl, rfl⟩

end Service

end TenantOnboarding
