import TenantOnboarding.Proofs.Google.Calls
import TenantOnboarding.Proofs.Service.Answers
import TenantOnboarding.Proofs.Service.Requests
import TenantOnboarding.Proofs.Store.Likeness

/-!
# What failures of the service tell

A visitor learns of a failure of the service that it happened, in which of four respects, and nothing
else.

* `Http.Response.Speaks` says of an answer that it tells of no failure of the service, or only that there
  is one. Every handler's answer speaks so, whatever the service is.
* `Service.Twins` relates services whose failures differ in their words: the database fails in other words
  or the keys cannot be fetched for another reason. `served_twins` says that they answer alike.
* **`conceals_internals`** puts the two together.
-/

namespace TenantOnboarding

open Database Http

/-! ## Answers to failures -/

namespace Http.Response

/-- The codes of failures of the service itself. -/
def internalCodes : List String :=
  ["UNEXPECTED_ERROR", "DATABASE_ERROR", "INTERNAL_ERROR", "AUTH_ERROR"]

/-- The answer that tells of a failure of the service: a code, and that there was a failure. -/
def ofInternal (code : String) : Response :=
  .json 500 (.object
    [("error", .object [("code", .text code), ("message", .text "Internal server error")])])

/-- An answer tells of no failure of the service, or only that there is one. -/
def Speaks (response : Response) : Prop :=
  response.status = 500 → ∃ code ∈ internalCodes, response = ofInternal code

/-- An answer with another status tells of no failure. -/
theorem Speaks.of_ne {response : Response} (h : response.status ≠ 500) : response.Speaks :=
  fun hstatus => absurd hstatus h

/-- Of a failure no more is told than that there is one, if it is the service's own. -/
theorem speaks_ofFailure (f : Failure) : (ofFailure f).Speaks := by
  cases f with
  | unexpected cause contexts => exact fun _ => ⟨"UNEXPECTED_ERROR", by decide, rfl⟩
  | database cause => exact fun _ => ⟨"DATABASE_ERROR", by decide, rfl⟩
  | internal message => exact fun _ => ⟨"INTERNAL_ERROR", by decide, rfl⟩
  | authentication | validation | alreadyExists | notFound =>
    apply Speaks.of_ne
    simp [ofFailure, json, Failure.status]

/-- Of a refusal no more is told than that there is one, if it is the service's own failure. -/
theorem speaks_ofRefusal (r : Refusal) : (ofRefusal r).Speaks := by
  cases r with
  | keysUnavailable | signingFailed => exact fun _ => ⟨"AUTH_ERROR", by decide, rfl⟩
  | missingAuthorization | malformedAuthorization | invalidToken | missingEmail =>
    apply Speaks.of_ne
    decide

/-- Failures that are alike are answered alike. -/
theorem ofFailure_alike {f g : Failure} (h : f.Alike g) : ofFailure f = ofFailure g := by
  cases h with
  | refl | unexpected | database | internal => rfl

end Http.Response

/-! ## Failing fetches of keys -/

/-- Two verifiers are the same, or ask servers of keys that fail, each in its way. -/
inductive Verifier.Twins : Verifier → Verifier → Prop where
  | refl (v : Verifier) : Twins v v
  | failing {g : Google.Verifier} {server : Google.KeyServer} (first : g.server.Fails)
      (second : server.Fails) : Twins (.google g) (.google { g with server })

/-- In which way the keys cannot be fetched does not matter to what a token is taken for. -/
theorem Google.Verifier.verify_failing {g : Google.Verifier} {server : KeyServer}
    (hfirst : g.server.Fails) (hsecond : server.Fails) (token : String) (now : Int) :
    (g.verify token now).1 = (Verifier.verify { g with server } token now).1 := by
  cases hnamed : namedKey? token with
  | none => rw [verify_unnamed hnamed, verify_unnamed hnamed]
  | some id =>
    cases hfind : g.cache.find? now id with
    | some key =>
      rw [verify_known hnamed hfind, verify_known hnamed (v := { g with server }) hfind]
      rfl
    | none =>
      rw [verify_failed hnamed hfind hfirst,
        verify_failed hnamed (v := { g with server }) hfind hsecond]

namespace Verifier.Twins

variable {v₁ v₂ : Verifier} (h : v₁.Twins v₂)
include h

/-- Twins take a token for the same. -/
theorem verify_eq (token : String) (now : Int) :
    (v₁.verify token now).1 = (v₂.verify token now).1 := by
  cases h with
  | refl => rfl
  | failing hfirst hsecond => exact Google.Verifier.verify_failing hfirst hsecond token now

/-- Twins take a visitor for the same. -/
theorem authenticate_eq (header : Option (List UInt8)) (now : Int) :
    (v₁.authenticate header now).1 = (v₂.authenticate header now).1 := by
  unfold authenticate
  match header with
  | none => rfl
  | some value =>
    simp only
    match Bearer.token value with
    | .error refusal => rfl
    | .ok token => exact h.verify_eq token now

end Verifier.Twins

/-! ## Handlers -/

namespace Service

/-- Two services whose failures differ in their words: they issue the same sessions, and their verifiers
and databases are twins. How they put faults of requests in words is not asked. -/
structure Twins (s₁ s₂ : Service) : Prop where
  verifier : s₁.verifier.Twins s₂.verifier
  sessions_eq : s₁.sessions = s₂.sessions
  database : s₁.database.Twins s₂.database

variable (r : Http.Request) (now : Instant)

/-- **No handler tells of a failure of the service more than that there is one.** -/
theorem served_speaks (s : Service) (route : Route) : (s.served route r now).1.Speaks := by
  cases route with
  | health =>
    show healthResponse.Speaks
    exact .of_ne (by decide)
  | checkMembership =>
    rw [served_checkMembership]
    match (s.identify r now).1 with
    | .error refusal => exact Response.speaks_ofRefusal refusal
    | .ok identity =>
      simp only
      match (Directory.membership identity.email).run s.database with
      | (.error failure, db) => exact Response.speaks_ofFailure failure
      | (.ok membership, db) => exact .of_ne (by simp [Response.status_json])
  | createOrganization =>
    rw [served_createOrganization]
    match (s.identify r now).1 with
    | .error refusal => exact Response.speaks_ofRefusal refusal
    | .ok identity =>
      simp only
      match r.jsonBody? Provisioning.Request with
      | none => exact Response.speaks_ofFailure invalidBody
      | some wish =>
        simp only
        match ((Provisioning.provide identity wish s.print).run s.database).1.outcome with
        | .error failure => exact Response.speaks_ofFailure failure
        | .ok created => exact .of_ne (by simp [Response.status_json])
  | exchangeToken =>
    rw [served_exchangeToken]
    match exchangedToken (r.header? "authorization") with
    | .error failure => exact Response.speaks_ofFailure failure
    | .ok token =>
      simp only
      match (s.verifier.verify token now.seconds).1 with
      | .error refusal => exact Response.speaks_ofFailure _
      | .ok identity =>
        simp only
        match (Directory.user? identity.email).run s.database with
        | (.error failure, db) => exact Response.speaks_ofFailure failure
        | (.ok none, db) => exact Response.speaks_ofFailure _
        | (.ok (some user), db) => exact .of_ne (by simp [tokenResponse, Response.status_json])

/-- **Services that are twins answer alike** if they put faults in the same words. -/
theorem served_twins {s₁ s₂ : Service} (h : s₁.Twins s₂) (hprint : s₁.print = s₂.print)
    (route : Route) :
    (s₁.served route r now).1 = (s₂.served route r now).1 := by
  have hidentify : (s₁.identify r now).1 = (s₂.identify r now).1 := h.verifier.authenticate_eq _ _
  cases route with
  | health => rfl
  | checkMembership =>
    rw [served_checkMembership, served_checkMembership, hidentify]
    match (s₂.identify r now).1 with
    | .error refusal => rfl
    | .ok identity =>
      have hagree := Directory.membership_discreet identity.email _ _ h.database
      simp only
      generalize (Directory.membership identity.email).run s₁.database = x₁ at hagree ⊢
      generalize (Directory.membership identity.email).run s₂.database = x₂ at hagree ⊢
      cases hagree with
      | ok => rfl
      | error halike => exact Response.ofFailure_alike halike
  | createOrganization =>
    rw [served_createOrganization, served_createOrganization, hidentify]
    match (s₂.identify r now).1 with
    | .error refusal => rfl
    | .ok identity =>
      simp only
      match r.jsonBody? Provisioning.Request with
      | none => rfl
      | some wish =>
        have hagree := Provisioning.provide_agree identity wish s₂.print h.database
        simp only [hprint]
        generalize ((Provisioning.provide identity wish s₂.print).run s₁.database).1.outcome = o₁
          at hagree ⊢
        generalize ((Provisioning.provide identity wish s₂.print).run s₂.database).1.outcome = o₂
          at hagree ⊢
        cases hagree with
        | ok => rfl
        | error halike => exact Response.ofFailure_alike halike
  | exchangeToken =>
    rw [served_exchangeToken, served_exchangeToken]
    match exchangedToken (r.header? "authorization") with
    | .error failure => rfl
    | .ok token =>
      simp only [h.verifier.verify_eq token now.seconds]
      match (s₂.verifier.verify token now.seconds).1 with
      | .error refusal => rfl
      | .ok identity =>
        have hagree := Directory.user?_discreet identity.email _ _ h.database
        simp only
        generalize (Directory.user? identity.email).run s₁.database = x₁ at hagree ⊢
        generalize (Directory.user? identity.email).run s₂.database = x₂ at hagree ⊢
        cases hagree with
        | error halike => exact Response.ofFailure_alike halike
        | @ok user =>
          match user with
          | none => rfl
          | some user => simp only [h.sessions_eq]

/-! ## Requests -/

/-- Requests are answered alike by twins if they put faults in the same words. -/
theorem respondUnder_twins (policy : CorsPolicy) (routes : List Route) {s₁ s₂ : Service}
    (h : s₁.Twins s₂) (hprint : s₁.print = s₂.print) :
    (s₁.respondUnder policy routes r now).1 = (s₂.respondUnder policy routes r now).1 := by
  cases hreached : Route.reached? routes r with
  | none => rw [respondUnder_unreached policy hreached, respondUnder_unreached policy hreached]
  | some route =>
    rw [(respondUnder_reached policy hreached s₁ now).1,
      (respondUnder_reached policy hreached s₂ now).1, served_twins r now h hprint]

/-- **Nothing that the service knows of its own failures reaches a visitor.** An answer with the status
500 has one of four codes and a message that is always the same, and besides only the headers that the
policy adds to every answer to the request; a request for the head alone is answered without a body.
Services that fail in other words answer alike, and so are failures that differ in their words. Only a
request that is found faulty may be answered in other words, where faults are put in other words. -/
theorem conceals_internals (policy : CorsPolicy) (routes : List Route) :
    (∀ (s : Service) (r : Http.Request) (now : Instant),
      (s.respondUnder policy routes r now).1.status = 500 →
      ∃ code ∈ ["UNEXPECTED_ERROR", "DATABASE_ERROR", "INTERNAL_ERROR", "AUTH_ERROR"],
        (s.respondUnder policy routes r now).1 = policy.decorate r (withoutBody r.method
          (.json 500 (.object
            [("error", .object
              [("code", .text code), ("message", .text "Internal server error")])])))) ∧
    (∀ (s₁ s₂ : Service) (r : Http.Request) (now : Instant), s₁.Twins s₂ →
      (s₁.respondUnder policy routes r now).1 = (s₂.respondUnder policy routes r now).1 ∨
        s₁.print ≠ s₂.print ∧ ∃ n,
          (s₁.respondUnder policy routes r now).1 = policy.decorate r (ofFaulty s₁.print n) ∧
          (s₂.respondUnder policy routes r now).1 = policy.decorate r (ofFaulty s₂.print n)) ∧
    ∀ f g : Failure, f.Alike g → Response.ofFailure f = Response.ofFailure g := by
  refine ⟨?_, ?_, fun f g => Response.ofFailure_alike⟩
  · intro s r now hstatus
    cases hreached : Route.reached? routes r with
    | none =>
      rw [respondUnder_unreached policy hreached] at hstatus
      exact absurd hstatus (status_unserved policy)
    | some route =>
      rw [(respondUnder_reached policy hreached s now).1] at hstatus ⊢
      have hserved : (s.served route r now).1.status = 500 := by
        rw [← status_withoutBody r.method]
        exact hstatus
      obtain ⟨code, hcode, hresponse⟩ := served_speaks r now s route hserved
      refine ⟨code, hcode, ?_⟩
      rw [hresponse]
      rfl
  · intro s₁ s₂ r now htwins
    -- The second service first puts faults in the words of the other.
    have htwins' : s₁.Twins { s₂ with print := s₁.print } :=
      ⟨htwins.verifier, htwins.sessions_eq, htwins.database⟩
    have hsame := respondUnder_twins r now policy routes htwins' rfl
    obtain ⟨hanswer, -⟩ | ⟨-, n, hfaulty, hfaulty', -⟩ :=
      respondUnder_print policy r now s₂ s₁.print
    · exact .inl (hsame.trans hanswer)
    · by_cases hprint : s₁.print = s₂.print
      · exact .inl (respondUnder_twins r now policy routes htwins hprint)
      · exact .inr ⟨hprint, n, hsame.trans hfaulty', hfaulty⟩

/-- The sample's database when a lookup in it fails with some ending. -/
def sampleFailing (ending : Ending) : Service :=
  { sample with database.faults := [⟨.findMembership, 0, [], ending⟩] }

/-- A connection that breaks and a statement that is refused with a telling message are answered with
one and the same error, and a telling message of the service's own is not told either. -/
theorem conceals_internals_sample :
    ((sampleFailing .lost).respondUnder samplePolicy Route.all (sampleCheck "GET")
        sampleInstant).1.status = 500 ∧
      (∃ code, ((sampleFailing .lost).respondUnder samplePolicy Route.all (sampleCheck "GET")
        sampleInstant).1.body = .json (.object
          [("error", .object
            [("code", .text code), ("message", .text "Internal server error")])])) ∧
      ((sampleFailing .lost).respondUnder samplePolicy Route.all (sampleCheck "GET")
          sampleInstant).1 =
        ((sampleFailing (.failed (.refused none "secret"))).respondUnder samplePolicy Route.all
          (sampleCheck "GET") sampleInstant).1 ∧
      Response.ofFailure (.internal "secret") = Response.ofFailure (.internal "") := by
  obtain ⟨hspeaks, htwins, halike⟩ := conceals_internals samplePolicy Route.all
  have hstatus : ((sampleFailing .lost).respondUnder samplePolicy Route.all (sampleCheck "GET")
      sampleInstant).1.status = 500 := by decide +kernel
  refine ⟨hstatus, ?_, ?_, halike _ _ (.internal "secret" "")⟩
  · obtain ⟨code, -, hresponse⟩ := hspeaks _ _ _ hstatus
    refine ⟨code, ?_⟩
    rw [hresponse]
    rfl
  · have htwin : (sampleFailing .lost).Twins (sampleFailing (.failed (.refused none "secret"))) := by
      refine ⟨.refl _, rfl, .intro (.cons ⟨rfl, rfl, rfl, ?_⟩ .nil)⟩
      refine .failures (a := broken) (b := .refused none "secret") rfl rfl ⟨?_, ?_⟩
      · decide
      · decide
    obtain hsame | ⟨hprint, -⟩ := htwins _ _ (sampleCheck "GET") sampleInstant htwin
    · exact hsame
    · exact absurd rfl hprint

/-- The sample when its database cannot be reached. -/
def sampleUnreachable : Service :=
  { sample with database.reachable := false }

/-- The head of an answer that tells of a failure comes without the error. -/
theorem head_without_error :
    (sampleUnreachable.respondUnder samplePolicy Route.all (sampleCheck "HEAD")
        sampleInstant).1.status = 500 ∧
      ∀ v, (sampleUnreachable.respondUnder samplePolicy Route.all (sampleCheck "HEAD")
        sampleInstant).1.body ≠ .json v := by
  refine ⟨by decide +kernel, fun v hbody => ?_⟩
  have hreached : Route.reached? Route.all (sampleCheck "HEAD") = some .checkMembership := by
    decide +kernel
  rw [(respondUnder_reached samplePolicy hreached _ _).1] at hbody
  cases hbody

end Service

end TenantOnboarding
