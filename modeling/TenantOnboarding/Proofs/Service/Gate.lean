import TenantOnboarding.Proofs.Service.Answers
import TenantOnboarding.Proofs.Service.Requests

/-!
# In front of the gate

What a visitor gets who is not recognised, and what a recognised visitor gets whose request for an
organization has no body that can be read.

* `Verifier.TurnsAway` lists why a visitor is not recognised, and `Request.Misfits` why a body is not
  accepted. Both are what the handlers find out by themselves (`turnsAway_iff`, `misfits_iff`).
* `served_of_turnsAway`: the answer to a visitor who is turned away is settled by the verifier, the
  route and the authorization header, before anything else is looked at.
* **`settled_at_the_gate`**: in both cases the database is not touched, and neither its rows nor the
  rest of the request can be told from the answer.
-/

namespace TenantOnboarding

open Http

/-! ## Visitors who are turned away -/

/-- A visitor with this authorization header, or none, is not recognised. -/
inductive Verifier.TurnsAway (v : Verifier) (now : Int) : Option (List UInt8) → Prop where
  /-- There is no header. -/
  | missing : TurnsAway v now none
  /-- The header carries no token. -/
  | malformed {value : List UInt8} {refusal : Refusal} (malformed : Bearer.token value = .error refusal) :
      TurnsAway v now (some value)
  /-- The verifier refuses the token. -/
  | refused {value : List UInt8} {token : String} {refusal : Refusal}
      (carries : Bearer.token value = .ok token) (refused : (v.verify token now).1 = .error refusal) :
      TurnsAway v now (some value)

/-- Whoever is turned away is refused, and nobody else is. -/
theorem Verifier.turnsAway_iff {v : Verifier} {now : Int} {header : Option (List UInt8)} :
    v.TurnsAway now header ↔ ∃ refusal, (v.authenticate header now).1 = .error refusal := by
  unfold authenticate
  constructor
  · intro h
    cases h with
    | missing => exact ⟨_, rfl⟩
    | @malformed value refusal hmalformed =>
      refine ⟨refusal, ?_⟩
      simp only [hmalformed]
    | @refused value token refusal hcarries hrefused =>
      refine ⟨refusal, ?_⟩
      simpa only [hcarries] using hrefused
  · rintro ⟨refusal, h⟩
    match header with
    | none => exact .missing
    | some value =>
      match htoken : Bearer.token value with
      | .error malformed => exact .malformed htoken
      | .ok token =>
        apply Verifier.TurnsAway.refused htoken
        simpa only [htoken] using h

/-! ## Bodies that are not accepted -/

/-- The body of a request is not accepted as a value of a type. -/
inductive Http.Request.Misfits (α : Type) [Json.Coded α] (r : Request) : Prop where
  /-- Nothing is said of the type of the body. -/
  | untyped (missing : r.header? "content-type" = none)
  /-- The body is said to be no JSON. -/
  | otherType {value : List UInt8} (said : r.header? "content-type" = some value)
      (other : ¬((Bearer.visible? value).isSome = true ∧ MediaType.isJson value = true))
  /-- The body is too long. -/
  | tooLong (long : 2097152 < r.body.length)
  /-- The body is no JSON, or JSON of another shape. -/
  | unreadable {fault : Json.Fault} (fault : Json.parse α (Text.Utf8.decode r.body) = .error fault)

/-- A body that is not accepted has one of these flaws. -/
theorem Http.Request.misfits_iff {α : Type} [Json.Coded α] {r : Request} :
    r.Misfits α ↔ r.jsonBody? α = none := by
  unfold jsonBody?
  constructor
  · intro h
    cases h with
    | untyped hmissing =>
      have hsays : ¬r.saysJson = true := by simp [saysJson, hmissing]
      exact if_neg fun h => hsays h.1
    | otherType hsaid hother =>
      have hsays : ¬r.saysJson = true := by simpa [saysJson, hsaid] using hother
      exact if_neg fun h => hsays h.1
    | tooLong hlong =>
      apply if_neg
      intro h
      have hshort : r.body.length ≤ 2097152 := h.2
      omega
    | unreadable hfault =>
      rw [hfault]
      exact ite_self none
  · intro h
    by_cases hlong : 2097152 < r.body.length
    · exact .tooLong hlong
    match htype : r.header? "content-type" with
    | none => exact .untyped htype
    | some value =>
      by_cases hjson : (Bearer.visible? value).isSome = true ∧ MediaType.isJson value = true
      · have hsays : r.saysJson = true ∧ r.body.length ≤ bodyLimit := by
          refine ⟨?_, Nat.le_of_not_lt hlong⟩
          simpa [saysJson, htype] using hjson
        rw [if_pos hsays] at h
        match hparse : Json.parse α (Text.Utf8.decode r.body) with
        | .error fault => exact .unreadable hparse
        | .ok a =>
          rw [hparse] at h
          cases h
      · exact .otherType htype hjson

/-! ## Requests that cannot be told apart -/

/-- Two requests look alike from the gate: they may differ in their bodies, and in all headers but the
authorization and the origin that come first. -/
structure Http.Request.LooksLike (r₁ r₂ : Request) : Prop where
  method_eq : r₁.method = r₂.method
  target_eq : r₁.target = r₂.target
  authorization_eq : r₁.header? "authorization" = r₂.header? "authorization"
  origin_eq : r₁.header? "origin" = r₂.header? "origin"

namespace Http.Request.LooksLike

variable {r₁ r₂ : Request} (h : r₁.LooksLike r₂) (policy : CorsPolicy)
include h

/-- A policy adds the same headers to the answers to requests that look alike. -/
theorem commonHeaders_eq : policy.commonHeaders r₁ = policy.commonHeaders r₂ := by
  unfold CorsPolicy.commonHeaders CorsPolicy.originOf?
  rw [h.origin_eq]

/-- A policy adds the same to the answer to requests that look alike. -/
theorem decorate_eq (inner : Response) : policy.decorate r₁ inner = policy.decorate r₂ inner := by
  unfold CorsPolicy.decorate
  rw [h.commonHeaders_eq policy]

variable (routes : List Route)

/-- Requests that look alike reach the same handler. -/
theorem reached?_eq : Route.reached? routes r₁ = Route.reached? routes r₂ := by
  unfold Route.reached?
  rw [h.target_eq, h.method_eq]

/-- Requests that look alike get the same answer when they reach no handler. -/
theorem unserved_eq : Service.unserved policy routes r₁ = Service.unserved policy routes r₂ := by
  unfold Service.unserved CorsPolicy.options CorsPolicy.answersItself
  rw [h.method_eq, h.target_eq, h.commonHeaders_eq policy, h.decorate_eq policy]

end Http.Request.LooksLike

namespace Service

/-! ## Answers at the gate -/

/-- **The answer to a visitor who is turned away** is settled by the verifier, the route and the
authorization header, and the database is not touched. -/
theorem served_of_turnsAway {v : Verifier} {header : Option (List UInt8)} {now : Instant}
    (route : Route) (h : v.TurnsAway now.seconds header) :
    ∃ response, ∀ (s : Service) (r : Http.Request), s.verifier = v →
      r.header? "authorization" = header → s.served route r now = (response, s.database) := by
  obtain ⟨refusal, hrefusal⟩ := Verifier.turnsAway_iff.mp h
  cases route with
  | health => exact ⟨healthResponse, fun s r _ _ => rfl⟩
  | checkMembership =>
    refine ⟨.ofRefusal refusal, ?_⟩
    rintro s r rfl rfl
    have hidentify : (s.identify r now).1 = .error refusal := hrefusal
    rw [served_checkMembership, hidentify]
  | createOrganization =>
    refine ⟨.ofRefusal refusal, ?_⟩
    rintro s r rfl rfl
    have hidentify : (s.identify r now).1 = .error refusal := hrefusal
    rw [served_createOrganization, hidentify]
  | exchangeToken =>
    -- This handler looks at the header by itself, so the three reasons are gone through again.
    cases h with
    | missing =>
      refine ⟨.ofFailure (.validation "Authorization header is required"), ?_⟩
      rintro s r rfl hheader
      simp only [served_exchangeToken, exchangedToken, hheader]
    | malformed hmalformed =>
      refine ⟨.ofFailure (.validation "Bearer token is required"), ?_⟩
      rintro s r rfl hheader
      simp only [served_exchangeToken, exchangedToken, hheader, hmalformed]
    | @refused value token refusal hcarries hrefused =>
      refine ⟨.ofFailure (.ofRefusal refusal), ?_⟩
      rintro s r rfl hheader
      simp only [served_exchangeToken, exchangedToken, hheader, hcarries, hrefused]

variable (policy : CorsPolicy) (routes : List Route)

/-- A router answers requests that look alike in one way, if the visitor is turned away. -/
theorem respondUnder_of_turnsAway {v : Verifier} {r₁ : Http.Request} {now : Instant}
    (h : v.TurnsAway now.seconds (r₁.header? "authorization")) :
    ∃ response, ∀ (s : Service) (r : Http.Request), s.verifier = v → r₁.LooksLike r →
      (s.respondUnder policy routes r now).1 = response ∧
        (s.respondUnder policy routes r now).2.database = s.database := by
  cases hreached : Route.reached? routes r₁ with
  | none =>
    refine ⟨unserved policy routes r₁, ?_⟩
    intro s r hverifier hlike
    rw [respondUnder_unreached policy (hlike.reached?_eq routes ▸ hreached),
      hlike.unserved_eq policy routes]
    exact ⟨rfl, rfl⟩
  | some route =>
    obtain ⟨inner, hinner⟩ := served_of_turnsAway route h
    refine ⟨policy.decorate r₁ (withoutBody r₁.method inner), ?_⟩
    intro s r hverifier hlike
    obtain ⟨hanswer, hleft⟩ :=
      respondUnder_reached policy (hlike.reached?_eq routes ▸ hreached) s now
    rw [hanswer, hleft, hinner s r hverifier hlike.authorization_eq.symm, hlike.method_eq,
      hlike.decorate_eq policy]
    exact ⟨rfl, rfl⟩

/-- **Nothing behind the gate can be reached or seen by a visitor who is not recognised.** If the first
authorization header of a request is missing, carries no token, or carries one that the verifier
refuses, then the database is not touched, and the answer is the same for any two databases, any two
bodies and any two lists of headers with this authorization and this origin.

A recognised visitor who asks for an organization with a body that is not accepted is told so in one
and the same way, whatever is wrong with the body, and the database is not touched either. -/
theorem settled_at_the_gate :
    (∀ (s₁ s₂ : Service) (r₁ r₂ : Http.Request) (now : Instant), s₁.verifier = s₂.verifier →
      r₁.LooksLike r₂ → s₁.verifier.TurnsAway now.seconds (r₁.header? "authorization") →
      (s₁.respondUnder policy routes r₁ now).1 = (s₂.respondUnder policy routes r₂ now).1 ∧
        (s₁.respondUnder policy routes r₁ now).2.database = s₁.database ∧
        (s₂.respondUnder policy routes r₂ now).2.database = s₂.database) ∧
    ∀ (s : Service) (r : Http.Request) (now : Instant) (visitor : Identity),
      (s.identify r now).1 = .ok visitor → r.method = "POST" →
      Route.find? routes r.target = some .createOrganization → r.Misfits Provisioning.Request →
      (s.respondUnder policy routes r now).1 = policy.decorate r
          (.json 400 (.object
            [("error", .object [("code", .text "VALIDATION_ERROR"),
              ("message", .text "Invalid request body")])])) ∧
        (s.respondUnder policy routes r now).2.database = s.database := by
  constructor
  · intro s₁ s₂ r₁ r₂ now hverifier hlike haway
    obtain ⟨response, hrespond⟩ := respondUnder_of_turnsAway policy routes haway
    obtain ⟨hanswer₁, hleft₁⟩ := hrespond s₁ r₁ rfl ⟨rfl, rfl, rfl, rfl⟩
    obtain ⟨hanswer₂, hleft₂⟩ := hrespond s₂ r₂ hverifier.symm hlike
    exact ⟨hanswer₁.trans hanswer₂.symm, hleft₁, hleft₂⟩
  · intro s r now visitor hvisitor hpost hroute hbody
    have hreached : Route.reached? routes r = some .createOrganization :=
      Route.reached?_eq_some_iff.mpr ⟨hroute, Route.takes_createOrganization.mpr hpost⟩
    obtain ⟨hanswer, hleft⟩ := respondUnder_createOrganization policy hreached s now
    have hserved : s.served .createOrganization r now = (.ofFailure invalidBody, s.database) := by
      rw [served_createOrganization, hvisitor]
      simp only [Request.misfits_iff.mp hbody]
    rw [hanswer, hleft, hserved]
    exact ⟨rfl, rfl⟩

/-- The service of the sample after its visitor got an organization. -/
def sampleSettled : Service :=
  { sample with database := sampleAnswer.2.database }

/-- Somebody with an unknown token asks where they belong. -/
def sampleStranger : Http.Request :=
  ⟨"GET", ⟨Text.Utf8.ofString "/check-user-organization"⟩,
    [⟨"authorization", Text.Utf8.ofString "Bearer x"⟩], []⟩

/-- The visitor's request with a body that breaks off. -/
def sampleFragment : Http.Request :=
  { sampleWish with body := sampleWish.body.take 9 }

/-- A stranger cannot tell whether the sample's visitor has an organization, and a body that breaks off
does not reach the database. -/
theorem settled_at_the_gate_sample :
    sample.database.store ≠ sampleSettled.database.store ∧
      (sample.respondUnder samplePolicy Route.all sampleStranger sampleInstant).1 =
        (sampleSettled.respondUnder samplePolicy Route.all
          { sampleStranger with body := sampleWish.body } sampleInstant).1 ∧
      (sample.respondUnder samplePolicy Route.all sampleFragment sampleInstant).2.database =
        sample.database := by
  have hstores : sample.database.store ≠ sampleSettled.database.store := by decide +kernel
  have haway : sample.verifier.TurnsAway sampleInstant.seconds
      (sampleStranger.header? "authorization") := by
    apply Verifier.turnsAway_iff.mpr
    exact ⟨.invalidToken, by decide +kernel⟩
  have hvisitor : (sample.identify sampleFragment sampleInstant).1 =
      .ok Provisioning.sampleVisitor := by decide +kernel
  have hbody : sampleFragment.Misfits Provisioning.Request := by
    apply Request.misfits_iff.mpr
    decide +kernel
  obtain ⟨hgate, hmisfit⟩ := settled_at_the_gate samplePolicy Route.all
  refine ⟨hstores, ?_, ?_⟩
  · exact (hgate sample sampleSettled sampleStranger { sampleStranger with body := sampleWish.body }
      sampleInstant rfl ⟨rfl, rfl, rfl, rfl⟩ haway).1
  · exact (hmisfit sample sampleFragment sampleInstant Provisioning.sampleVisitor hvisitor rfl
      (by decide) hbody).2

end Service

end TenantOnboarding
