import TenantOnboarding.Http.JsonBody
import TenantOnboarding.Identity.Verifier
import TenantOnboarding.Instant
import TenantOnboarding.Provisioning.Basic
import TenantOnboarding.Session

/-!
# Handlers

The three things that a visitor may ask for: where their email belongs, an organization of their own,
and a session token. Each handler recognises the visitor before it asks the database anything.
-/

namespace TenantOnboarding

open TenantOnboarding.Http

/-- The service: what recognises visitors, what issues session tokens, what puts faults in words, and the
database. -/
structure Service where
  verifier : Verifier
  sessions : Session.Issuer
  print : Provisioning.Printer
  database : Database

namespace Service

/-- The identity of the visitor who sends a request. -/
def identify (s : Service) (r : Request) (now : Instant) : Except Refusal Identity × Service :=
  let (outcome, verifier) := s.verifier.authenticate (r.header? "authorization") now.seconds
  (outcome, { s with verifier })

/-- Does some work with the database. -/
def work {ε α : Type} (s : Service) (w : Work ε α) : Except ε α × Service :=
  let (outcome, database) := w.run s.database
  (outcome, { s with database })

/-! ## Memberships -/

/-- Tells a visitor where their email belongs. -/
def checkMembership (s : Service) (r : Request) (now : Instant) : Response × Service :=
  match s.identify r now with
  | (.error refusal, s) => (.ofRefusal refusal, s)
  | (.ok identity, s) =>
    match s.work (Directory.membership identity.email) with
    | (.error failure, s) => (.ofFailure failure, s)
    | (.ok membership, s) => (.json 200 (Json.Coded.toValue membership), s)

/-! ## Organizations -/

/-- Provides a visitor with an organization. -/
def createOrganization (s : Service) (r : Request) (now : Instant) : Response × Service :=
  match s.identify r now with
  | (.error refusal, s) => (.ofRefusal refusal, s)
  | (.ok identity, s) =>
    match r.jsonBody? Provisioning.Request with
    | none => (.ofFailure invalidBody, s)
    | some request =>
      let (report, database) := (Provisioning.provide identity request s.print).run s.database
      let s := { s with database }
      match report.outcome with
      | .error failure => (.ofFailure failure, s)
      | .ok created => (.json 201 created.toValue, s)

/-! ## Sessions -/

/-- The token of an authorization header, for a visitor who wants to exchange it. -/
def exchangedToken (header : Option (List UInt8)) : Except Failure String :=
  match header with
  | none => .error (.validation "Authorization header is required")
  | some value =>
    match Bearer.token value with
    | .error _ => .error (.validation "Bearer token is required")
    | .ok token => .ok token

/-- The answer that carries a session token. -/
def tokenResponse (token : String) : Response :=
  .json 200 (.object [("token", .text token)])

/-- Gives a visitor a session token for their identity token. -/
def exchangeToken (s : Service) (r : Request) (now : Instant) : Response × Service :=
  match exchangedToken (r.header? "authorization") with
  | .error failure => (.ofFailure failure, s)
  | .ok token =>
    let (outcome, verifier) := s.verifier.verify token now.seconds
    let s := { s with verifier }
    match outcome with
    | .error refusal => (.ofFailure (.ofRefusal refusal), s)
    | .ok identity =>
      match s.work (Directory.user? identity.email) with
      | (.error failure, s) => (.ofFailure failure, s)
      | (.ok none, s) => (.ofFailure (.notFound "User not found"), s)
      | (.ok (some user), s) =>
        (tokenResponse (s.sessions.issueAt user.id user.email identity.subject identity.name now), s)

end Service

end TenantOnboarding
