import TenantOnboarding.Service.Router
import TenantOnboarding.Tls.Acceptor

/-!
# Visits

A visitor connects, encrypted or not, and asks for a path. They get an answer only if they speak as the
server listens; over an encrypted connection both sides choose the best version that both know, and a
protocol that both speak if the visitor names any.
-/

namespace TenantOnboarding.Server

open TenantOnboarding.Http

/-- The versions of encryption. -/
inductive TlsVersion where
  | v12
  | v13
  deriving Repr, DecidableEq

/-- How a visitor connects. -/
inductive Greeting where
  /-- Unencrypted. -/
  | plain
  /-- Encrypted, with the best version and the protocols that the visitor knows. -/
  | encrypted (best : TlsVersion) (protocols : List String)
  /-- The visitor connects and says nothing. -/
  | silent
  deriving Repr, DecidableEq

/-- What was agreed for a connection. -/
inductive Agreement where
  | plain
  | encrypted (version : TlsVersion) (protocol : Option String)
  deriving Repr, DecidableEq

/-- What is agreed with a visitor by a server that listens encrypted, or not. -/
def agree (isEncrypted : Bool) : Greeting → Option Agreement
  | .plain => if isEncrypted then none else some .plain
  | .encrypted best protocols =>
    if !isEncrypted then none
    else if protocols.isEmpty then some (.encrypted best none)
    else match Tls.Acceptor.protocols.find? protocols.contains with
      | some protocol => some (.encrypted best (some protocol))
      | none => none
  | .silent => none

/-- What a visit comes to. -/
inductive Visit where
  /-- The two sides did not understand each other. -/
  | failed
  /-- The visitor is connected and has asked for nothing. -/
  | connected
  /-- The visitor got an answer. -/
  | answered (agreement : Agreement) (response : Response)

/-- A server that listens. -/
structure Running where
  service : Service
  policy : CorsPolicy
  isEncrypted : Bool

/-- The answer to a request. -/
def Running.respond (s : Running) (r : Request) (now : Instant) : Response × Running :=
  let (response, service) := s.service.respondUnder s.policy Route.all r now
  (response, { s with service })

/-- A visit that asks for something. -/
def Running.visit (s : Running) (greeting : Greeting) (r : Request) (now : Instant) :
    Visit × Running :=
  match greeting, agree s.isEncrypted greeting with
  | .silent, _ => (.connected, s)
  | _, none => (.failed, s)
  | _, some agreement =>
    let (response, s) := s.respond r now
    (.answered agreement response, s)

end TenantOnboarding.Server
