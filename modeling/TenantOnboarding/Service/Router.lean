import TenantOnboarding.Http.Cors
import TenantOnboarding.Service.Basic

/-!
# Routes

Which path and method lead to which handler. Paths are compared byte for byte. A path that takes `GET`
also takes `HEAD`, which is answered without a body; any other method is told which ones the path
takes.
-/

namespace TenantOnboarding

open TenantOnboarding.Http

/-- What may be asked for. -/
inductive Route where
  | health
  | exchangeToken
  | checkMembership
  | createOrganization
  deriving Repr, DecidableEq

namespace Route

/-- The path of a route. -/
def path : Route → String
  | health => "/health"
  | exchangeToken => "/token-exchange"
  | checkMembership => "/check-user-organization"
  | createOrganization => "/create-organization"

/-- Whether a route is read and not written to. -/
def isRead : Route → Bool
  | health | checkMembership => true
  | exchangeToken | createOrganization => false

/-- Whether a route takes a method. -/
def takes (route : Route) (method : String) : Bool :=
  if route.isRead then method == "GET" || method == "HEAD" else method == "POST"

/-- The header that tells which methods a route takes. -/
def allowed (route : Route) : List (String × String) :=
  [("allow", if route.isRead then "GET,HEAD" else "POST")]

/-- The routes of the organizations alone. -/
def ofOrganizations : List Route := [exchangeToken, checkMembership, createOrganization]

/-- All routes. -/
def all : List Route := health :: ofOrganizations

/-- The route of a target among some routes. -/
def find? (routes : List Route) (target : Target) : Option Route :=
  routes.find? fun route => Text.Utf8.ofString route.path == target.path

end Route

/-- The answer to a request of a method: `HEAD` is answered without a body. -/
def withoutBody (method : String) (response : Response) : Response :=
  if method = "HEAD" then { response with body := .empty } else response

/-- The answer of a service that is alive. -/
def healthResponse : Response := .text 200 "OK"

namespace Service

/-- The answer of the handler that a route leads to. -/
def handle (s : Service) (route : Route) (r : Request) (now : Instant) : Response × Service :=
  match route with
  | .health => (healthResponse, s)
  | .exchangeToken => s.exchangeToken r now
  | .checkMembership => s.checkMembership r now
  | .createOrganization => s.createOrganization r now

/-- The answer to a request, by some routes. -/
def respond (s : Service) (routes : List Route) (r : Request) (now : Instant) : Response × Service :=
  match Route.find? routes r.target with
  | none => (.bare 404, s)
  | some route =>
    if route.takes r.method then
      let (response, s) := s.handle route r now
      (withoutBody r.method response, s)
    else ({ Response.bare 405 with headers := route.allowed }, s)

/-- The answer to a request under a cross-origin policy. A request for options reaches no handler. -/
def respondUnder (s : Service) (policy : CorsPolicy) (routes : List Route) (r : Request)
    (now : Instant) : Response × Service :=
  if CorsPolicy.answersItself r then
    let allowed := match Route.find? routes r.target with
      | some route => route.allowed
      | none => []
    (policy.options r allowed, s)
  else
    let (response, s) := s.respond routes r now
    (policy.decorate r response, s)

end Service

/-- The answer of a router whose only route tells visitors who they are. -/
def whoAmI (v : Verifier) (r : Request) (now : Instant) : Response × Verifier :=
  if Text.Utf8.ofString "/me" ≠ r.target.path then (.bare 404, v)
  else if r.method ≠ "GET" ∧ r.method ≠ "HEAD" then
    ({ Response.bare 405 with headers := [("allow", "GET,HEAD")] }, v)
  else
    let (outcome, v) := v.authenticate (r.header? "authorization") now.seconds
    let response := match outcome with
      | .error refusal => Response.ofRefusal refusal
      | .ok identity => .json 200 (Json.Coded.toValue identity)
    (withoutBody r.method response, v)

end TenantOnboarding
