import TenantOnboarding.Http.Message
import TenantOnboarding.Text.Blank

/-!
# Cross-origin policy

Pages of other origins may read answers only if their origin is listed. The list is a text of origins
with commas between them; an item that cannot stand in a header is passed over. A request that asks for
the options of a path is answered here and reaches no handler; every other answer is the handler's with
headers added.
-/

namespace TenantOnboarding.Http

/-- A text cut at its commas. -/
def splitAtCommas (cs : List Char) : List (List Char) :=
  cs.splitOn ','

/-- Whether a text can stand in the value of a header. -/
def canBeValue (s : String) : Bool :=
  (Text.Utf8.ofString s).all isValueByte

/-- The origins that a text lists. -/
def parseOrigins (text : String) : List String :=
  (((splitAtCommas text.toList).map fun item => String.ofList (Text.trimEnd (Text.trimStart item))).filter
    (!·.isEmpty)).filter canBeValue

/-- Which origins may read answers. No origin in it is the star that would stand for all. -/
structure CorsPolicy where
  origins : List String
  noStar : "*" ∉ origins

namespace CorsPolicy

/-- The policy that a text describes, unless it lists the star. -/
def ofText? (text : String) : Option CorsPolicy :=
  if h : "*" ∈ parseOrigins text then none else some ⟨parseOrigins text, h⟩

/-- What is said of a list with a star. -/
def starMessage : String :=
  "Wildcard origin (\x60*\x60) cannot be passed to \x60AllowOrigin::list\x60. Use \x60AllowOrigin::any()\x60 instead"

/-- The listed origin that a request comes from. -/
def originOf? (p : CorsPolicy) (r : Request) : Option String :=
  match r.header? "origin" with
  | some value => p.origins.find? fun origin => Text.Utf8.ofString origin == value
  | none => none

/-- The headers that every answer gets. -/
def commonHeaders (p : CorsPolicy) (r : Request) : List (String × String) :=
  (match p.originOf? r with
    | some origin => [("access-control-allow-origin", origin)]
    | none => []) ++
  [("vary", "origin, access-control-request-method, access-control-request-headers")]

/-- The headers by which answers tell what may be asked. -/
def optionHeaders : List (String × String) :=
  [("access-control-allow-methods", "GET,POST,HEAD"),
    ("access-control-allow-headers",
      "origin,x-requested-with,accept,authorization,content-type,content-length," ++
      "x-apollo-tracing,x-postgraphile-explain")]

/-- The header by which answers tell which of their headers a page may read. -/
def exposedHeaders : List (String × String) :=
  [("access-control-expose-headers", "x-graphql-event-stream")]

/-- Whether a request is answered by the policy itself. -/
def answersItself (r : Request) : Bool :=
  r.method == "OPTIONS"

/-- The answer to a request for options. -/
def options (p : CorsPolicy) (r : Request) (allowed : List (String × String)) : Response :=
  ⟨200, p.commonHeaders r ++ optionHeaders ++ allowed, .empty⟩

/-- The answer of a handler with the headers of the policy. -/
def decorate (p : CorsPolicy) (r : Request) (inner : Response) : Response :=
  { inner with headers := inner.headers ++ p.commonHeaders r ++ exposedHeaders }

end CorsPolicy

end TenantOnboarding.Http
