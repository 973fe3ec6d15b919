import TenantOnboarding.Proofs.Service.Answers
import TenantOnboarding.Proofs.Service.Requests
import TenantOnboarding.Proofs.Text.RoundTrip
import TenantOnboarding.Server.Start

/-!
# Whose pages may read answers

The policy stands in front of all routes. It adds its headers to every answer, and answers requests for
options by itself.

* `CorsPolicy.ofText?_eq_none_iff`: a text describes no policy exactly if one of its items is a star.
* `CorsPolicy.valuesOf_decorate` and `valuesOf_options`: the origin that may read an answer is the listed
  one that the request comes from. The handlers themselves never name one (`Service.respond_plain`).
* **`guards_origins`**: the policy of a text, over all requests and services.
-/

namespace TenantOnboarding

namespace Http

/-! ## Lists of origins -/

/-- The items of a text with commas between them, without the blanks around them. -/
def itemsOf (text : String) : List String :=
  (splitAtCommas text.toList).map fun item => Text.trim (String.ofList item)

/-- The origins of a text are those of its items that can stand in a header. -/
theorem mem_parseOrigins_iff {text origin : String} :
    origin ∈ parseOrigins text ↔
      origin ∈ itemsOf text ∧ origin.isEmpty = false ∧ canBeValue origin = true := by
  have htrim : (fun item => String.ofList (Text.trimEnd (Text.trimStart item))) =
      fun item => Text.trim (String.ofList item) := by
    funext item
    rw [Text.trim, String.toList_ofList]
  unfold parseOrigins itemsOf
  rw [htrim, List.mem_filter, List.mem_filter, and_assoc, Bool.not_eq_true']

namespace CorsPolicy

variable {text : String} {policy : CorsPolicy}

/-- A text describes no policy exactly if one of its items is the star. -/
theorem ofText?_eq_none_iff : ofText? text = none ↔ "*" ∈ itemsOf text := by
  have hstar : "*" ∈ parseOrigins text ↔ "*" ∈ itemsOf text := by
    rw [mem_parseOrigins_iff]
    exact and_iff_left ⟨by decide, by decide⟩
  unfold ofText?
  rw [← hstar]
  constructor
  · intro h
    split at h
    · assumption
    · cases h
  · intro h
    exact dif_pos h

/-- The policy of a text lists its origins. -/
theorem origins_of_ofText? (h : ofText? text = some policy) : policy.origins = parseOrigins text := by
  unfold ofText? at h
  split at h
  · cases h
  · cases h
    rfl

variable {r : Request}

/-- The origin of a request is a listed one, byte for byte. -/
theorem originOf?_eq_some {origin : String} (h : policy.originOf? r = some origin) :
    origin ∈ policy.origins ∧ r.header? "origin" = some (Text.Utf8.ofString origin) := by
  unfold originOf? at h
  split at h
  · rename_i value hvalue
    have hsame : Text.Utf8.ofString origin = value := by simpa using List.find?_some h
    exact ⟨List.mem_of_find?_eq_some h, hsame ▸ hvalue⟩
  · cases h

/-- The origin of a request is found if it is listed. -/
theorem originOf?_ne_none {origin : String} (hlisted : origin ∈ policy.origins)
    (horigin : r.header? "origin" = some (Text.Utf8.ofString origin)) :
    policy.originOf? r ≠ none := by
  unfold originOf?
  rw [horigin]
  intro hnone
  exact List.find?_eq_none.mp hnone origin hlisted BEq.rfl

end CorsPolicy

/-! ## The origin that may read an answer -/

/-- The header that names the origin that may read an answer. -/
def allowOrigin : String := "access-control-allow-origin"

/-- The values of the headers of a name. -/
def Response.valuesOf (response : Response) (name : String) : List String :=
  (response.headers.filter (·.1 == name)).map (·.2)

/-- The answer names no origin that may read it. -/
def Response.IsPlain (response : Response) : Prop :=
  ∀ header ∈ response.headers, header.1 ≠ allowOrigin

namespace CorsPolicy

variable (policy : CorsPolicy) (r : Request)

/-- Of the headers that every answer gets, one names the origin of the request. -/
theorem filter_commonHeaders :
    ((policy.commonHeaders r).filter (·.1 == allowOrigin)).map (·.2) =
      (policy.originOf? r).toList := by
  unfold commonHeaders
  rcases policy.originOf? r with _ | origin <;> rfl

/-- Headers that name no origin do not count. -/
theorem filter_of_plain {headers : List (String × String)}
    (h : ∀ header ∈ headers, header.1 ≠ allowOrigin) :
    headers.filter (·.1 == allowOrigin) = [] := by
  rw [List.filter_eq_nil_iff]
  intro header hheader
  simpa using h header hheader

/-- An answer of a handler gets the origin of the request. -/
theorem valuesOf_decorate {inner : Response} (h : inner.IsPlain) :
    (policy.decorate r inner).valuesOf allowOrigin = (policy.originOf? r).toList := by
  have hexposed : exposedHeaders.filter (·.1 == allowOrigin) = [] := by decide
  unfold Response.valuesOf decorate
  rw [List.filter_append, List.filter_append, filter_of_plain h, hexposed, List.nil_append,
    List.append_nil, filter_commonHeaders]

/-- The answer to a request for options gets the origin of the request. -/
theorem valuesOf_options {allowed : List (String × String)}
    (h : ∀ header ∈ allowed, header.1 ≠ allowOrigin) :
    (policy.options r allowed).valuesOf allowOrigin = (policy.originOf? r).toList := by
  have hoptions : optionHeaders.filter (·.1 == allowOrigin) = [] := by decide
  unfold Response.valuesOf options
  rw [List.filter_append, List.filter_append, filter_of_plain h, hoptions, List.append_nil,
    List.append_nil, filter_commonHeaders]

end CorsPolicy

end Http

open Http

/-! ## The handlers -/

/-- The methods of a route name no origin. -/
theorem Route.allowed_plain (route : Route) : ∀ header ∈ route.allowed, header.1 ≠ allowOrigin := by
  unfold allowed
  intro header hheader
  rw [List.mem_singleton.mp hheader]
  show "allow" ≠ allowOrigin
  decide

namespace Http.Response

/-- An answer in JSON names no origin. -/
theorem isPlain_json (status : Nat) (v : Json.Value) : (json status v).IsPlain := by
  intro header hheader
  rw [List.mem_singleton.mp hheader]
  show "content-type" ≠ allowOrigin
  decide

/-- An answer of plain text names no origin. -/
theorem isPlain_text (status : Nat) (s : String) : (text status s).IsPlain := by
  intro header hheader
  rw [List.mem_singleton.mp hheader]
  show "content-type" ≠ allowOrigin
  decide

/-- An answer without a body has the same headers. -/
theorem isPlain_withoutBody {response : Response} (h : response.IsPlain) (method : String) :
    (withoutBody method response).IsPlain := by
  unfold withoutBody
  split <;> exact h

end Http.Response

namespace Service

variable (s : Service) (routes : List Route) (r : Http.Request) (now : Instant)

/-- No handler names an origin that may read its answer. -/
theorem handle_plain (route : Route) : (s.handle route r now).1.IsPlain := by
  show (s.served route r now).1.IsPlain
  cases route with
  | health => exact Response.isPlain_text _ _
  | checkMembership =>
    rw [served_checkMembership]
    split
    · exact Response.isPlain_json _ _
    · split <;> exact Response.isPlain_json _ _
  | createOrganization =>
    rw [served_createOrganization]
    split
    · exact Response.isPlain_json _ _
    · split
      · exact Response.isPlain_json _ _
      · simp only
        split <;> exact Response.isPlain_json _ _
  | exchangeToken =>
    rw [served_exchangeToken]
    split
    · exact Response.isPlain_json _ _
    · split
      · exact Response.isPlain_json _ _
      · split <;> exact Response.isPlain_json _ _

/-- **No answer without the policy names an origin that may read it**, errors included. -/
theorem respond_plain : (s.respond routes r now).1.IsPlain := by
  unfold respond
  split
  · exact fun _ hheader => absurd hheader List.not_mem_nil
  · rename_i route _
    split
    · exact Response.isPlain_withoutBody (s.handle_plain r now route) r.method
    · exact route.allowed_plain

/-! ## Behind the policy -/

variable (policy : CorsPolicy)

/-- A request for options is answered by the policy. -/
theorem respondUnder_options (h : r.method = "OPTIONS") :
    s.respondUnder policy routes r now =
      (policy.options r (((Route.find? routes r.target).map Route.allowed).getD []), s) := by
  have hself : CorsPolicy.answersItself r = true := by rw [CorsPolicy.answersItself, h]; rfl
  unfold respondUnder
  rw [if_pos hself]
  cases Route.find? routes r.target <;> rfl

/-- Any other request is answered by the router, and the policy adds its headers. -/
theorem respondUnder_of_ne (h : r.method ≠ "OPTIONS") :
    s.respondUnder policy routes r now =
      (policy.decorate r (s.respond routes r now).1, (s.respond routes r now).2) := by
  have hself : ¬CorsPolicy.answersItself r = true := by simpa [CorsPolicy.answersItself] using h
  unfold respondUnder
  rw [if_neg hself]

/-- **The origin that may read an answer is the listed one that the request comes from.** -/
theorem valuesOf_respondUnder :
    (s.respondUnder policy routes r now).1.valuesOf allowOrigin = (policy.originOf? r).toList := by
  by_cases h : r.method = "OPTIONS"
  · rw [respondUnder_options s routes r now policy h]
    apply policy.valuesOf_options
    cases Route.find? routes r.target with
    | none => exact fun _ hheader => absurd hheader List.not_mem_nil
    | some route => exact route.allowed_plain
  · rw [respondUnder_of_ne s routes r now policy h]
    exact policy.valuesOf_decorate r (s.respond_plain routes r now)

end Service

/-- What a policy for some origins makes of the answers of a service. -/
structure Service.GuardsOrigins (s : Service) (policy : CorsPolicy) (origins : List String)
    (routes : List Route) (r : Http.Request) (now : Instant) : Prop where
  /-- An origin is named exactly if the request comes from a listed one, byte for byte. -/
  named_iff : (s.respondUnder policy routes r now).1.valuesOf allowOrigin ≠ [] ↔
    ∃ origin ∈ origins, r.header? "origin" = some (Text.Utf8.ofString origin)
  /-- Then it is this origin, named once, and never the star. -/
  named : ∀ value ∈ (s.respondUnder policy routes r now).1.valuesOf allowOrigin,
    (s.respondUnder policy routes r now).1.valuesOf allowOrigin = [value] ∧ value ∈ origins ∧
      r.header? "origin" = some (Text.Utf8.ofString value) ∧ value ≠ "*"
  /-- A request for options reaches no handler: the service stays as it is, verifier and database
  included, and the answer does not depend on it. -/
  options : r.method = "OPTIONS" →
    (s.respondUnder policy routes r now).1.status = 200 ∧
      (s.respondUnder policy routes r now).2 = s ∧
      ∀ (s' : Service) (now' : Instant),
        (s'.respondUnder policy routes r now').1 = (s.respondUnder policy routes r now).1
  /-- Any other request is answered as without the policy, but for the headers. -/
  others : r.method ≠ "OPTIONS" →
    (s.respondUnder policy routes r now).1.status = (s.respond routes r now).1.status ∧
      (s.respondUnder policy routes r now).1.body = (s.respond routes r now).1.body ∧
      (s.respondUnder policy routes r now).2 = (s.respond routes r now).2

/-- A server does not start exactly if its origins describe no policy. -/
theorem Server.listen_origins_iff (settings : Settings) (found : Server.Surroundings)
    (db : Database) :
    (∃ messages, Server.listen settings found db = (messages, .error .origins)) ↔
      CorsPolicy.ofText? settings.allowedOrigins = none := by
  unfold Server.listen
  rcases CorsPolicy.ofText? settings.allowedOrigins with _ | policy
  · simp
  · simp only
    split <;> simp

/-- **The policy of a text.** There is none exactly if an item of the text is a star, and then a server
with these origins does not start. Otherwise the policy guards the answers to all requests. -/
theorem guards_origins (text : String) :
    (CorsPolicy.ofText? text = none ↔ "*" ∈ itemsOf text) ∧
      (∀ (settings : Settings) (found : Server.Surroundings) (db : Database),
        settings.allowedOrigins = text →
          ((∃ messages, Server.listen settings found db = (messages, .error .origins)) ↔
            "*" ∈ itemsOf text)) ∧
      ∀ policy, CorsPolicy.ofText? text = some policy →
        ∀ (s : Service) (routes : List Route) (r : Http.Request) (now : Instant),
          s.GuardsOrigins policy (parseOrigins text) routes r now := by
  refine ⟨CorsPolicy.ofText?_eq_none_iff, ?_, ?_⟩
  · rintro settings found db rfl
    rw [Server.listen_origins_iff, CorsPolicy.ofText?_eq_none_iff]
  intro policy hpolicy s routes r now
  have horigins := CorsPolicy.origins_of_ofText? hpolicy
  have hvalues := s.valuesOf_respondUnder routes r now policy
  refine ⟨?_, ?_, ?_, ?_⟩
  · rw [hvalues, ← horigins]
    constructor
    · intro hnamed
      rcases horigin : policy.originOf? r with _ | origin
      · rw [horigin] at hnamed
        exact absurd rfl hnamed
      · exact ⟨origin, CorsPolicy.originOf?_eq_some horigin⟩
    · rintro ⟨origin, hlisted, horigin⟩
      rw [Ne, Option.toList_eq_nil_iff]
      exact CorsPolicy.originOf?_ne_none hlisted horigin
  · intro value hvalue
    rw [hvalues, Option.mem_toList] at hvalue
    obtain ⟨hlisted, horigin⟩ := CorsPolicy.originOf?_eq_some hvalue
    rw [hvalues, Option.mem_def.mp hvalue, ← horigins]
    refine ⟨rfl, hlisted, horigin, ?_⟩
    rintro rfl
    exact policy.noStar hlisted
  · intro hmethod
    rw [s.respondUnder_options routes r now policy hmethod]
    refine ⟨rfl, rfl, fun s' now' => ?_⟩
    rw [s'.respondUnder_options routes r now' policy hmethod]
  · intro hmethod
    rw [s.respondUnder_of_ne routes r now policy hmethod]
    exact ⟨rfl, rfl, rfl⟩

namespace Service

/-- A list of two origins with a blank item between them. -/
def sampleOrigins : String := " https://a.example.com, ,https://b.example.com"

/-- The sample's visitor asks where they belong, from a page of the second origin. -/
def sampleForeign : Http.Request :=
  { sampleCheck "GET" with
    headers := ⟨"origin", Text.Utf8.ofString "https://b.example.com"⟩ :: (sampleCheck "GET").headers }

/-- The sample's origins describe a policy, and the answer to the visitor names their page's origin. -/
theorem guards_origins_sample :
    ∃ policy, CorsPolicy.ofText? sampleOrigins = some policy ∧
      (sample.respondUnder policy Route.all sampleForeign sampleInstant).1.valuesOf allowOrigin =
        ["https://b.example.com"] := by
  obtain ⟨hnone, -, hguards⟩ := guards_origins sampleOrigins
  have hstar : "*" ∉ itemsOf sampleOrigins := by decide +kernel
  obtain ⟨policy, hpolicy⟩ := Option.ne_none_iff_exists'.mp fun h => hstar (hnone.mp h)
  have hguarded := hguards policy hpolicy sample Route.all sampleForeign sampleInstant
  have hlisted : "https://b.example.com" ∈ parseOrigins sampleOrigins := by decide +kernel
  obtain ⟨value, hvalue⟩ :=
    List.exists_mem_of_ne_nil _ (hguarded.named_iff.mpr ⟨_, hlisted, rfl⟩)
  obtain ⟨hvalues, -, horigin, -⟩ := hguarded.named value hvalue
  refine ⟨policy, hpolicy, hvalues.trans ?_⟩
  have hbytes : Text.Utf8.ofString "https://b.example.com" = Text.Utf8.ofString value :=
    Option.some.inj horigin
  rw [Text.Utf8.ofString_injective hbytes]

end Service

end TenantOnboarding
