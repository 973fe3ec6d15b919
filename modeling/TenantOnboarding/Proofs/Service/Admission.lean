import TenantOnboarding.Proofs.Google.Calls
import TenantOnboarding.Proofs.Identity.Bearer
import TenantOnboarding.Proofs.Service.Requests

/-!
# Two ways to recognise a visitor

The exchange of tokens looks at the authorization header by itself, while the other handlers leave that to
`identify`. Both come to the same.

* `Credentials` are what the headers of a request show of its visitor, and `Request.Shows` says which of
  them a request shows, by the first authorization header among all headers.
* `Refusal.OfVerifier` lists why a token is refused, with the statuses (`Verifier.ofVerifier_of_verify`).
* `identifyForExchange` is the part of the exchange in front of its lookup, and `exchangeFor` the rest
  (`exchangeToken_eq`).
* `identify_of_shows` and `identifyForExchange_of_shows`: either way is settled by the credentials, and
  the verifier is asked about the same token.
* **`recognises_alike`** compares the two, their answers to visitors who are turned away included.
-/

namespace TenantOnboarding

open Http Text

/-! ## Headers -/

namespace Http.Request

variable {r : Request} {name : String} {value : List UInt8}

/-- A request has a header of this name and value, and none of the name before it. -/
def HasFirst (r : Request) (name : String) (value : List UInt8) : Prop :=
  ∃ before behind, r.headers = before ++ ⟨name, value⟩ :: behind ∧ ∀ h ∈ before, h.name ≠ name

/-- The first header of a name is found. -/
theorem header?_eq_some_iff : r.header? name = some value ↔ r.HasFirst name value := by
  unfold header? HasFirst
  rw [Option.map_eq_some_iff]
  simp only [List.find?_eq_some_iff_append, beq_iff_eq, Bool.not_eq_true', beq_eq_false_iff_ne]
  constructor
  · rintro ⟨⟨_, _⟩, ⟨rfl, before, behind, hheaders, hother⟩, rfl⟩
    exact ⟨before, behind, hheaders, hother⟩
  · rintro ⟨before, behind, hheaders, hother⟩
    exact ⟨⟨name, value⟩, ⟨rfl, before, behind, hheaders, hother⟩, rfl⟩

/-- No header of a name is found if there is none. -/
theorem header?_eq_none_iff : r.header? name = none ↔ ∀ h ∈ r.headers, h.name ≠ name := by
  simp [header?, List.find?_eq_none]

end Http.Request

/-- What the headers of a request show of its visitor. -/
inductive Credentials where
  /-- Nothing. -/
  | missing
  /-- An authorization that carries no token. -/
  | malformed
  /-- A token. -/
  | bearer (token : String)

/-- A request shows these credentials: the first authorization header counts. -/
inductive Http.Request.Shows (r : Request) : Credentials → Prop where
  | missing (none : ∀ h ∈ r.headers, h.name ≠ "authorization") : Shows r .missing
  | malformed {value : List UInt8} (first : r.HasFirst "authorization" value)
      (none : ∀ token, ¬Bearer.Carries value token) : Shows r .malformed
  | bearer {value : List UInt8} {token : String} (first : r.HasFirst "authorization" value)
      (carries : Bearer.Carries value token) : Shows r (.bearer token)

/-- Every request shows credentials. -/
theorem Http.Request.exists_shows (r : Request) : ∃ credentials, r.Shows credentials := by
  cases hheader : r.header? "authorization" with
  | none => exact ⟨.missing, .missing (header?_eq_none_iff.mp hheader)⟩
  | some value =>
    have hfirst := header?_eq_some_iff.mp hheader
    by_cases hcarries : ∃ token, Bearer.Carries value token
    · obtain ⟨token, hcarries⟩ := hcarries
      exact ⟨.bearer token, .bearer hfirst hcarries⟩
    · exact ⟨.malformed, .malformed hfirst fun token h => hcarries ⟨token, h⟩⟩

/-! ## Verifiers -/

/-- A verifier may refuse a token like this, and the answer has this status. -/
inductive Refusal.OfVerifier : Refusal → Nat → Prop where
  | invalidToken : OfVerifier .invalidToken 401
  | missingEmail : OfVerifier .missingEmail 401
  | keysUnavailable : OfVerifier .keysUnavailable 500

section refusals

variable {token : String} {now : Int} {refusal : Refusal}

/-- Claims that give no identity lack a verified email. -/
theorem Google.Claims.eq_missingEmail {c : Claims} (h : c.identity = .error refusal) :
    refusal = .missingEmail := by
  unfold identity at h
  dsimp only at h
  split at h
  · cases h
    rfl
  · split at h
    · cases h
      rfl
    · cases h

/-- With a key at hand, a token is refused for one of a verifier's reasons. -/
theorem Google.Verifier.ofVerifier_of_identityBy {v : Verifier} {key : Key}
    (h : v.identityBy key now token = .error refusal) : refusal.OfVerifier refusal.status := by
  unfold identityBy at h
  split at h
  · cases h
    exact .keysUnavailable
  · split at h
    · cases h
      exact .invalidToken
    · obtain rfl := Claims.eq_missingEmail h
      exact .missingEmail

/-- Google's tokens are refused for one of a verifier's reasons. -/
theorem Google.Verifier.ofVerifier_of_verify {v : Verifier}
    (h : (v.verify token now).1 = .error refusal) : refusal.OfVerifier refusal.status := by
  have hanswers := v.verify_answers token now
  generalize v.verify token now = answer at h hanswers
  cases hanswers with
  | unnamed | absent =>
    cases h
    exact .invalidToken
  | known | fetched => exact ofVerifier_of_identityBy h
  | failed =>
    cases h
    exact .keysUnavailable

/-- The tokens of a table are refused for one of a verifier's reasons. -/
theorem TokenTable.ofVerifier_of_verify {t : TokenTable} (h : t.verify token = .error refusal) :
    refusal.OfVerifier refusal.status := by
  unfold verify at h
  split at h
  · cases h
    exact .invalidToken
  · split at h
    · cases h
      exact .missingEmail
    · cases h

/-- Whoever verifies a token refuses it for one of three reasons. -/
theorem Verifier.ofVerifier_of_verify {v : Verifier}
    (h : (v.verify token now).1 = .error refusal) : refusal.OfVerifier refusal.status := by
  cases v with
  | table t => exact TokenTable.ofVerifier_of_verify h
  | google v => exact Google.Verifier.ofVerifier_of_verify h

end refusals

/-- A refusal has one status, whichever way the visitor is told. -/
theorem Http.Response.status_ofFailure_ofRefusal (refusal : Refusal) :
    (ofFailure (.ofRefusal refusal)).status = (ofRefusal refusal).status := by
  cases refusal <;> rfl

namespace Service

/-! ## The exchange in two parts -/

/-- The identity of a visitor who wants to exchange their token. -/
def identifyForExchange (s : Service) (r : Http.Request) (now : Instant) :
    Except Failure Identity × Service :=
  match exchangedToken (r.header? "authorization") with
  | .error failure => (.error failure, s)
  | .ok token =>
    let (outcome, verifier) := s.verifier.verify token now.seconds
    (outcome.mapError .ofRefusal, { s with verifier })

/-- Looks a visitor up, and gives them a session token. -/
def exchangeFor (s : Service) (identity : Identity) (now : Instant) : Response × Service :=
  match s.work (Directory.user? identity.email) with
  | (.error failure, s) => (.ofFailure failure, s)
  | (.ok none, s) => (.ofFailure (.notFound "User not found"), s)
  | (.ok (some user), s) =>
    (tokenResponse (s.sessions.issueAt user.id user.email identity.subject identity.name now), s)

variable {s : Service} {r : Http.Request} {now : Instant} {credentials : Credentials}

/-- The exchange finds out who the visitor is and then looks them up. -/
theorem exchangeToken_eq (s : Service) (r : Http.Request) (now : Instant) :
    s.exchangeToken r now =
      match s.identifyForExchange r now with
      | (.error failure, s') => (.ofFailure failure, s')
      | (.ok identity, s') => s'.exchangeFor identity now := by
  unfold exchangeToken identifyForExchange
  cases exchangedToken (r.header? "authorization") with
  | error failure => rfl
  | ok token =>
    simp only
    rcases s.verifier.verify token now.seconds with ⟨refusal | identity, verifier⟩ <;> rfl

/-! ## Credentials settle who is recognised -/

/-- The service after its verifier was asked about a token. -/
def asked (s : Service) (token : String) (now : Instant) : Service :=
  { s with verifier := (s.verifier.verify token now.seconds).2 }

/-- How the other handlers take credentials. -/
theorem identify_of_shows : r.Shows credentials →
    s.identify r now =
      match credentials with
      | .missing => (.error .missingAuthorization, s)
      | .malformed => (.error .malformedAuthorization, s)
      | .bearer token => ((s.verifier.verify token now.seconds).1, s.asked token now) := by
  -- A hypothesis in front of the colon would be drawn into the match.
  intro h
  unfold identify Verifier.authenticate
  cases h with
  | missing hnone => rw [Request.header?_eq_none_iff.mpr hnone]
  | malformed hfirst hnone =>
    simp only [Request.header?_eq_some_iff.mpr hfirst, Bearer.token_eq_error_iff.mpr ⟨rfl, hnone⟩]
  | bearer hfirst hcarries =>
    simp only [Request.header?_eq_some_iff.mpr hfirst, Bearer.token_eq_ok_iff.mpr hcarries]
    rfl

/-- How the exchange takes credentials. -/
theorem identifyForExchange_of_shows : r.Shows credentials →
    s.identifyForExchange r now =
      match credentials with
      | .missing => (.error (.validation "Authorization header is required"), s)
      | .malformed => (.error (.validation "Bearer token is required"), s)
      | .bearer token =>
        ((s.verifier.verify token now.seconds).1.mapError .ofRefusal, s.asked token now) := by
  intro h
  unfold identifyForExchange exchangedToken
  cases h with
  | missing hnone => rw [Request.header?_eq_none_iff.mpr hnone]
  | malformed hfirst hnone =>
    simp only [Request.header?_eq_some_iff.mpr hfirst, Bearer.token_eq_error_iff.mpr ⟨rfl, hnone⟩]
  | bearer hfirst hcarries =>
    simp only [Request.header?_eq_some_iff.mpr hfirst, Bearer.token_eq_ok_iff.mpr hcarries]
    rfl

/-- Who is not recognised is told so by the handlers that leave it to `identify`. -/
theorem responses_of_refused {refusal : Refusal} (h : (s.identify r now).1 = .error refusal) :
    (s.checkMembership r now).1 = .ofRefusal refusal ∧
      (s.createOrganization r now).1 = .ofRefusal refusal := by
  unfold checkMembership createOrganization
  rcases hidentify : s.identify r now with ⟨outcome, s'⟩
  rw [hidentify] at h
  obtain rfl : outcome = .error refusal := h
  exact ⟨rfl, rfl⟩

/-- Who is not recognised by the exchange is told why. -/
theorem response_of_refused {failure : Failure}
    (h : (s.identifyForExchange r now).1 = .error failure) :
    (s.exchangeToken r now).1 = .ofFailure failure := by
  rw [exchangeToken_eq]
  rcases hidentify : s.identifyForExchange r now with ⟨outcome, s'⟩
  rw [hidentify] at h
  obtain rfl : outcome = .error failure := h
  rfl

/-- The exchange recognises whom the other handlers recognise. -/
theorem identifyForExchange_ok_iff {identity : Identity} :
    (s.identifyForExchange r now).1 = .ok identity ↔ (s.identify r now).1 = .ok identity := by
  obtain ⟨credentials, hshows⟩ := r.exists_shows
  rw [identify_of_shows hshows, identifyForExchange_of_shows hshows]
  cases credentials with
  | missing | malformed => simp
  | bearer token =>
    dsimp only
    cases (s.verifier.verify token now.seconds).1 <;> simp [Except.mapError]

/-- The exchange asks the verifier what the other handlers ask it. -/
theorem identifyForExchange_left : (s.identifyForExchange r now).2 = (s.identify r now).2 := by
  obtain ⟨credentials, hshows⟩ := r.exists_shows
  rw [identify_of_shows hshows, identifyForExchange_of_shows hshows]
  cases credentials <;> rfl

/-- Only who shows a token is recognised. -/
theorem shows_of_identify {identity : Identity} (h : (s.identify r now).1 = .ok identity) :
    ∃ token, r.Shows (.bearer token) ∧ (s.verifier.verify token now.seconds).1 = .ok identity := by
  obtain ⟨credentials, hshows⟩ := r.exists_shows
  rw [identify_of_shows hshows] at h
  cases credentials with
  | missing | malformed => cases h
  | bearer token => exact ⟨token, hshows, h⟩

/-- The statuses of the answers to a visitor whose credentials are no token. -/
theorem statuses_of_unshown (h : r.Shows .missing ∨ r.Shows .malformed) :
    (s.identify r now).2 = s ∧ (s.exchangeToken r now).1.status = 400 ∧
      (s.checkMembership r now).1.status = 401 ∧ (s.createOrganization r now).1.status = 401 := by
  have htold {refusal : Refusal} {message : String}
      (hothers : s.identify r now = (.error refusal, s)) (hstatus : refusal.status = 401)
      (hexchange : s.identifyForExchange r now = (.error (.validation message), s)) :
      (s.identify r now).2 = s ∧ (s.exchangeToken r now).1.status = 400 ∧
        (s.checkMembership r now).1.status = 401 ∧
        (s.createOrganization r now).1.status = 401 := by
    obtain ⟨hcheck, hcreate⟩ := responses_of_refused (congrArg Prod.fst hothers)
    rw [hothers, response_of_refused (congrArg Prod.fst hexchange), hcheck, hcreate]
    exact ⟨rfl, rfl, hstatus, hstatus⟩
  rcases h with hshows | hshows
  · exact htold (identify_of_shows hshows) rfl (identifyForExchange_of_shows hshows)
  · exact htold (identify_of_shows hshows) rfl (identifyForExchange_of_shows hshows)

/-- The statuses of the answers to a visitor whose token is refused. -/
theorem statuses_of_refused {token : String} {refusal : Refusal} (hshows : r.Shows (.bearer token))
    (h : (s.verifier.verify token now.seconds).1 = .error refusal) :
    (s.exchangeToken r now).1.status = refusal.status ∧
      (s.checkMembership r now).1.status = refusal.status ∧
      (s.createOrganization r now).1.status = refusal.status := by
  have hothers : (s.identify r now).1 = .error refusal := by
    rw [identify_of_shows hshows]
    exact h
  have hexchange : (s.identifyForExchange r now).1 = .error (.ofRefusal refusal) := by
    rw [identifyForExchange_of_shows hshows]
    dsimp only
    rw [h]
    rfl
  obtain ⟨hcheck, hcreate⟩ := responses_of_refused hothers
  rw [response_of_refused hexchange, hcheck, hcreate, Response.status_ofFailure_ofRefusal]
  exact ⟨rfl, rfl, rfl⟩

/-- The exchange and the other handlers recognise the visitor who sends a request alike. -/
structure RecognisesAlike (s : Service) (r : Http.Request) (now : Instant) : Prop where
  /-- The exchange looks a visitor up once it has recognised them, and not before. -/
  exchange : s.exchangeToken r now =
    match s.identifyForExchange r now with
    | (.error failure, s') => (.ofFailure failure, s')
    | (.ok identity, s') => s'.exchangeFor identity now
  /-- It recognises whom the others recognise. -/
  recognised : ∀ identity,
    (s.identifyForExchange r now).1 = .ok identity ↔ (s.identify r now).1 = .ok identity
  /-- It has asked the verifier the same by then, if anything, and has not touched the database. -/
  left : (s.identifyForExchange r now).2 = (s.identify r now).2
  untouched : (s.identify r now).2.database = s.database
  /-- Only a visitor is recognised whose first authorization header carries a token, and the token is
  theirs. -/
  shown : ∀ identity, (s.identify r now).1 = .ok identity →
    ∃ token, r.Shows (.bearer token) ∧ (s.verifier.verify token now.seconds).1 = .ok identity
  /-- Of a request that shows a token, both ask the verifier about that very token. -/
  asks : ∀ token, r.Shows (.bearer token) →
    s.identify r now = ((s.verifier.verify token now.seconds).1, s.asked token now) ∧
    s.identifyForExchange r now =
      ((s.verifier.verify token now.seconds).1.mapError .ofRefusal, s.asked token now)
  /-- Of a request that shows none, the verifier is not asked. It is malformed to the exchange, and its
  visitor unknown to the others. -/
  unshown : r.Shows .missing ∨ r.Shows .malformed →
    (s.identify r now).2 = s ∧ (s.exchangeToken r now).1.status = 400 ∧
      (s.checkMembership r now).1.status = 401 ∧ (s.createOrganization r now).1.status = 401
  /-- A token that is refused is refused with one status, which is the one of the verifier's reason. -/
  refused : ∀ token refusal, r.Shows (.bearer token) →
    (s.verifier.verify token now.seconds).1 = .error refusal →
    ∃ status, refusal.OfVerifier status ∧ (s.exchangeToken r now).1.status = status ∧
      (s.checkMembership r now).1.status = status ∧ (s.createOrganization r now).1.status = status

/-- **A visitor is recognised alike by all handlers**, whatever headers they send and whoever verifies
their token. Every request shows a token, an authorization without a token, or nothing, by its first
authorization header. And of a header that was made of a token this very token is read exactly if it is not
empty, is visible ASCII, and has no blank at its ends. -/
theorem recognises_alike (s : Service) :
    (∀ (r : Http.Request) (now : Instant),
      (∃ credentials, r.Shows credentials) ∧ s.RecognisesAlike r now) ∧
    ∀ token : String,
      Bearer.token (Utf8.ofString ("Bearer " ++ token)) = .ok token ↔
        token ≠ "" ∧ Trims token token ∧ ∀ c ∈ token.toList, (' ' ≤ c ∧ c ≤ '~') ∨ c = '\t' := by
  constructor
  · intro r now
    refine ⟨r.exists_shows, ?_⟩
    exact {
      exchange := exchangeToken_eq s r now
      recognised := fun identity => identifyForExchange_ok_iff
      left := identifyForExchange_left
      untouched := rfl
      shown := fun identity => shows_of_identify
      asks := fun token hshows => ⟨identify_of_shows hshows, identifyForExchange_of_shows hshows⟩
      unshown := statuses_of_unshown
      refused := fun token refusal hshows hrefused =>
        ⟨_, Verifier.ofVerifier_of_verify hrefused, statuses_of_refused hshows hrefused⟩ }
  · intro token
    rw [Bearer.token_eq_ok_iff]
    exact Bearer.carries_self_iff

/-- A visitor sends two authorization headers, the first one with more blanks than it needs. -/
def sampleTwice : Http.Request :=
  ⟨"POST", ⟨Utf8.ofString "/token-exchange"⟩,
    [⟨"authorization", Utf8.ofString "Bearer \t t "⟩, ⟨"authorization", Utf8.ofString "bearer x"⟩], []⟩

/-- They are recognised by the exchange, as by the other handlers, and their token is the one that is
shown in the header that would be made of it. -/
theorem recognises_alike_sample :
    (sample.identifyForExchange sampleTwice sampleInstant).1 = .ok Provisioning.sampleVisitor ∧
      (∃ token, sampleTwice.Shows (.bearer token)) ∧
      Bearer.token (Utf8.ofString ("Bearer " ++ "t")) = .ok "t" := by
  have hothers : (sample.identify sampleTwice sampleInstant).1 = .ok Provisioning.sampleVisitor := by
    decide +kernel
  obtain ⟨halike, hmade⟩ := recognises_alike sample
  obtain ⟨-, halike⟩ := halike sampleTwice sampleInstant
  obtain ⟨token, hshows, -⟩ := halike.shown _ hothers
  have htrims : Trims "t" "t" := trims_iff.mpr (by decide +kernel)
  have hvisible : (Utf8.ofString "t").all Bearer.isVisible = true := by decide +kernel
  have hchars := Bearer.visible_ofString_iff.mp (List.all_eq_true.mp hvisible)
  exact ⟨(halike.recognised _).mpr hothers, ⟨token, hshows⟩, (hmade "t").mpr ⟨by decide, htrims, hchars⟩⟩

end Service

end TenantOnboarding
