import TenantOnboarding.Proofs.Provisioning.Race
import TenantOnboarding.Service.Router

/-!
# What requests do to the store

* `Service.Reads` is what every request does that asks for no organization: it looks something up, or
  does not ask the database at all.
* `Service.Serves` says how a request was served, by what it added to the history and by its answer.
  Every handler serves, and so does the router with its cross-origin policy.
* **`created_iff_committed`**: a request is answered with the status 201 exactly if it committed rows,
  and these are the rows that the answer shows.
-/

namespace TenantOnboarding

open Database Http

/-! ## Statuses -/

/-- No failure is answered with the status of what was created. -/
theorem Http.Response.status_ofFailure (f : Failure) : (ofFailure f).status ≠ 201 := by
  show f.status ≠ 201
  cases f <;> simp [Failure.status]

/-- No refusal is answered with the status of what was created. -/
theorem Http.Response.status_ofRefusal (r : Refusal) : (ofRefusal r).status ≠ 201 := by
  show r.status ≠ 201
  cases r <;> decide

/-- What is told in JSON has the status that it is told with. -/
theorem Http.Response.status_json (status : Nat) (v : Json.Value) : (json status v).status = status :=
  rfl

/-! ## Reading -/

namespace Service

variable {s s' : Service} {r : Http.Request} {now : Instant} {response : Response}

/-- Nothing happened at the database, or one lookup. -/
def Reads (s s' : Service) : Prop :=
  s'.database = s.database ∨
    ∃ q h, (∀ t : Store, t.after (.ran q) = t) ∧ Looks q s.database s'.database h

/-- If nobody commits anything meanwhile, reading leaves the store as it is. -/
theorem Reads.store_eq (hreads : s.Reads s') (halone : s.database.Alone) :
    s'.database.store = s.database.store := by
  rcases hreads with heq | ⟨q, h, hq, hlooks⟩
  · rw [heq]
  · exact hlooks.store_eq hq halone

/-- Asking where an email belongs is reading. -/
theorem checkMembership_reads (hclosed : s.database.transaction = .closed)
    (hgenuine : s.database.Genuine) (h : s.checkMembership r now = (response, s')) :
    s.Reads s' ∧ response.status ≠ 201 := by
  unfold checkMembership identify at h
  rcases hidentity : s.verifier.authenticate (r.header? "authorization") now.seconds with
    ⟨refusal | identity, verifier⟩
  · simp only [hidentity] at h
    cases h
    exact ⟨.inl rfl, Response.status_ofRefusal refusal⟩
  · simp only [hidentity, work] at h
    rcases hrun : (Directory.membership identity.email).run s.database with ⟨failure | m, db⟩
    · obtain ⟨k, hk, -⟩ := Directory.membership_spec hclosed hgenuine hrun
      simp only [hrun] at h
      cases h
      exact ⟨.inr ⟨_, k, fun _ => rfl, hk⟩, Response.status_ofFailure failure⟩
    · obtain ⟨k, hk, -⟩ := Directory.membership_spec hclosed hgenuine hrun
      simp only [hrun] at h
      cases h
      exact ⟨.inr ⟨_, k, fun _ => rfl, hk⟩, by simp [Response.status_json]⟩

/-- Exchanging a token is reading. -/
theorem exchangeToken_reads (hclosed : s.database.transaction = .closed)
    (hgenuine : s.database.Genuine) (h : s.exchangeToken r now = (response, s')) :
    s.Reads s' ∧ response.status ≠ 201 := by
  unfold exchangeToken at h
  rcases htoken : exchangedToken (r.header? "authorization") with failure | token
  · simp only [htoken] at h
    cases h
    exact ⟨.inl rfl, Response.status_ofFailure failure⟩
  · simp only [htoken] at h
    rcases hverify : s.verifier.verify token now.seconds with ⟨refusal | identity, verifier⟩
    · simp only [hverify] at h
      cases h
      exact ⟨.inl rfl, Response.status_ofFailure _⟩
    · simp only [hverify, work] at h
      rcases hrun : (Directory.user? identity.email).run s.database with ⟨failure | u, db⟩
      · obtain ⟨k, hk, -⟩ := Directory.user?_spec hclosed hgenuine hrun
        simp only [hrun] at h
        cases h
        exact ⟨.inr ⟨_, k, fun _ => rfl, hk⟩, Response.status_ofFailure failure⟩
      · obtain ⟨k, hk, -⟩ := Directory.user?_spec hclosed hgenuine hrun
        simp only [hrun] at h
        rcases u with _ | user
        · cases h
          exact ⟨.inr ⟨_, k, fun _ => rfl, hk⟩, Response.status_ofFailure _⟩
        · cases h
          exact ⟨.inr ⟨_, k, fun _ => rfl, hk⟩, by simp [tokenResponse, Response.status_json]⟩

/-! ## Serving -/

/-- What the visitor who sends a request asks to be created, if their request is valid. -/
def Wants (s : Service) (r : Http.Request) (now : Instant) (n : Provisioning.NewOrganization) : Prop :=
  ∃ identity wish, (s.identify r now).1 = .ok identity ∧
    r.jsonBody? Provisioning.Request = some wish ∧ wish.validateFor s.print identity.email = .ok n

/-- How a request was served: what it added to the history is a founding that the answer shows, or
nothing of the service's own unless the answer to a commit may have been lost. -/
structure Serves (s : Service) (r : Http.Request) (now : Instant) (response : Response)
    (s' : Service) (h : List Occurrence) : Prop extends s.database.Advances s'.database h where
  closed : s'.database.transaction = .closed
  founding : Throughout Occurrence.Founding s.database.store h
  created : response.status = 201 → ∃ (c : Provisioning.Created) (n : Provisioning.NewOrganization),
    committedIn h = [c.rows] ∧ s.Wants r now n ∧ c.Fulfils n ∧ '\x00' ∉ c.user.email.toList ∧
      response.body = .json c.toValue
  failed : response.status ≠ 201 → committedIn h = [] ∨ s.database.MayLoseCommit

/-- What only reads serves. -/
theorem Reads.serves (hreads : s.Reads s') (hclosed : s.database.transaction = .closed)
    (hstatus : response.status ≠ 201) : ∃ h, s.Serves r now response s' h := by
  rcases hreads with heq | ⟨q, h, -, hlooks⟩
  · refine ⟨[], heq ▸ Advances.refl s.database, heq ▸ hclosed, .nil, ?_, fun _ => .inl rfl⟩
    exact fun hcreated => absurd hcreated hstatus
  · refine ⟨h, hlooks.toAdvances, hlooks.closed, ?_, ?_, fun _ => .inl hlooks.committedIn_eq_nil⟩
    · exact Provisioning.founding_of_nothing hlooks.committedIn_eq_nil _
    · exact fun hcreated => absurd hcreated hstatus

/-- The handler that provides organizations serves. -/
theorem createOrganization_serves (hclosed : s.database.transaction = .closed)
    (hgenuine : s.database.Genuine) (h : s.createOrganization r now = (response, s')) :
    ∃ k, s.Serves r now response s' k := by
  unfold createOrganization at h
  rcases hidentify : s.identify r now with ⟨refusal | identity, s₁⟩
  · simp only [hidentify] at h
    cases h
    have hdatabase : s'.database = s.database := congrArg (·.2.database) hidentify.symm
    exact Reads.serves (.inl hdatabase) hclosed (Response.status_ofRefusal refusal)
  have hdatabase : s₁.database = s.database := congrArg (·.2.database) hidentify.symm
  simp only [hidentify] at h
  rcases hbody : r.jsonBody? Provisioning.Request with _ | wish
  · simp only [hbody] at h
    cases h
    exact Reads.serves (.inl hdatabase) hclosed (Response.status_ofFailure _)
  have hprint : s₁.print = s.print := congrArg (·.2.print) hidentify.symm
  simp only [hbody, hdatabase, hprint] at h
  rcases hprovide : (Provisioning.provide identity wish s.print).run s.database with
    ⟨⟨course, outcome⟩, db⟩
  obtain ⟨k, hk, hclosed', houtcome, hfulfils, -⟩ :=
    Provisioning.provide_spec hclosed hgenuine hprovide
  simp only [hprovide] at h
  rcases outcome with failure | c
  · cases h
    refine ⟨k, hk, hclosed', houtcome.founding, ?_, fun _ => houtcome.failed failure rfl⟩
    exact fun hcreated => absurd hcreated (Response.status_ofFailure failure)
  · cases h
    refine ⟨k, hk, hclosed', houtcome.founding, fun _ => ?_, fun hfailed => absurd rfl hfailed⟩
    obtain ⟨n, hvalid, hfulfils⟩ := hfulfils c rfl
    obtain ⟨-, -, hemail, -⟩ :=
      Provisioning.Request.examine_ok (Provisioning.Request.validateFor_ok_iff.mp hvalid)
    have hclean := Provisioning.clean_of_provide hclosed hprovide rfl
    rw [← hemail, ← hfulfils.email] at hclean
    exact ⟨c, n, houtcome.created c rfl, ⟨identity, wish, by rw [hidentify], hbody, hvalid⟩, hfulfils,
      hclean, rfl⟩

/-- Every handler serves, and only the one that provides organizations does more than read. -/
theorem handle_serves {route : Route} (hclosed : s.database.transaction = .closed)
    (hgenuine : s.database.Genuine) (h : s.handle route r now = (response, s')) :
    (∃ k, s.Serves r now response s' k) ∧
      (route ≠ .createOrganization → s.Reads s' ∧ response.status ≠ 201) := by
  cases route with
  | health =>
    cases h
    have hstatus : healthResponse.status ≠ 201 := by decide
    exact ⟨Reads.serves (.inl rfl) hclosed hstatus, fun _ => ⟨.inl rfl, hstatus⟩⟩
  | exchangeToken =>
    obtain ⟨hreads, hstatus⟩ := exchangeToken_reads hclosed hgenuine h
    exact ⟨hreads.serves hclosed hstatus, fun _ => ⟨hreads, hstatus⟩⟩
  | checkMembership =>
    obtain ⟨hreads, hstatus⟩ := checkMembership_reads hclosed hgenuine h
    exact ⟨hreads.serves hclosed hstatus, fun _ => ⟨hreads, hstatus⟩⟩
  | createOrganization =>
    exact ⟨createOrganization_serves hclosed hgenuine h, fun hroute => absurd rfl hroute⟩

/-- Without its body an answer has the same status. -/
theorem status_withoutBody (method : String) (response : Response) :
    (withoutBody method response).status = response.status := by
  unfold withoutBody
  split <;> rfl

/-- A router serves, and only reads unless a request is for an organization. -/
theorem respond_serves {routes : List Route} (hclosed : s.database.transaction = .closed)
    (hgenuine : s.database.Genuine) (h : s.respond routes r now = (response, s')) :
    (∃ k, s.Serves r now response s' k) ∧
      (Route.find? routes r.target ≠ some .createOrganization → s.Reads s') := by
  have hbare : ∀ status, status ≠ 201 → (Response.bare status).status ≠ 201 := fun _ hne => hne
  unfold respond at h
  rcases hroute : Route.find? routes r.target with _ | route
  · simp only [hroute] at h
    cases h
    exact ⟨Reads.serves (.inl rfl) hclosed (hbare 404 (by decide)), fun _ => .inl rfl⟩
  simp only [hroute] at h
  split at h
  · rename_i htakes
    rcases hhandle : s.handle route r now with ⟨inner, s₁⟩
    obtain ⟨hserves, hreads⟩ := handle_serves hclosed hgenuine hhandle
    simp only [hhandle] at h
    cases h
    by_cases hcreate : route = .createOrganization
    · -- Organizations are asked for by `POST` alone, so the answer keeps its body.
      subst hcreate
      have hpost : r.method = "POST" := by simpa [Route.takes, Route.isRead] using htakes
      have hbody : withoutBody r.method inner = inner := by simp [withoutBody, hpost]
      rw [hbody]
      exact ⟨hserves, fun hne => absurd rfl hne⟩
    · obtain ⟨hreads, hstatus⟩ := hreads hcreate
      rw [← status_withoutBody r.method] at hstatus
      exact ⟨hreads.serves hclosed hstatus, fun _ => hreads⟩
  · cases h
    exact ⟨Reads.serves (.inl rfl) hclosed (hbare 405 (by decide)), fun _ => .inl rfl⟩

/-- A router serves under any cross-origin policy. -/
theorem respondUnder_serves {policy : CorsPolicy} {routes : List Route}
    (hclosed : s.database.transaction = .closed) (hgenuine : s.database.Genuine)
    (h : s.respondUnder policy routes r now = (response, s')) :
    (∃ k, s.Serves r now response s' k) ∧
      (Route.find? routes r.target ≠ some .createOrganization → s.Reads s') := by
  unfold respondUnder at h
  split at h
  · cases h
    refine ⟨Reads.serves (.inl rfl) hclosed ?_, fun _ => .inl rfl⟩
    show 200 ≠ 201
    decide
  · rcases hrespond : s.respond routes r now with ⟨inner, s₁⟩
    obtain ⟨⟨k, hserves⟩, hreads⟩ := respond_serves hclosed hgenuine hrespond
    simp only [hrespond] at h
    cases h
    exact ⟨⟨k, hserves.toAdvances, hserves.closed, hserves.founding, hserves.created,
      hserves.failed⟩, hreads⟩

/-! ## What an answer tells -/

open Provisioning in
/-- **The answer to a request tells exactly what happened to the store**, as long as a commit that
reports an error was not applied. The status is 201 if and only if the request committed rows. Then they
are an organization, with the name and the description of the request's body, and its owner, with the
visitor's verified email, and the answer shows both. With any other status, and if nobody else commits
anything, the rows are those from before. Only a request for an organization touches the store at
all. -/
theorem created_iff_committed (policy : CorsPolicy) (routes : List Route)
    (hclosed : s.database.transaction = .closed) (hgenuine : s.database.Genuine)
    (hcommit : ¬s.database.MayLoseCommit)
    (h : s.respondUnder policy routes r now = (response, s')) :
    ∃ new, s.database.Advances s'.database new ∧
      (response.status = 201 ↔ committedIn new ≠ []) ∧
      (response.status = 201 → ∃ identity wish o u,
        (s.identify r now).1 = .ok identity ∧ r.jsonBody? Provisioning.Request = some wish ∧
        committedIn new = [⟨[o], [u], []⟩] ∧ response.body = .json (Created.toValue ⟨o, u⟩) ∧
        (wish.organization.bind (·.name)).bind trimmed? = some o.name ∧
        (wish.organization.bind (·.description)).bind trimmed? = o.description ∧
        u.email = identity.email ∧ u.organization = o.id ∧ u.role = .owner ∧
        (s.database.Alone →
          s'.database.store.organizations = s.database.store.organizations ++ [o] ∧
          s'.database.store.users = s.database.store.users ++ [u])) ∧
      (response.status ≠ 201 → s.database.Alone →
        s'.database.store.organizations = s.database.store.organizations ∧
        s'.database.store.users = s.database.store.users) ∧
      (Route.find? routes r.target ≠ some .createOrganization → s.database.Alone →
        s'.database.store = s.database.store) := by
  obtain ⟨⟨new, hserves⟩, hreads⟩ := respondUnder_serves hclosed hgenuine h
  have hfailed : response.status ≠ 201 → committedIn new = [] :=
    fun hstatus => (hserves.failed hstatus).resolve_right hcommit
  have hrows (halone : s.database.Alone) :=
    rows_of_alone (s := s.database.store) (hserves.alone halone)
  refine ⟨new, hserves.toAdvances, ⟨?_, ?_⟩, ?_, ?_, fun hroute => (hreads hroute).store_eq⟩
  · intro hstatus
    obtain ⟨c, n, hcommitted, -⟩ := hserves.created hstatus
    rw [hcommitted]
    exact List.cons_ne_nil _ _
  · intro hcommitted
    by_contra hstatus
    exact hcommitted (hfailed hstatus)
  · intro hstatus
    obtain ⟨⟨o, u⟩, n, hcommitted, ⟨identity, wish, hidentity, hbody, hvalid⟩, hfulfils, -, hshown⟩ :=
      hserves.created hstatus
    obtain ⟨hname, hdescription, hemail, -⟩ :=
      Request.examine_ok (Request.validateFor_ok_iff.mp hvalid)
    refine ⟨identity, wish, o, u, hidentity, hbody, hcommitted, hshown, ?_, ?_, ?_,
      hfulfils.reference, hfulfils.role, ?_⟩
    · rw [hname, hfulfils.name]
    · rw [hdescription, hfulfils.description]
    · rw [hfulfils.email, hemail]
    · intro halone
      rw [hserves.store, (hrows halone).1, (hrows halone).2, hcommitted]
      exact ⟨rfl, rfl⟩
  · intro hstatus halone
    rw [hserves.store, (hrows halone).1, (hrows halone).2, hfailed hstatus]
    exact ⟨List.append_nil _, List.append_nil _⟩

/-- A service that knows one visitor, on a store without rows. -/
def sample : Service :=
  ⟨.table (TokenTable.empty.insert "t" Provisioning.sampleVisitor), ⟨"secret"⟩, .plain,
    .ofStore .empty⟩

/-- A request of the visitor for an organization. -/
def sampleWish : Http.Request :=
  ⟨"POST", ⟨Text.Utf8.ofString "/create-organization"⟩,
    [⟨"authorization", Text.Utf8.ofString "Bearer t"⟩,
      ⟨"content-type", Text.Utf8.ofString "application/json"⟩],
    Text.Utf8.ofString "\x7b\"organization\":\x7b\"name\":\" Acme \"\x7d,\"appUser\":\x7b\"email\":\"ada@example.org\"\x7d\x7d"⟩

/-- The visitor asks, by some method, where they belong. -/
def sampleCheck (method : String) : Http.Request :=
  ⟨method, ⟨Text.Utf8.ofString "/check-user-organization"⟩,
    [⟨"authorization", Text.Utf8.ofString "Bearer t"⟩], []⟩

/-- An instant. -/
def sampleInstant : Instant := ⟨1795000000, 0, by decide, by decide, by decide⟩

/-- A policy that lists no origin. -/
def samplePolicy : CorsPolicy := ⟨[], by decide⟩

/-- The answer to the request, and the service after it. -/
def sampleAnswer : Response × Service :=
  sample.respondUnder samplePolicy Route.all sampleWish sampleInstant

/-- Nothing goes wrong at the sample's database. -/
theorem faults_sample : sample.database.faults = [] := rfl

/-- The first visitor gets an organization, and is its only user. -/
theorem created_iff_committed_sample :
    sampleAnswer.1.status = 201 ∧ ∃ new o u, sample.database.Advances sampleAnswer.2.database new ∧
      committedIn new = [⟨[o], [u], []⟩] ∧ sampleAnswer.2.database.store.users = [u] := by
  have hstatus : sampleAnswer.1.status = 201 := by decide +kernel
  have hanswer : sample.respondUnder samplePolicy Route.all sampleWish sampleInstant =
      (sampleAnswer.1, sampleAnswer.2) := (Prod.eta sampleAnswer).symm
  have hcalm : ∀ f, f ∉ sample.database.faults := by simp [faults_sample]
  obtain ⟨new, hadvances, -, hcreated, -⟩ := created_iff_committed samplePolicy Route.all rfl
    (fun f hf => absurd hf (hcalm f)) (fun ⟨f, hf, _⟩ => hcalm f hf) hanswer
  obtain ⟨-, -, o, u, -, -, hcommitted, -, -, -, -, -, -, hrows⟩ := hcreated hstatus
  exact ⟨hstatus, new, o, u, hadvances, hcommitted, (hrows fun f hf => absurd hf (hcalm f)).2⟩

end Service

end TenantOnboarding
