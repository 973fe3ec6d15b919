import TenantOnboarding.Proofs.Service.Runs
import TenantOnboarding.Proofs.Session.RoundTrip

/-!
# What was provided stays

A user is settled (`Service.Settled`) when their email is theirs in the store. A visitor who was answered
that an organization was created is settled (`settled_of_created`), a run keeps them so
(`Settled.of_continues`), and every handler answers a visitor with a settled user's email accordingly:
`checkMembership_settled`, `createOrganization_settled` and `exchangeToken_settled`.

**`provided_for_ever`** puts these together: whatever happens after an organization was created for an
email, all three routes tell of the same user and the same organization.
-/

namespace TenantOnboarding

open Database Http

/-! ## Requests -/

/-- A request that comes with a call asks for a route by a method. -/
def Call.Asks (c : Call) (method : String) (route : Route) : Prop :=
  c.request.method = method ∧ c.request.target.path = Text.Utf8.ofString route.path

/-- The path of a route leads to the route. -/
theorem Route.find?_path {target : Target} (route : Route)
    (h : target.path = Text.Utf8.ofString route.path) : Route.find? Route.all target = some route := by
  unfold find?
  rw [h]
  cases route <;> decide

/-- A visitor who is recognised sent a token, which the verifier recognised. -/
theorem Verifier.token_of_authenticate {v : Verifier} {header : Option (List UInt8)} {now : Int}
    {visitor : Identity} (h : (v.authenticate header now).1 = .ok visitor) :
    ∃ token, Service.exchangedToken header = .ok token ∧ (v.verify token now).1 = .ok visitor := by
  unfold authenticate at h
  rcases header with _ | value
  · cases h
  · rcases htoken : Bearer.token value with refusal | token
    · simp only [htoken] at h
      cases h
    · simp only [htoken] at h
      refine ⟨token, ?_, h⟩
      simp only [Service.exchangedToken, htoken]

namespace Service

variable {s s' : Service} {r : Http.Request} {now : Instant} {response : Response} {u : AppUser}

/-- A user is settled: their email, which a column can hold, is theirs. -/
structure Settled (s : Service) (u : AppUser) : Prop where
  closed : s.database.transaction = .closed
  clean : '\x00' ∉ u.email.toList
  user : s.database.store.userOf? u.email = some u

/-- A run keeps users settled as long as others keep to the constraints of the tables. -/
theorem Settled.of_continues {h : List Occurrence} (hs : s.Settled u) (hrun : s.Continues s' h)
    (hlawful : Throughout Occurrence.Lawful s.database.store h) : s'.Settled u where
  closed := hrun.closed
  clean := hs.clean
  user := by
    rw [hrun.store]
    exact userOf?_replay hlawful hs.user

/-! ## Answers to visitors with a settled user's email -/

section settled

variable {visitor : Identity} {h : List Occurrence}
  (hs : s.Settled u) (hquiet : ¬s.database.Disturbed)
  (hvisitor : (s.identify r now).1 = .ok visitor) (hemail : visitor.email = u.email)
  (hhistory : s'.database.history = h ++ s.database.history)
  (hlawful : Throughout Occurrence.Lawful s.database.store h)
include hs hquiet hvisitor hemail hhistory hlawful

/-- The visitor is told the user and the organization. -/
theorem checkMembership_settled (hrun : s.checkMembership r now = (response, s')) :
    response = .json 200 (Json.Coded.toValue (⟨some u.id, some u.organization⟩ : Membership)) := by
  unfold checkMembership at hrun
  rcases hidentify : s.identify r now with ⟨outcome, s₁⟩
  have hdatabase : s₁.database = s.database := congrArg (·.2.database) hidentify.symm
  rw [hidentify] at hvisitor
  cases hvisitor
  simp only [hidentify, work, hdatabase, hemail] at hrun
  rcases hmembership : (Directory.membership u.email).run s.database with ⟨m, db⟩
  have hdb : s'.database = db := by
    rw [hmembership] at hrun
    rcases m with failure | m <;> cases hrun <;> rfl
  obtain rfl := Directory.membership_of_user hs.closed hquiet hs.clean hs.user (hdb ▸ hhistory)
    hlawful hmembership
  rw [hmembership] at hrun
  cases hrun
  rfl

/-- The visitor is told that the user exists, whatever they ask for, and nothing is done but to look the
email up. -/
theorem createOrganization_settled {wish : Provisioning.Request}
    (hbody : r.jsonBody? Provisioning.Request = some wish)
    (hrun : s.createOrganization r now = (response, s')) :
    response = .ofFailure (.alreadyExists u.id u.organization) ∧
      ∀ o ∈ h, o = .ran (.findMembership u.email) ∨ ∃ c held, o = .changed c held := by
  unfold createOrganization at hrun
  rcases hidentify : s.identify r now with ⟨outcome, s₁⟩
  have hdatabase : s₁.database = s.database := congrArg (·.2.database) hidentify.symm
  rw [hidentify] at hvisitor
  cases hvisitor
  simp only [hidentify, hbody, hdatabase] at hrun
  rcases hprovide : (Provisioning.provide visitor wish s₁.print).run s.database with
    ⟨⟨course, outcome⟩, db⟩
  have hdb : s'.database = db := by
    rw [hprovide] at hrun
    rcases outcome with failure | c <;> cases hrun <;> rfl
  obtain ⟨since, before, rfl, hforeign, hcases⟩ := Provisioning.provide_undisturbed hs.closed hquiet
    (hemail ▸ hs.clean) hprovide (hdb ▸ hhistory) hlawful
  have hbefore := (throughout_cons.mp (throughout_append.mp hlawful).2).2
  rw [hemail, userOf?_replay hbefore hs.user] at hcases
  rcases hcases with ⟨v, ⟨⟩, rfl, rfl⟩ | ⟨hnone, -⟩
  · rw [hprovide] at hrun
    cases hrun
    refine ⟨rfl, fun o ho => ?_⟩
    rcases List.mem_cons.mp ho with rfl | ho
    · exact .inl (by rw [hemail])
    · exact .inr (hforeign o ho)
  · cases hnone

/-- The visitor gets a session token of the user. -/
theorem exchangeToken_settled (hrun : s.exchangeToken r now = (response, s')) :
    response = tokenResponse
      (s.sessions.issueAt u.id u.email visitor.subject visitor.name now) := by
  obtain ⟨token, htoken, hverify⟩ := Verifier.token_of_authenticate hvisitor
  unfold exchangeToken at hrun
  rcases hverified : s.verifier.verify token now.seconds with ⟨outcome, verifier⟩
  rw [hverified] at hverify
  cases hverify
  simp only [htoken, hverified, work, hemail] at hrun
  rcases huser : (Directory.user? u.email).run s.database with ⟨found, db⟩
  have hdb : s'.database = db := by
    rw [huser] at hrun
    rcases found with failure | _ | v <;> cases hrun <;> rfl
  obtain rfl := Directory.user?_of_user hs.closed hquiet hs.clean hs.user (hdb ▸ hhistory)
    hlawful huser
  rw [huser] at hrun
  cases hrun
  rfl

end settled

/-! ## Runs -/

variable (policy : CorsPolicy)

/-- A request for a route by a method that it takes reaches the handler, whose answer is decorated. -/
theorem call_of_asks {c : Call} {method : String} {route : Route} (hasks : c.Asks method route)
    (htakes : route.takes method = true) (hmethod : method = "GET" ∨ method = "POST") :
    s.call policy c =
      (policy.decorate c.request ((s.expecting c).handle route c.request c.now).1,
        ((s.expecting c).handle route c.request c.now).2) := by
  obtain ⟨rfl, hpath⟩ := hasks
  have hself : ¬CorsPolicy.answersItself c.request = true := by
    rcases hmethod with hmethod | hmethod <;> simp [CorsPolicy.answersItself, hmethod]
  have hbody : ∀ response : Response, withoutBody c.request.method response = response := by
    intro response
    rcases hmethod with hmethod | hmethod <;> simp [withoutBody, hmethod]
  rw [call, respondUnder, if_neg hself]
  simp only [respond, Route.find?_path route hpath, htakes, if_true, hbody]

/-- A visitor who was answered that an organization was created is its settled owner, if others keep to
the constraints of the tables. -/
theorem settled_of_created {c : Call} (hclosed : s.database.transaction = .closed)
    (hgenuine : c.Genuine) (hcreated : (s.call policy c).1.status = 201) :
    ∃ identity o u, (s.identify c.request c.now).1 = .ok identity ∧
      (s.call policy c).1.body = .json (Provisioning.Created.toValue ⟨o, u⟩) ∧
      u.email = identity.email ∧ u.organization = o.id ∧
      ∀ h, (s.call policy c).2.database.history = h ++ s.database.history →
        s.database.store.Consistent → Throughout Occurrence.Lawful s.database.store h →
        (s.call policy c).2.Settled u := by
  have hclosed' : (s.expecting c).database.transaction = .closed := hclosed
  have hcall : (s.expecting c).respondUnder policy Route.all c.request c.now =
      ((s.call policy c).1, (s.call policy c).2) := rfl
  obtain ⟨⟨k, hserves⟩, -⟩ := respondUnder_serves hclosed' hgenuine hcall
  obtain ⟨⟨o, u⟩, n, hcommitted, ⟨identity, wish, hidentity, -, hvalid⟩, hfulfils, hclean, hbody⟩ :=
    hserves.created hcreated
  obtain ⟨-, -, hemail, -⟩ :=
    Provisioning.Request.examine_ok (Provisioning.Request.validateFor_ok_iff.mp hvalid)
  refine ⟨identity, o, u, hidentity, hbody, hfulfils.email.trans hemail, hfulfils.reference, ?_⟩
  intro h hhistory hconsistent hlawful
  obtain rfl : h = k := List.append_cancel_right (hhistory.symm.trans hserves.history)
  have hmem : u ∈ (s.database.store.replay h).users :=
    committed_subset_users hlawful (hcommitted ▸ List.mem_singleton_self _) List.mem_cons_self
  refine ⟨hserves.closed, hclean, ?_⟩
  rw [hserves.store]
  exact (hconsistent.replay hlawful hserves.founding).userOf?_of_mem hmem

section calls

variable {c : Call} {visitor : Identity} {h : List Occurrence}
  (hs : s.Settled u) (hquiet : ¬(s.expecting c).database.Disturbed)
  (hvisitor : (s.identify c.request c.now).1 = .ok visitor) (hemail : visitor.email = u.email)
  (hhistory : (s.call policy c).2.database.history = h ++ s.database.history)
  (hlawful : Throughout Occurrence.Lawful s.database.store h)
include hs hquiet hvisitor hemail hhistory hlawful

/-- The answer to a visitor who asks where they belong. -/
theorem call_checkMembership (hasks : c.Asks "GET" .checkMembership) :
    (s.call policy c).1 = policy.decorate c.request
      (.json 200 (Json.Coded.toValue (⟨some u.id, some u.organization⟩ : Membership))) := by
  have hs' : (s.expecting c).Settled u := ⟨hs.closed, hs.clean, hs.user⟩
  rw [call_of_asks policy hasks (by decide) (.inl rfl)] at hhistory ⊢
  have hresponse := checkMembership_settled hs' hquiet hvisitor hemail hhistory hlawful
    (Prod.eta ((s.expecting c).checkMembership c.request c.now)).symm
  exact congrArg (policy.decorate c.request) hresponse

/-- The answer to a visitor who wants an organization. -/
theorem call_createOrganization {wish : Provisioning.Request}
    (hasks : c.Asks "POST" .createOrganization)
    (hwish : c.request.jsonBody? Provisioning.Request = some wish) :
    (s.call policy c).1 = policy.decorate c.request
        (.ofFailure (.alreadyExists u.id u.organization)) ∧
      ∀ o ∈ h, o = .ran (.findMembership u.email) ∨ ∃ c held, o = .changed c held := by
  have hs' : (s.expecting c).Settled u := ⟨hs.closed, hs.clean, hs.user⟩
  rw [call_of_asks policy hasks (by decide) (.inr rfl)] at hhistory ⊢
  obtain ⟨hresponse, hidle⟩ := createOrganization_settled hs' hquiet hvisitor hemail hhistory hlawful
    hwish (Prod.eta ((s.expecting c).createOrganization c.request c.now)).symm
  exact ⟨congrArg (policy.decorate c.request) hresponse, hidle⟩

/-- The answer to a visitor who exchanges their token. -/
theorem call_exchangeToken (hasks : c.Asks "POST" .exchangeToken) :
    (s.call policy c).1 = policy.decorate c.request
      (tokenResponse (s.sessions.issueAt u.id u.email visitor.subject visitor.name c.now)) := by
  have hs' : (s.expecting c).Settled u := ⟨hs.closed, hs.clean, hs.user⟩
  rw [call_of_asks policy hasks (by decide) (.inr rfl)] at hhistory ⊢
  have hresponse := exchangeToken_settled hs' hquiet hvisitor hemail hhistory hlawful
    (Prod.eta ((s.expecting c).exchangeToken c.request c.now)).symm
  exact congrArg (policy.decorate c.request) hresponse

end calls

/-- **An email that was provided for stays so for ever.** Let a visitor be answered, at some moment of a
run that starts from a consistent store, that an organization and its owner were created. Whatever the
later requests are, whatever fails, and whatever others commit within the constraints of the tables: a
request that comes with the same email, and with which nothing goes wrong, is answered with the numbers
of this organization and this owner. A visitor who asks where they belong is told so. A visitor who
wants an organization is told that the user exists, and nothing is done but to look the email up. A
visitor who exchanges their token gets a session token that is good for an hour. -/
theorem provided_for_ever {earlier : List Call} {creating : Call}
    (hclosed : s.database.transaction = .closed) (hstart : s.database.history = [])
    (hconsistent : s.database.store.Consistent) (hgenuine : ∀ c ∈ earlier, c.Genuine)
    (hgenuine' : creating.Genuine)
    (hcreated : ((s.after policy earlier).call policy creating).1.status = 201) :
    ∃ identity o u,
      ((s.after policy earlier).identify creating.request creating.now).1 = .ok identity ∧
      ((s.after policy earlier).call policy creating).1.body =
        .json (Provisioning.Created.toValue ⟨o, u⟩) ∧
      ∀ (later : List Call) (asking : Call) (visitor : Identity) (t s' : Service)
        (answer : Response), (∀ c ∈ later, c.Genuine) →
        t = s.after policy (earlier ++ creating :: later) →
        t.call policy asking = (answer, s') →
        Throughout Occurrence.Lawful s.database.store s'.database.history →
        ¬(t.expecting asking).database.Disturbed →
        (t.identify asking.request asking.now).1 = .ok visitor →
        visitor.email = identity.email →
        (asking.Asks "GET" .checkMembership →
          answer.status = 200 ∧ answer.body =
            .json (.object [("appUserId", .int64 u.id), ("organizationId", .int64 o.id)])) ∧
        (asking.Asks "POST" .createOrganization →
          ∀ wish, asking.request.jsonBody? Provisioning.Request = some wish →
            answer.status = 400 ∧ answer.body =
              .json (.object [Response.errorMember "ALREADY_EXISTS" "User already exists",
                ("appUserId", .int64 u.id), ("organizationId", .int64 o.id)]) ∧
            ∃ new, s'.database.history = new ++ t.database.history ∧ ∀ o ∈ new,
              o = .ran (.findMembership identity.email) ∨ ∃ c held, o = .changed c held) ∧
        (asking.Asks "POST" .exchangeToken →
          ∃ token, answer.status = 200 ∧ answer.body = .json (.object [("token", .text token)]) ∧
            ∀ second, 0 ≤ second → second ≤ asking.now.seconds + 3600 →
              ∃ claims, t.sessions.verify token second = .ok claims ∧ claims.user = u.id ∧
                claims.email = identity.email ∧ claims.subject = visitor.subject ∧
                claims.name = visitor.name) := by
  obtain ⟨h₁, hearlier⟩ := after_continues policy hclosed hgenuine
  obtain ⟨h₂, hcreating⟩ := call_continues policy hearlier.closed hgenuine'
  obtain ⟨identity, o, u, hidentity, hbody, hemail, hreference, hsettled⟩ :=
    settled_of_created policy hearlier.closed hgenuine' hcreated
  refine ⟨identity, o, u, hidentity, hbody, ?_⟩
  intro later asking visitor t s' answer hgenuine'' ht hanswer hlawful hquiet hvisitor hsame
  obtain ⟨h₃, hlater⟩ := after_continues policy hcreating.closed hgenuine''
  rw [after_append, after_cons] at ht
  rw [← ht] at hlater
  obtain ⟨h₄, hasking⟩ := call_continues (s := t) (c := asking) policy hlater.closed
    (genuine_of_undisturbed hquiet)
  rw [hanswer] at hasking
  -- The history of the run is what its four parts added, the last part first.
  have hwhole := ((hearlier.trans hcreating).trans hlater).trans hasking
  rw [hwhole.history, hstart, List.append_nil] at hlawful
  obtain ⟨hlawful₄, hlawful₃₂₁⟩ := throughout_append.mp hlawful
  obtain ⟨hlawful₃, hlawful₂₁⟩ := throughout_append.mp hlawful₃₂₁
  obtain ⟨hlawful₂, hlawful₁⟩ := throughout_append.mp hlawful₂₁
  rw [← ((hearlier.trans hcreating).trans hlater).store] at hlawful₄
  rw [← (hearlier.trans hcreating).store] at hlawful₃
  rw [← hearlier.store] at hlawful₂
  have hconsistent₁ : (s.after policy earlier).database.store.Consistent := by
    rw [hearlier.store]
    exact hconsistent.replay hlawful₁ hearlier.founding
  have hsettled : t.Settled u :=
    (hsettled h₂ hcreating.history hconsistent₁ hlawful₂).of_continues hlater hlawful₃
  have hsame' : visitor.email = u.email := hsame.trans hemail.symm
  have hhistory : (t.call policy asking).2.database.history = h₄ ++ t.database.history := by
    rw [hanswer]
    exact hasking.history
  have hresponse : answer = (t.call policy asking).1 := by rw [hanswer]
  refine ⟨fun hasks => ?_, fun hasks wish hwish => ?_, fun hasks => ?_⟩
  · rw [hresponse, call_checkMembership policy hsettled hquiet hvisitor hsame' hhistory hlawful₄ hasks,
      hreference]
    exact ⟨rfl, rfl⟩
  · obtain ⟨htold, hidle⟩ := call_createOrganization policy hsettled hquiet hvisitor hsame' hhistory
      hlawful₄ hasks hwish
    rw [hresponse, htold, hreference]
    exact ⟨rfl, rfl, h₄, hasking.history, hemail ▸ hidle⟩
  · rw [hresponse, call_exchangeToken policy hsettled hquiet hvisitor hsame' hhistory hlawful₄ hasks]
    refine ⟨_, rfl, rfl, fun second hstart hend => ?_⟩
    have hverify := Session.Issuer.verify_issueAt u.id u.email visitor.subject visitor.name
      asking.now t.sessions second
    rw [if_pos ⟨by omega, hend⟩] at hverify
    exact ⟨_, hverify, rfl, hemail, rfl, rfl⟩

/-- Another account of the sample's visitor, with the same email. -/
def sampleAccount : Identity := ⟨"118", "ada@example.org", "Work account"⟩

/-- A service that knows both accounts of the visitor, on a store without rows. -/
def sampleShared : Service :=
  { sample with
    verifier := .table
      ((TokenTable.empty.insert "t" Provisioning.sampleVisitor).insert "q" sampleAccount) }

/-- The visitor asks for an organization, and then again while others commit one and the connection
breaks. -/
def sampleLater : List Call :=
  [⟨sampleWish, sampleInstant, [], .plain⟩,
    ⟨sampleWish, sampleInstant, [⟨.findMembership, 0, [.addOrganization none "Other" none], .lost⟩],
      .plain⟩]

/-- The other account exchanges its token. -/
def sampleExchange : Call :=
  ⟨⟨"POST", ⟨Text.Utf8.ofString "/token-exchange"⟩,
    [⟨"authorization", Text.Utf8.ofString "Bearer q"⟩], []⟩, sampleInstant, [], .plain⟩

/-- The service after the visitor asked. -/
def sampleReturn : Service :=
  sampleShared.after samplePolicy sampleLater

/-- The other account gets a session token of the owner who was created for the visitor. -/
theorem provided_for_ever_sample :
    ∃ token, (sampleReturn.call samplePolicy sampleExchange).1.body =
        .json (.object [("token", .text token)]) ∧
      ∃ claims, sampleReturn.sessions.verify token sampleInstant.seconds = .ok claims ∧
        claims.email = "ada@example.org" ∧ claims.subject = "118" := by
  obtain ⟨hcreated, hidentity, hvisitor, hreachable, hlawful⟩ :
      ((sampleShared.after samplePolicy []).call samplePolicy
        ⟨sampleWish, sampleInstant, [], .plain⟩).1.status = 201 ∧
      (sampleShared.identify sampleWish sampleInstant).1 = .ok Provisioning.sampleVisitor ∧
      (sampleReturn.identify sampleExchange.request sampleExchange.now).1 = .ok sampleAccount ∧
      (sampleReturn.expecting sampleExchange).database.reachable = true ∧
      Throughout Occurrence.Lawful sampleShared.database.store
        (sampleReturn.call samplePolicy sampleExchange).2.database.history := by
    decide +kernel
  have hquiet : ¬(sampleReturn.expecting sampleExchange).database.Disturbed := by
    rintro (hlost | ⟨f, hf, -⟩)
    · rw [hreachable] at hlost
      cases hlost
    · exact List.not_mem_nil hf
  have hasks : sampleExchange.Asks "POST" .exchangeToken := ⟨rfl, rfl⟩
  obtain ⟨identity, o, u, hidentity', -, hlater⟩ := provided_for_ever samplePolicy rfl rfl
    Store.consistent_empty (fun c hc => absurd hc List.not_mem_nil)
    (fun f hf => absurd hf List.not_mem_nil) hcreated
  obtain rfl : Provisioning.sampleVisitor = identity := Except.ok.inj (hidentity.symm.trans hidentity')
  have hgenuine : ∀ c ∈ sampleLater.tail, c.Genuine := by
    simp [sampleLater, Call.Genuine]
  have hreturn : sampleReturn = sampleShared.after samplePolicy
      ([] ++ ⟨sampleWish, sampleInstant, [], .plain⟩ :: sampleLater.tail) := rfl
  obtain ⟨-, -, hexchange⟩ := hlater sampleLater.tail sampleExchange sampleAccount sampleReturn _ _
    hgenuine hreturn (Prod.eta (sampleReturn.call samplePolicy sampleExchange)).symm hlawful hquiet
    hvisitor rfl
  obtain ⟨token, -, hbody, hverify⟩ := hexchange hasks
  obtain ⟨claims, hclaims, -, hemail, hsubject, -⟩ :=
    hverify sampleInstant.seconds (by decide) (by decide)
  exact ⟨token, hbody, claims, hclaims, hemail, hsubject⟩

end Service

end TenantOnboarding
