import TenantOnboarding.Proofs.Provisioning.Creation

/-!
# Provisionings, deed by deed

Which deeds a creation and a provisioning allow for, whatever the database replies. What they do next
depends on the replies and on nothing else of the database.

* `Creates` and `Goes` list the transcripts of creations and of provisionings.
* **`goes_of_allows`**: a provisioning allows for no other. So what is proved of the listed ones by cases
  is proved of what is done at every database (`goes_provide`).
-/

namespace TenantOnboarding

open Database

/-! ## Parts of scripts -/

/-- The membership that a reply tells. -/
def Directory.membershipIn : Reply → Except Failure Membership
  | .error cause => .error (.database cause)
  | .ok rows =>
    match first? Membership.ofRow? rows with
    | .ok found => .ok (found.getD .nowhere)
    | .error cause => .error (.database cause)

/-- That a reply tells no membership is a failure of the database. -/
theorem Directory.database_of_membershipIn {reply : Reply} {failure : Failure}
    (h : Directory.membershipIn reply = .error failure) : ∃ cause, failure = .database cause := by
  unfold Directory.membershipIn at h
  split at h
  · cases h
    exact ⟨_, rfl⟩
  · split at h
    · cases h
    · cases h
      exact ⟨_, rfl⟩

/-- The email belongs to an organization. -/
def Membership.Belongs (m : Membership) : Prop :=
  ∃ user organization, m = ⟨some user, some organization⟩

/-- The record that a reply must carry, read by `ofRow?`. -/
def Tenancy.recordIn {α : Type} (ofRow? : Row → Option α) : Reply → Except StorageFailure α
  | .error cause => .error (.ofDatabase cause)
  | .ok rows => required ofRow? rows

variable {ds : List Deed}

/-- Asking for a membership means to send a statement and to read the reply. -/
theorem Directory.exists_of_allows_membership {email : String} {r : Except Failure Membership}
    (h : (membership email).run.Allows ds r) :
    ∃ reply, ds = [.send (.findMembership email) reply] ∧ r = membershipIn reply := by
  unfold membership ask at h
  rcases Work.allows_bind_iff.mp h with ⟨failure, rfl, hasked⟩ | ⟨first, rows, later, rfl, hasked, hread⟩
  · obtain ⟨cause | rows, hsent, hr⟩ := Work.allows_adapt_iff.mp hasked
    · cases hr
      exact ⟨_, Work.allows_send_iff.mp hsent, rfl⟩
    · cases hr
  · obtain ⟨cause | rows', hsent, hr⟩ := Work.allows_adapt_iff.mp hasked
    · cases hr
    · cases hr
      obtain rfl := Work.allows_send_iff.mp hsent
      refine ⟨.ok rows, ?_⟩
      simp only [membershipIn]
      rcases hfirst : first? Membership.ofRow? rows with cause | found
      · simp only [hfirst] at hread
        obtain ⟨rfl, rfl⟩ := Script.allows_pure_iff.mp hread
        exact ⟨rfl, rfl⟩
      · simp only [hfirst] at hread
        obtain ⟨rfl, rfl⟩ := Script.allows_pure_iff.mp hread
        exact ⟨rfl, rfl⟩

namespace Tenancy

/-- What is told and read means to send a statement and to read the reply. -/
theorem exists_of_allows_tell {α : Type} {s : Statement} (read : List Row → Except StorageFailure α)
    {r : Except StorageFailure α}
    (h : (tell s >>= fun rows => ExceptT.mk (pure (read rows))).run.Allows ds r) :
    ∃ reply, ds = [.send s reply] ∧ r = reply.mapError .ofDatabase >>= read := by
  rcases Work.allows_bind_iff.mp h with ⟨failure, rfl, htold⟩ | ⟨first, rows, later, rfl, htold, hread⟩
  · obtain ⟨cause | rows, hsent, hr⟩ := Work.allows_adapt_iff.mp htold
    · cases hr
      exact ⟨_, Work.allows_send_iff.mp hsent, rfl⟩
    · cases hr
  · obtain ⟨cause | rows', hsent, hr⟩ := Work.allows_adapt_iff.mp htold
    · cases hr
    · cases hr
      obtain rfl := Work.allows_send_iff.mp hsent
      obtain ⟨rfl, rfl⟩ := Script.allows_pure_iff.mp hread
      exact ⟨.ok rows, rfl, rfl⟩

/-- What is told and must be returned means to send a statement and to read the record of the reply. -/
theorem exists_of_allows_required {α : Type} {s : Statement} {ofRow? : Row → Option α}
    {r : Except StorageFailure α}
    (h : (tell s >>= fun rows => ExceptT.mk (pure (required ofRow? rows))).run.Allows ds r) :
    ∃ reply, ds = [.send s reply] ∧ recordIn ofRow? reply = r := by
  obtain ⟨cause | rows, rfl, rfl⟩ := exists_of_allows_tell _ h <;> exact ⟨_, rfl, rfl⟩

/-- A transaction is begun by a statement. If that fails, it is abandoned. -/
theorem cases_of_allows_begin {r : Except StorageFailure Unit} (h : begin.run.Allows ds r) :
    (∃ rows, ds = [.send .begin (.ok rows)] ∧ r = .ok ()) ∨
      ∃ cause, ds = [.send .begin (.error cause), .abandon] ∧ r = .error (.ofDatabase cause) := by
  obtain ⟨first, r₁, later, rfl, htold, hlater⟩ := Work.allows_lift_bind_iff.mp h
  obtain ⟨cause | rows, hsent, rfl⟩ := Work.allows_adapt_iff.mp htold
  · obtain rfl := Work.allows_send_iff.mp hsent
    obtain ⟨rest, rfl, hdone⟩ := Script.allows_abandon_iff.mp hlater
    obtain ⟨rfl, rfl⟩ := Script.allows_pure_iff.mp hdone
    exact .inr ⟨cause, rfl, rfl⟩
  · obtain rfl := Work.allows_send_iff.mp hsent
    obtain ⟨rfl, rfl⟩ := Script.allows_pure_iff.mp hlater
    exact .inl ⟨rows, rfl, rfl⟩

end Tenancy

/-- A transaction is committed by a statement. If that fails, it is abandoned. -/
theorem Database.cases_of_allows_close {r : Except DatabaseFailure Unit} (h : close.run.Allows ds r) :
    (∃ rows, ds = [.send .commit (.ok rows)] ∧ r = .ok ()) ∨
      ∃ cause, ds = [.send .commit (.error cause), .abandon] ∧ r = .error cause := by
  obtain ⟨first, cause | rows, later, rfl, hsent, hlater⟩ := Work.allows_lift_bind_iff.mp h
  · obtain rfl := Work.allows_send_iff.mp hsent
    obtain ⟨rest, rfl, hdone⟩ := Script.allows_abandon_iff.mp hlater
    obtain ⟨rfl, rfl⟩ := Script.allows_pure_iff.mp hdone
    exact .inr ⟨cause, rfl, rfl⟩
  · obtain rfl := Work.allows_send_iff.mp hsent
    obtain ⟨rfl, rfl⟩ := Script.allows_pure_iff.mp hlater
    exact .inl ⟨rows, rfl, rfl⟩

/-- What is done in a transaction. It is begun, the body is carried out, and it is committed; if any of
this fails, it is abandoned. -/
theorem Tenancy.cases_of_allows_inTransaction {α : Type} {body : Work StorageFailure α}
    {r : Except StorageFailure α} (h : (inTransaction body).run.Allows ds r) :
    (∃ cause, ds = [.send .begin (.error cause), .abandon] ∧ r = .error (.ofDatabase cause)) ∨
      ∃ begun inner r₁, body.run.Allows inner r₁ ∧
        ((∃ cause, r₁ = .error cause ∧ r = .error cause ∧
            ds = .send .begin (.ok begun) :: (inner ++ [.abandon])) ∨
          ∃ a, r₁ = .ok a ∧
            ((∃ committed, r = .ok a ∧
                ds = .send .begin (.ok begun) :: (inner ++ [.send .commit (.ok committed)])) ∨
              ∃ cause, r = .error (.ofDatabase cause) ∧
                ds = .send .begin (.ok begun) ::
                  (inner ++ [.send .commit (.error cause), .abandon]))) := by
  rcases Work.allows_bind_iff.mp h with ⟨failure, rfl, hbegin⟩ | ⟨_, _, _, rfl, hbegin, hrest⟩
  · rcases cases_of_allows_begin hbegin with ⟨_, -, hr⟩ | ⟨cause, rfl, hr⟩
    · cases hr
    · cases hr
      exact .inl ⟨cause, rfl, rfl⟩
  rcases cases_of_allows_begin hbegin with ⟨begun, rfl, -⟩ | ⟨_, -, hr⟩
  swap
  · cases hr
  obtain ⟨inner, r₁, _, rfl, hbody, hend⟩ := Work.allows_lift_bind_iff.mp hrest
  refine .inr ⟨begun, inner, r₁, hbody, ?_⟩
  rcases r₁ with cause | a
  · obtain ⟨_, rfl, hdone⟩ := Script.allows_abandon_iff.mp hend
    obtain ⟨rfl, rfl⟩ := Script.allows_pure_iff.mp hdone
    exact .inl ⟨cause, rfl, rfl, rfl⟩
  · refine .inr ⟨a, rfl, ?_⟩
    rcases Work.allows_bind_iff.mp hend with ⟨failure, rfl, hclose⟩ | ⟨_, _, _, rfl, hclose, hdone⟩
    · obtain ⟨r, hclose, hr⟩ := Work.allows_adapt_iff.mp hclose
      rcases Database.cases_of_allows_close hclose with ⟨_, -, rfl⟩ | ⟨cause, rfl, rfl⟩
      · cases hr
      · cases hr
        exact .inr ⟨cause, rfl, rfl⟩
    · obtain ⟨r, hclose, hr⟩ := Work.allows_adapt_iff.mp hclose
      rcases Database.cases_of_allows_close hclose with ⟨committed, rfl, rfl⟩ | ⟨cause, -, rfl⟩
      · obtain ⟨rfl, rfl⟩ := Script.allows_pure_iff.mp hdone
        exact .inl ⟨committed, rfl, rfl⟩
      · cases hr

namespace Provisioning

/-- The failure of the request, by where the email belongs after a creation failed. -/
def conflictIn (cause : StorageFailure) : Except Failure Membership → Except Failure Created
  | .error failure => .error failure
  | .ok ⟨some user, some organization⟩ => .error (.alreadyExists user organization)
  | .ok _ => .error (.ofStorage cause)

/-! ## What may be done -/

/-- The transcripts of creations, and what comes of them. -/
inductive Creates (n : NewOrganization) : List Deed → Except StorageFailure Created → Prop where
  | notBegun {cause : DatabaseFailure} :
      Creates n [.send .begin (.error cause), .abandon] (.error (.ofDatabase cause))
  | noOrganization {begun : List Row} {reply : Reply} {cause : StorageFailure}
      (hrecord : Tenancy.recordIn Organization.ofRow? reply = .error cause) :
      Creates n
        [.send .begin (.ok begun), .send (.insertOrganization n.name n.description) reply, .abandon]
        (.error cause)
  | notScoped {begun : List Row} {reply : Reply} {o : Organization} {cause : DatabaseFailure}
      (hrecord : Tenancy.recordIn Organization.ofRow? reply = .ok o) :
      Creates n
        [.send .begin (.ok begun), .send (.insertOrganization n.name n.description) reply,
          .send (.setConfig Tenancy.claimsSetting (Tenancy.claimsOf o.id) true) (.error cause),
          .abandon]
        (.error (.ofDatabase cause))
  | noOwner {begun claimed : List Row} {reply reply' : Reply} {o : Organization}
      {cause : StorageFailure}
      (hrecord : Tenancy.recordIn Organization.ofRow? reply = .ok o)
      (howner : Tenancy.recordIn AppUser.ofRow? reply' = .error cause) :
      Creates n
        [.send .begin (.ok begun), .send (.insertOrganization n.name n.description) reply,
          .send (.setConfig Tenancy.claimsSetting (Tenancy.claimsOf o.id) true) (.ok claimed),
          .send (.insertUser n.ownerEmail o.id .owner) reply', .abandon]
        (.error cause)
  | notCommitted {begun claimed : List Row} {reply reply' : Reply} {o : Organization} {u : AppUser}
      {cause : DatabaseFailure}
      (hrecord : Tenancy.recordIn Organization.ofRow? reply = .ok o)
      (howner : Tenancy.recordIn AppUser.ofRow? reply' = .ok u) :
      Creates n
        [.send .begin (.ok begun), .send (.insertOrganization n.name n.description) reply,
          .send (.setConfig Tenancy.claimsSetting (Tenancy.claimsOf o.id) true) (.ok claimed),
          .send (.insertUser n.ownerEmail o.id .owner) reply', .send .commit (.error cause), .abandon]
        (.error (.ofDatabase cause))
  | created {begun claimed committed : List Row} {reply reply' : Reply} {o : Organization}
      {u : AppUser}
      (hrecord : Tenancy.recordIn Organization.ofRow? reply = .ok o)
      (howner : Tenancy.recordIn AppUser.ofRow? reply' = .ok u) :
      Creates n
        [.send .begin (.ok begun), .send (.insertOrganization n.name n.description) reply,
          .send (.setConfig Tenancy.claimsSetting (Tenancy.claimsOf o.id) true) (.ok claimed),
          .send (.insertUser n.ownerEmail o.id .owner) reply', .send .commit (.ok committed)]
        (.ok ⟨o, u⟩)

/-- The transcripts of provisionings, and their reports. -/
inductive Goes (identity : Identity) (request : Request) (print : Printer) :
    List Deed → Report → Prop where
  | unknown {reply : Reply} {failure : Failure}
      (hlookup : Directory.membershipIn reply = .error failure) :
      Goes identity request print [.send (.findMembership identity.email) reply]
        ⟨.start, .error failure⟩
  | found {reply : Reply} {user organization : Int64}
      (hlookup : Directory.membershipIn reply = .ok ⟨some user, some organization⟩) :
      Goes identity request print
        [.send (.findMembership identity.email) reply, .meet .userFound none]
        ⟨.found, .error (.alreadyExists user organization)⟩
  | rejected {reply : Reply} {m : Membership} {failure : Failure}
      (hlookup : Directory.membershipIn reply = .ok m) (hnowhere : ¬m.Belongs)
      (hinvalid : request.validateFor print identity.email = .error failure) :
      Goes identity request print
        [.send (.findMembership identity.email) reply, .meet .userMissing none, .meet .reject none]
        ⟨.rejected, .error failure⟩
  | created {reply : Reply} {m : Membership} {n : NewOrganization} {ds : List Deed} {c : Created}
      (hlookup : Directory.membershipIn reply = .ok m) (hnowhere : ¬m.Belongs)
      (hvalid : request.validateFor print identity.email = .ok n) (hcreates : Creates n ds (.ok c)) :
      Goes identity request print
        (.send (.findMembership identity.email) reply :: .meet .userMissing none ::
          .meet .beginCreate (some true) :: (ds ++ [.meet .commit none]))
        ⟨.created, .ok c⟩
  | failed {reply : Reply} {m : Membership} {n : NewOrganization} {ds : List Deed}
      {cause : StorageFailure}
      (hlookup : Directory.membershipIn reply = .ok m) (hnowhere : ¬m.Belongs)
      (hvalid : request.validateFor print identity.email = .ok n) (hcreates : Creates n ds (.error cause))
      (hother : cause ≠ .alreadyExists) :
      Goes identity request print
        (.send (.findMembership identity.email) reply :: .meet .userMissing none ::
          .meet .beginCreate (some true) :: (ds ++ [.meet .abort none]))
        ⟨.aborted, .error (.ofStorage cause)⟩
  | outrun {reply again : Reply} {m : Membership} {n : NewOrganization} {ds : List Deed}
      (hlookup : Directory.membershipIn reply = .ok m) (hnowhere : ¬m.Belongs)
      (hvalid : request.validateFor print identity.email = .ok n)
      (hcreates : Creates n ds (.error .alreadyExists)) :
      Goes identity request print
        (.send (.findMembership identity.email) reply :: .meet .userMissing none ::
          .meet .beginCreate (some true) ::
          (ds ++ [.meet .abort none, .send (.findMembership identity.email) again]))
        ⟨.aborted, conflictIn .alreadyExists (Directory.membershipIn again)⟩

/-! ### Nothing else -/

/-- **A creation allows for nothing else.** -/
theorem creates_of_allows {n : NewOrganization} {r : Except StorageFailure Created}
    (h : (createWithOwner n).run.Allows ds r) : Creates n ds r := by
  rcases Tenancy.cases_of_allows_inTransaction h with ⟨cause, rfl, rfl⟩ | ⟨begun, inner, r₁, hbody, hend⟩
  · exact .notBegun
  -- If an insertion fails, the transaction is abandoned.
  have hfailed : ∀ {cause}, r₁ = .error cause →
      r = .error cause ∧ ds = .send .begin (.ok begun) :: (inner ++ [.abandon]) := by
    rintro cause rfl
    rcases hend with ⟨_, ⟨⟩, hr, hds⟩ | ⟨_, ⟨⟩, -⟩
    exact ⟨hr, hds⟩
  rcases Work.allows_bind_iff.mp hbody with ⟨cause, hr₁, hinsert⟩ | ⟨_, o, _, rfl, hinsert, hscoping⟩
  · obtain ⟨reply, rfl, hrecord⟩ := Tenancy.exists_of_allows_required hinsert
    obtain ⟨rfl, rfl⟩ := hfailed hr₁
    exact .noOrganization hrecord
  obtain ⟨reply, rfl, hrecord⟩ := Tenancy.exists_of_allows_required hinsert
  rcases Work.allows_bind_iff.mp hscoping with ⟨cause, hr₁, hset⟩ | ⟨_, _, _, rfl, hset, howning⟩
  · obtain ⟨cause | claimed, rfl, hr⟩ := Tenancy.exists_of_allows_tell (fun _ => .ok ()) hset
    · cases hr
      obtain ⟨rfl, rfl⟩ := hfailed hr₁
      exact .notScoped hrecord
    · cases hr
  obtain ⟨cause | claimed, rfl, hr⟩ := Tenancy.exists_of_allows_tell (fun _ => .ok ()) hset
  · cases hr
  rcases Work.allows_bind_iff.mp howning with ⟨cause, hr₁, hwrite⟩ | ⟨_, u, _, rfl, hwrite, hdone⟩
  · obtain ⟨reply', rfl, howner⟩ := Tenancy.exists_of_allows_required hwrite
    obtain ⟨rfl, rfl⟩ := hfailed hr₁
    exact .noOwner hrecord howner
  obtain ⟨reply', rfl, howner⟩ := Tenancy.exists_of_allows_required hwrite
  obtain ⟨rfl, rfl⟩ := Script.allows_pure_iff.mp hdone
  rcases hend with ⟨_, ⟨⟩, -⟩ | ⟨_, ⟨⟩, ⟨committed, rfl, rfl⟩ | ⟨cause, rfl, rfl⟩⟩
  · exact .created hrecord howner
  · exact .notCommitted hrecord howner

section provisioning

variable {identity : Identity} {request : Request} {print : Printer} {report : Report}

/-- A provisioning that ends with an event that can happen does nothing but to tell it. -/
theorem eq_of_allows_finish {c c' : Course} {event : Event} {outcome : Except Failure Created}
    (hnext : c.next event none = .ok c') (h : (c.finish event outcome).Allows ds report) :
    ds = [.meet event none] ∧ report = ⟨c', outcome⟩ := by
  obtain ⟨first, advanced, later, rfl, hadvance, hdone⟩ := Script.allows_bind_iff.mp h
  obtain ⟨rest, rfl, htold⟩ := Script.allows_meet_iff.mp hadvance
  obtain ⟨rfl, rfl⟩ := Script.allows_pure_iff.mp htold
  rw [hnext] at hdone
  obtain ⟨rfl, rfl⟩ := Script.allows_pure_iff.mp hdone
  exact ⟨rfl, rfl⟩

/-- Finding out what stood against a creation means to look the email up if a uniqueness constraint was
broken, and to do nothing otherwise. -/
theorem cases_of_allows_resolve {cause : StorageFailure} {email : String}
    {r : Except Failure Created} (h : (resolve cause email).run.Allows ds r) :
    (cause ≠ .alreadyExists ∧ ds = [] ∧ r = .error (.ofStorage cause)) ∨
      cause = .alreadyExists ∧ ∃ reply, ds = [.send (.findMembership email) reply] ∧
        r = conflictIn cause (Directory.membershipIn reply) := by
  unfold resolve at h
  by_cases hcause : cause = .alreadyExists
  · rw [if_pos hcause] at h
    refine .inr ⟨hcause, ?_⟩
    rcases Work.allows_bind_iff.mp h with ⟨failure, rfl, hlookup⟩ | ⟨_, m, later, rfl, hlookup, h⟩
    · obtain ⟨reply, rfl, hm⟩ := Directory.exists_of_allows_membership hlookup
      exact ⟨reply, rfl, by rw [← hm]; rfl⟩
    · obtain ⟨reply, rfl, hm⟩ := Directory.exists_of_allows_membership hlookup
      refine ⟨reply, ?_⟩
      rw [← hm]
      rcases m with ⟨_ | user, _ | organization⟩ <;>
      · obtain ⟨rfl, rfl⟩ := Script.allows_pure_iff.mp h
        exact ⟨rfl, rfl⟩
  · rw [if_neg hcause] at h
    obtain ⟨rfl, rfl⟩ := Script.allows_pure_iff.mp h
    exact .inl ⟨hcause, rfl, rfl⟩

/-- What an attempt does after the lookup, and its report. -/
theorem goes_of_allows_attempt {n : NewOrganization} {reply : Reply} {m : Membership}
    (hlookup : Directory.membershipIn reply = .ok m) (hnowhere : ¬m.Belongs)
    (hvalid : request.validateFor print identity.email = .ok n)
    (h : (attempt n identity.email).Allows ds report) :
    Goes identity request print
      (.send (.findMembership identity.email) reply :: .meet .userMissing none ::
        .meet .beginCreate (some true) :: ds) report := by
  obtain ⟨creating, cause | created, _, rfl, hcreate, hrest⟩ := Script.allows_bind_iff.mp h
  · have hcreates := creates_of_allows hcreate
    obtain ⟨_, rfl, hresolving⟩ := Script.allows_meet_iff.mp hrest
    obtain ⟨r, hresolve, rfl⟩ := Script.allows_map_iff.mp hresolving
    rcases cases_of_allows_resolve hresolve with ⟨hother, rfl, rfl⟩ | ⟨rfl, again, rfl, rfl⟩
    · exact .failed hlookup hnowhere hvalid hcreates hother
    · exact .outrun hlookup hnowhere hvalid hcreates
  · obtain ⟨rfl, rfl⟩ := eq_of_allows_finish rfl hrest
    exact .created hlookup hnowhere hvalid (creates_of_allows hcreate)

/-- What is done for a visitor whose email belongs nowhere. -/
def introduce (identity : Identity) (request : Request) (print : Printer) : Script Report :=
  .meet .userMissing none
    (match request.validateFor print identity.email with
    | .error failure => .meet .reject none (.done ⟨.rejected, .error failure⟩)
    | .ok n => .meet .beginCreate (some true) (attempt n identity.email))

/-- What a provisioning does after a lookup that did not find the user, and its report. -/
theorem goes_of_allows_introduce {reply : Reply} {m : Membership}
    (hlookup : Directory.membershipIn reply = .ok m) (hnowhere : ¬m.Belongs)
    (h : (introduce identity request print).Allows ds report) :
    Goes identity request print (.send (.findMembership identity.email) reply :: ds) report := by
  obtain ⟨_, rfl, hexamined⟩ := Script.allows_meet_iff.mp h
  rcases hvalid : request.validateFor print identity.email with failure | n
  · rw [hvalid] at hexamined
    obtain ⟨_, rfl, hdone⟩ := Script.allows_meet_iff.mp hexamined
    obtain ⟨rfl, rfl⟩ := Script.allows_pure_iff.mp hdone
    exact .rejected hlookup hnowhere hvalid
  · rw [hvalid] at hexamined
    obtain ⟨_, rfl, hattempt⟩ := Script.allows_meet_iff.mp hexamined
    exact goes_of_allows_attempt hlookup hnowhere hvalid hattempt

/-- **A provisioning allows for nothing else.** -/
theorem goes_of_allows (h : (provide identity request print).Allows ds report) :
    Goes identity request print ds report := by
  obtain ⟨first, r, later, rfl, hasked, h⟩ := Script.allows_bind_iff.mp h
  obtain ⟨reply, rfl, rfl⟩ := Directory.exists_of_allows_membership hasked
  rcases hlookup : Directory.membershipIn reply with failure | ⟨_ | user, _ | organization⟩
  case error =>
    rw [hlookup] at h
    obtain ⟨rfl, rfl⟩ := Script.allows_pure_iff.mp h
    exact .unknown hlookup
  case ok.some.some =>
    rw [hlookup] at h
    obtain ⟨rfl, rfl⟩ := eq_of_allows_finish rfl h
    exact .found hlookup
  all_goals
    rw [hlookup] at h
    exact goes_of_allows_introduce hlookup (by rintro ⟨_, _, ⟨⟩⟩) h

end provisioning

/-- What a provisioning does at a database is listed. -/
theorem goes_provide (identity : Identity) (request : Request) (print : Printer) (db : Database) :
    Goes identity request print ((provide identity request print).transcript db)
      ((provide identity request print).run db).1 :=
  goes_of_allows (Script.allows_run _ db)

end Provisioning

end TenantOnboarding
