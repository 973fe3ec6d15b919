import TenantOnboarding.Proofs.Provisioning.Transcript

/-!
# Provisionings keep to their states

Between its statements a provisioning tells its course of events. Whatever the database replies, each of
the events can happen where it is told, and the state fits what is done and what comes of it.

* `Walks` says of a piece of a transcript that it leads from one state to another. It is closed under
  concatenation (`Walks.append`) and holds of every transcript (`Goes.walks`).
* **`keeps_to_states`**: the events are a run of the states, the statements of a creation are sent only
  in the state for it, which a request that was not found valid does not reach, and the last state tells
  what came of the provisioning.
-/

namespace TenantOnboarding.Provisioning

open Database

/-! ## Runs of the states -/

/-- The event that a deed tells of, if it tells of one. -/
def eventOf? : Deed → Option (Event × Option Bool)
  | .meet event valid => some (event, valid)
  | .send .. | .abandon => none

/-- The events of a transcript. -/
def eventsIn (ds : List Deed) : List (Event × Option Bool) :=
  ds.filterMap eventOf?

/-- The state after some events. -/
def State.after (s : State) (events : List (Event × Option Bool)) : Except TransitionFailure State :=
  events.foldlM (fun s event => s.next event.1 event.2) s

/-- Deeds lead from one state to another: their events can happen, only a lookup of the email is sent
outside the state of creating, and to this state one comes only if something is the case. -/
inductive Walks (email : String) (Valid : Prop) : State → List Deed → State → Prop where
  | nil (s : State) : Walks email Valid s [] s
  | meet {s s₁ s₂ : State} {event : Event} {valid : Option Bool} {ds : List Deed}
      (hnext : s.next event valid = .ok s₁) (hvalid : s₁ = .creating → Valid)
      (rest : Walks email Valid s₁ ds s₂) : Walks email Valid s (.meet event valid :: ds) s₂
  | send {s s₁ : State} {sent : Statement} {reply : Reply} {ds : List Deed}
      (hcreating : sent ≠ .findMembership email → s = .creating)
      (rest : Walks email Valid s ds s₁) : Walks email Valid s (.send sent reply :: ds) s₁
  | abandon {s s₁ : State} {ds : List Deed} (rest : Walks email Valid s ds s₁) :
      Walks email Valid s (.abandon :: ds) s₁

namespace Walks

variable {email : String} {Valid : Prop} {s s₁ s₂ : State} {ds ds₁ ds₂ : List Deed}

/-- One walk after another. -/
theorem append (a : Walks email Valid s ds₁ s₁) (b : Walks email Valid s₁ ds₂ s₂) :
    Walks email Valid s (ds₁ ++ ds₂) s₂ := by
  induction a with
  | nil s => exact b
  | meet hnext hvalid _ ih => exact .meet hnext hvalid (ih b)
  | send hcreating _ ih => exact .send hcreating (ih b)
  | abandon _ ih => exact .abandon (ih b)

/-- A walk passes through a state wherever it is cut. -/
theorem exists_between (h : Walks email Valid s (ds₁ ++ ds₂) s₂) :
    ∃ s₁, Walks email Valid s ds₁ s₁ ∧ Walks email Valid s₁ ds₂ s₂ := by
  induction ds₁ generalizing s with
  | nil => exact ⟨s, .nil s, h⟩
  | cons d ds₁ ih =>
    cases h with
    | meet hnext hvalid hrest =>
      obtain ⟨s₁, hfirst, hsecond⟩ := ih hrest
      exact ⟨s₁, .meet hnext hvalid hfirst, hsecond⟩
    | send hcreating hrest =>
      obtain ⟨s₁, hfirst, hsecond⟩ := ih hrest
      exact ⟨s₁, .send hcreating hfirst, hsecond⟩
    | abandon hrest =>
      obtain ⟨s₁, hfirst, hsecond⟩ := ih hrest
      exact ⟨s₁, .abandon hfirst, hsecond⟩

/-- The events of a walk lead where it leads. -/
theorem after_eq (h : Walks email Valid s ds s₁) : s.after (eventsIn ds) = .ok s₁ := by
  induction h with
  | nil s => rfl
  | meet hnext _ _ ih =>
    show (State.next _ _ _ >>= fun s => s.after (eventsIn _)) = _
    rw [hnext]
    exact ih
  | send _ _ ih => exact ih
  | abandon _ ih => exact ih

/-- What is sent besides lookups of the email is sent in the state of creating. -/
theorem creating {sent : Statement} {reply : Reply}
    (h : Walks email Valid s (ds₁ ++ .send sent reply :: ds₂) s₂)
    (hsent : sent ≠ .findMembership email) : s.after (eventsIn ds₁) = .ok .creating := by
  obtain ⟨s₁, hfirst, hsecond⟩ := h.exists_between
  cases hsecond with
  | send hcreating _ => rw [hfirst.after_eq, hcreating hsent]

/-- One comes to the state of creating only if what is asked for is the case. -/
theorem valid (h : Walks email Valid s ds .creating) (hs : s ≠ .creating) : Valid := by
  generalize hlast : State.creating = last at h
  induction h with
  | nil s => exact absurd hlast.symm hs
  | @meet s s₁ s₂ event valid ds hnext hvalid _ ih =>
    by_cases hs₁ : s₁ = .creating
    · exact hvalid hs₁
    · exact ih hs₁ hlast
  | send _ _ ih => exact ih hs hlast
  | abandon _ ih => exact ih hs hlast

/-- A lookup of the email may be sent in every state. -/
theorem lookup {reply : Reply} (rest : Walks email Valid s ds s₁) :
    Walks email Valid s (.send (.findMembership email) reply :: ds) s₁ :=
  .send (fun hother => absurd rfl hother) rest

/-- An event may happen that does not lead to the state of creating. -/
theorem pass {event : Event} {valid : Option Bool} (hnext : s.next event valid = .ok s₁)
    (hs₁ : s₁ ≠ .creating) (rest : Walks email Valid s₁ ds s₂) :
    Walks email Valid s (.meet event valid :: ds) s₂ :=
  .meet hnext (fun hcreating => absurd hcreating hs₁) rest

/-- In the state of creating everything may be sent. -/
theorem of_no_event (h : ∀ d ∈ ds, eventOf? d = none) :
    Walks email Valid .creating ds .creating := by
  induction ds with
  | nil => exact .nil _
  | cons d ds ih =>
    have hrest := ih fun d' hd' => h d' (List.mem_cons_of_mem _ hd')
    cases d with
    | meet event valid => exact absurd (h _ List.mem_cons_self) (Option.some_ne_none _)
    | send sent reply => exact .send (fun _ => rfl) hrest
    | abandon => exact .abandon hrest

end Walks

/-! ## Failures -/

/-- A failure of storage is not that of an event that cannot happen. -/
theorem ofStorage_ne (cause : StorageFailure) (description : String) :
    (.error (.ofStorage cause) : Except Failure Created) ≠
      .error (.internal ("Provisioning state error: " ++ description)) := by
  intro h
  cases cause with
  | alreadyExists =>
    have htext := congrArg String.toList (Failure.internal.inj (Except.error.inj h))
    rw [String.toList_append] at htext
    exact absurd (List.cons.inj htext).1 (by decide)
  | notFound | connection | invalidData => cases h

/-- A conflict is a failure. -/
theorem exists_of_conflictIn (cause : StorageFailure) (again : Except Failure Membership) :
    ∃ failure, conflictIn cause again = .error failure := by
  rcases again with failure | ⟨_ | user, _ | organization⟩ <;> exact ⟨_, rfl⟩

/-! ## Ends -/

/-- The states in which a provisioning may end, by what the first lookup told and what came of it. -/
inductive Ends : Except Failure Membership → State → Except Failure Created → Prop where
  | unknown {failure failure' : Failure} : Ends (.error failure) .checked (.error failure')
  | found {m : Membership} {failure : Failure} (hbelongs : m.Belongs) :
      Ends (.ok m) .exists (.error failure)
  | created {m : Membership} {c : Created} (hnowhere : ¬m.Belongs) : Ends (.ok m) .created (.ok c)
  | failed {m : Membership} {failure : Failure} (hnowhere : ¬m.Belongs) :
      Ends (.ok m) .failed (.error failure)

namespace Ends

variable {first : Except Failure Membership} {state : State} {outcome : Except Failure Created}

/-- It exists what the first lookup found. -/
theorem exists_iff (h : Ends first state outcome) :
    state = .exists ↔ ∃ m, first = .ok m ∧ m.Belongs := by
  cases h <;> simp [*]

/-- It was created what is returned. -/
theorem created_iff (h : Ends first state outcome) : state = .created ↔ ∃ c, outcome = .ok c := by
  cases h <;> simp

/-- Nothing is known without the first lookup. -/
theorem checked_iff (h : Ends first state outcome) :
    state = .checked ↔ ∃ failure, first = .error failure := by
  cases h <;> simp

/-- Whatever else fails, has failed. -/
theorem failed_iff (h : Ends first state outcome) :
    state = .failed ↔
      (∃ m, first = .ok m ∧ ¬m.Belongs) ∧ ∃ failure, outcome = .error failure := by
  cases h <;> simp [*]

end Ends

/-! ## Provisionings -/

section transcripts

variable {identity : Identity} {request : Request} {print : Printer} {ds : List Deed}
  {report : Report}

/-- A creation tells of no events. -/
theorem Creates.no_event {n : NewOrganization} {r : Except StorageFailure Created}
    (h : Creates n ds r) : ∀ d ∈ ds, eventOf? d = none := by
  cases h <;> simp [eventOf?]

/-- Where no user was found, none is there. -/
theorem next_userMissing : State.next .checked .userMissing none = .ok .notFound := rfl

/-- What a provisioning does before it creates. -/
def preparing (email : String) (reply : Reply) : List Deed :=
  [.send (.findMembership email) reply, .meet .userMissing none, .meet .beginCreate (some true)]

/-- What a provisioning does before it creates leads to the state of creating. -/
theorem walks_preparing {n : NewOrganization} (reply : Reply)
    (hvalid : request.validateFor print identity.email = .ok n) :
    Walks identity.email (∃ n, request.validateFor print identity.email = .ok n) .checked
      (preparing identity.email reply) .creating :=
  .lookup (.pass next_userMissing (by decide) (.meet rfl (fun _ => ⟨n, hvalid⟩) (.nil _)))

/-- Every transcript leads to the state of its report. -/
theorem Goes.walks (h : Goes identity request print ds report) :
    Walks identity.email (∃ n, request.validateFor print identity.email = .ok n) .checked ds
      report.course.state := by
  cases h with
  | unknown => exact .lookup (.nil _)
  | found => exact .lookup (.pass rfl (by decide) (.nil _))
  | rejected =>
    exact .lookup (.pass next_userMissing (by decide) (.pass rfl (by decide) (.nil _)))
  | @created reply _ _ _ _ _ _ hvalid hcreates =>
    refine (walks_preparing reply hvalid).append ((Walks.of_no_event hcreates.no_event).append ?_)
    exact .pass rfl (by decide) (.nil _)
  | @failed reply _ _ _ _ _ _ hvalid hcreates _ =>
    refine (walks_preparing reply hvalid).append ((Walks.of_no_event hcreates.no_event).append ?_)
    exact .pass rfl (by decide) (.nil _)
  | @outrun reply _ _ _ _ _ _ hvalid hcreates =>
    refine (walks_preparing reply hvalid).append ((Walks.of_no_event hcreates.no_event).append ?_)
    exact .pass rfl (by decide) (.lookup (.nil _))

/-- The report lists the events that were told. -/
theorem Goes.events (h : Goes identity request print ds report) : eventsIn ds = report.course.events := by
  have hnone : ∀ {n : NewOrganization} {ds : List Deed} {r : Except StorageFailure Created},
      Creates n ds r → eventsIn ds = [] := fun hcreates =>
    List.filterMap_eq_nil_iff.mpr hcreates.no_event
  cases h with
  | unknown | found | rejected => rfl
  | created _ _ _ hcreates | failed _ _ _ hcreates _ | outrun _ _ _ hcreates =>
    unfold eventsIn at hnone ⊢
    simp only [List.filterMap_cons, List.filterMap_append, hnone hcreates, eventOf?]
    rfl

/-- Where a provisioning ends, by what the first lookup told and what came of it. -/
theorem Goes.ends {sent : Statement} {reply : Reply} {rest : List Deed}
    (h : Goes identity request print (.send sent reply :: rest) report) :
    Ends (Directory.membershipIn reply) report.course.state report.outcome := by
  cases h with
  | unknown hlookup =>
    rw [hlookup]
    exact .unknown
  | found hlookup =>
    rw [hlookup]
    exact .found ⟨_, _, rfl⟩
  | rejected hlookup hnowhere =>
    rw [hlookup]
    exact .failed hnowhere
  | created hlookup hnowhere =>
    rw [hlookup]
    exact .created hnowhere
  | failed hlookup hnowhere =>
    rw [hlookup]
    exact .failed hnowhere
  | @outrun _ again _ _ _ hlookup hnowhere =>
    obtain ⟨failure, hfailure⟩ :=
      exists_of_conflictIn .alreadyExists (Directory.membershipIn again)
    rw [hlookup, hfailure]
    exact .failed hnowhere

/-- What is created was committed right before the end. -/
theorem Goes.committed {c : Created} (h : Goes identity request print ds report)
    (hcreated : report.outcome = .ok c) :
    ∃ before rows, ds = before ++ [.send .commit (.ok rows), .meet .commit none] := by
  cases h with
  | unknown | found | rejected | failed => cases hcreated
  | outrun =>
    obtain ⟨failure, hfailure⟩ := exists_of_conflictIn .alreadyExists _
    rw [hfailure] at hcreated
    cases hcreated
  | created _ _ _ hcreates =>
    cases hcreates with
    | created =>
      refine ⟨[_, _, _, _, _, _, _], _, rfl⟩

/-- No failure of a provisioning is that of an event that cannot happen. -/
theorem Goes.unrefused (h : Goes identity request print ds report) (description : String) :
    report.outcome ≠ .error (.internal ("Provisioning state error: " ++ description)) := by
  cases h with
  | unknown hlookup =>
    obtain ⟨cause, rfl⟩ := Directory.database_of_membershipIn hlookup
    rintro ⟨⟩
  | found => rintro ⟨⟩
  | rejected _ _ hinvalid =>
    obtain ⟨message, rfl⟩ := Request.validation_of_validateFor hinvalid
    rintro ⟨⟩
  | created => rintro ⟨⟩
  | @failed _ _ _ _ cause => exact ofStorage_ne cause description
  | @outrun _ again =>
    show conflictIn _ _ ≠ _
    rcases hlookup : Directory.membershipIn again with failure | ⟨_ | user, _ | organization⟩
    case error =>
      obtain ⟨cause, rfl⟩ := Directory.database_of_membershipIn hlookup
      rintro ⟨⟩
    case ok.some.some => rintro ⟨⟩
    all_goals exact ofStorage_ne .alreadyExists description

end transcripts

/-- What it is for a provisioning to keep to its states, by the first lookup, its transcript and its
report. -/
structure KeepsToStates (identity : Identity) (request : Request) (print : Printer)
    (first : Except Failure Membership) (ds : List Deed) (report : Report) : Prop where
  /-- The events that are told are those of the report. -/
  events : eventsIn ds = report.course.events
  /-- They can happen one after another, and lead to the state of the report. -/
  follows : State.checked.after (eventsIn ds) = .ok report.course.state
  /-- No failure is that of an event that cannot happen. -/
  unrefused : ∀ description,
    report.outcome ≠ .error (.internal ("Provisioning state error: " ++ description))
  /-- What is sent besides lookups of the email is sent in the state of creating. -/
  creating : ∀ before sent reply after, ds = before ++ .send sent reply :: after →
    sent ≠ .findMembership identity.email →
    State.checked.after (eventsIn before) = .ok .creating
  /-- To this state one comes only with a request that was found valid. -/
  valid : ∀ before after, ds = before ++ after →
    State.checked.after (eventsIn before) = .ok .creating →
    ∃ n, request.validateFor print identity.email = .ok n
  /-- It is told that the user exists where the first lookup found them. -/
  exists_iff : report.course.state = .exists ↔ ∃ m, first = .ok m ∧ m.Belongs
  /-- It is told that the organization was created where it was. -/
  created_iff : report.course.state = .created ↔ ∃ c, report.outcome = .ok c
  /-- What was created was committed right before. -/
  committed : ∀ c, report.outcome = .ok c →
    ∃ before rows, ds = before ++ [.send .commit (.ok rows), .meet .commit none]
  /-- Nothing is told where the first lookup failed. -/
  checked_iff : report.course.state = .checked ↔ ∃ failure, first = .error failure
  /-- In all other cases it is told that nothing was written, also where somebody else was faster. -/
  failed_iff : report.course.state = .failed ↔
    (∃ m, first = .ok m ∧ ¬m.Belongs) ∧ ∃ failure, report.outcome = .error failure

/-- The first thing that a provisioning does is to look the email up. -/
theorem exists_transcript (identity : Identity) (request : Request) (print : Printer)
    (db : Database) :
    ∃ reply rest,
      (provide identity request print).transcript db =
          .send (.findMembership identity.email) reply :: rest ∧
        Directory.membershipIn reply = ((Directory.membership identity.email).run db).1 := by
  refine ⟨_, _, rfl, ?_⟩
  rw [Directory.run_membership, Work.run_send]
  rcases db.deliver (.findMembership identity.email) with ⟨cause | rows, db'⟩ <;> rfl

/-- **A provisioning keeps to its states**, whoever asks for whatever at whatever database: so do the deeds
that are done when it is carried out there. -/
theorem keeps_to_states (identity : Identity) (request : Request) (print : Printer)
    (db : Database) :
    KeepsToStates identity request print ((Directory.membership identity.email).run db).1
      ((provide identity request print).transcript db)
      ((provide identity request print).run db).1 := by
  have hgoes := goes_provide identity request print db
  obtain ⟨reply, rest, htranscript, hfirst⟩ := exists_transcript identity request print db
  have hwalks := hgoes.walks
  have hends := (htranscript ▸ hgoes).ends
  rw [hfirst] at hends
  refine
    { events := hgoes.events
      follows := hwalks.after_eq
      unrefused := hgoes.unrefused
      creating := ?_
      valid := ?_
      exists_iff := hends.exists_iff
      created_iff := hends.created_iff
      committed := fun c hcreated => hgoes.committed hcreated
      checked_iff := hends.checked_iff
      failed_iff := hends.failed_iff }
  · intro before sent reply after hds hsent
    rw [hds] at hwalks
    exact hwalks.creating hsent
  · intro before after hds hcreating
    rw [hds] at hwalks
    obtain ⟨s, hbefore, -⟩ := hwalks.exists_between
    rw [hbefore.after_eq] at hcreating
    cases hcreating
    exact hbefore.valid (by decide)

end TenantOnboarding.Provisioning
