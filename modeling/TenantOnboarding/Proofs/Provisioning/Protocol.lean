import TenantOnboarding.Proofs.Provisioning.Conduct
import TenantOnboarding.Proofs.Provisioning.Rows

/-!
# The statements of a provisioning

Which statements a provisioning sends, and what becomes of its transaction, whatever the database
replies.

* `Transacts` says of a transaction that it sends its statements one after another, and that it is
  abandoned as soon as one of them fails. `Creates.transacts` says it of creations.
* **`Goes.follows`**: a provisioning looks the email up, if need be sends the statements of a creation in
  such a transaction, and looks the email up once more if a uniqueness constraint was broken.
* `run_advances`: without a commit that succeeded, nothing was committed, unless the answer to the
  commit was lost; `closed_provide`: no transaction is left. `run_log` says that nothing but the
  statements of the transcript reaches the database.
-/

namespace TenantOnboarding

open Database

/-! ## Replies -/

/-- What a reply means to a transaction: it goes on, or it fails. -/
def Statement.verdict (s : Statement) (reply : Reply) : Except StorageFailure Unit :=
  match s with
  | .insertOrganization .. => (Tenancy.recordIn Organization.ofRow? reply).map fun _ => ()
  | .insertUser .. => (Tenancy.recordIn AppUser.ofRow? reply).map fun _ => ()
  | _ => (reply.mapError .ofDatabase).map fun _ => ()

/-- A record that is missing or cannot be read is not one that is there already. -/
theorem Tenancy.required_ne {α : Type} (ofRow? : Row → Option α) (rows : List Row) :
    required ofRow? rows ≠ .error .alreadyExists := by
  unfold required
  split
  · rintro ⟨⟩
  · split <;> rintro ⟨⟩

/-- Somebody else was faster exactly if a uniqueness constraint was broken. -/
theorem Tenancy.recordIn_eq_iff {α : Type} {ofRow? : Row → Option α} {reply : Reply} :
    recordIn ofRow? reply = .error .alreadyExists ↔
      ∃ cause, reply = .error cause ∧ cause.code? = some DatabaseFailure.uniqueViolation := by
  cases reply with
  | error cause =>
    show Except.error (StorageFailure.ofDatabase cause) = _ ↔ _
    rw [Except.error.injEq, StorageFailure.ofDatabase_eq_alreadyExists_iff]
    constructor
    · intro htaken
      exact ⟨cause, rfl, htaken⟩
    · rintro ⟨_, ⟨⟩, htaken⟩
      exact htaken
  | ok rows =>
    constructor
    · intro h
      exact absurd h (required_ne ofRow? rows)
    · rintro ⟨_, ⟨⟩, -⟩

/-- The verdict on a record that must be returned. -/
theorem map_eq_error_iff {α : Type} {r : Except StorageFailure α} {cause : StorageFailure} :
    (r.map fun _ => ()) = .error cause ↔ r = .error cause := by
  cases r <;> simp [Except.map]

/-- A statement fails because of somebody else exactly if a uniqueness constraint was broken. -/
theorem Statement.verdict_eq_iff {s : Statement} {reply : Reply} :
    s.verdict reply = .error .alreadyExists ↔
      ∃ cause, reply = .error cause ∧ cause.code? = some DatabaseFailure.uniqueViolation := by
  have hplain : reply.mapError StorageFailure.ofDatabase = .error .alreadyExists ↔
      ∃ cause, reply = .error cause ∧ cause.code? = some DatabaseFailure.uniqueViolation := by
    cases reply <;> simp [Except.mapError, StorageFailure.ofDatabase_eq_alreadyExists_iff]
  cases s with
  | insertOrganization | insertUser => exact map_eq_error_iff.trans Tenancy.recordIn_eq_iff
  | findMembership | findUser | begin | setConfig | migrate | recordMigration | commit =>
    exact map_eq_error_iff.trans hplain

namespace Provisioning

/-! ## Transactions -/

/-- The statements of a creation whose organization got a number. -/
def statements (n : NewOrganization) (organization : Int64) : List Statement :=
  [.begin, .insertOrganization n.name n.description,
    .setConfig Tenancy.claimsSetting (Tenancy.claimsOf organization) true,
    .insertUser n.ownerEmail organization .owner, .commit]

/-- Statements are sent one after another. If one of them fails, the transaction is abandoned at once and
the others are not sent. -/
inductive Transacts : List Statement → List Deed → Option StorageFailure → Prop where
  | done : Transacts [] [] none
  | next {s : Statement} {ss : List Statement} {reply : Reply} {ds : List Deed}
      {failure : Option StorageFailure} (hverdict : s.verdict reply = .ok ())
      (rest : Transacts ss ds failure) : Transacts (s :: ss) (.send s reply :: ds) failure
  | failed {s : Statement} {ss : List Statement} {reply : Reply} {cause : StorageFailure}
      (hverdict : s.verdict reply = .error cause) :
      Transacts (s :: ss) [.send s reply, .abandon] (some cause)

/-- The statement that a deed sends, if it sends one. -/
def statementOf? : Deed → Option Statement
  | .send s _ => some s
  | .meet .. | .abandon => none

/-- The statements of a transcript. -/
def statementsIn (ds : List Deed) : List Statement :=
  ds.filterMap statementOf?

namespace Transacts

variable {ss : List Statement} {ds : List Deed} {failure : Option StorageFailure}

/-- What is sent is a beginning of what there is to be sent. -/
theorem isPrefix (h : Transacts ss ds failure) : statementsIn ds <+: ss := by
  induction h with
  | done => exact List.prefix_refl _
  | next _ _ ih => exact List.cons_prefix_cons.mpr ⟨rfl, ih⟩
  | @failed s ss => exact List.cons_prefix_cons.mpr ⟨rfl, List.nil_prefix⟩

/-- Without a failure everything is sent. -/
theorem statementsIn_eq (h : Transacts ss ds failure) (hnone : failure = none) :
    statementsIn ds = ss := by
  induction h with
  | done => rfl
  | next _ _ ih => exact congrArg _ (ih hnone)
  | failed => cases hnone

/-- What fails last is abandoned. -/
theorem abandoned {cause : StorageFailure} (h : Transacts ss ds failure)
    (hcause : failure = some cause) :
    ∃ before s reply, ds = before ++ [.send s reply, .abandon] ∧ s.verdict reply = .error cause := by
  induction h with
  | done => cases hcause
  | @next s _ reply _ _ _ _ ih =>
    obtain ⟨before, s', reply', rfl, hverdict⟩ := ih hcause
    exact ⟨.send s reply :: before, s', reply', rfl, hverdict⟩
  | @failed s _ reply _ hverdict =>
    cases hcause
    exact ⟨[], s, reply, rfl, hverdict⟩

/-- The transaction failed because of somebody else exactly if a uniqueness constraint was broken. -/
theorem taken_iff (h : Transacts ss ds failure) :
    failure = some .alreadyExists ↔ ∃ s cause, .send s (.error cause) ∈ ds ∧
      cause.code? = some DatabaseFailure.uniqueViolation := by
  induction h with
  | done => simp
  | @next s _ reply ds _ hverdict _ ih =>
    rw [ih]
    constructor
    · rintro ⟨s', cause, hmem, htaken⟩
      exact ⟨s', cause, List.mem_cons_of_mem _ hmem, htaken⟩
    · rintro ⟨s', cause, hmem, htaken⟩
      rcases List.mem_cons.mp hmem with heq | hmem
      · cases heq
        rw [Statement.verdict_eq_iff.mpr ⟨cause, rfl, htaken⟩] at hverdict
        cases hverdict
      · exact ⟨s', cause, hmem, htaken⟩
  | @failed s _ reply cause hverdict =>
    rw [Option.some.injEq]
    constructor
    · rintro rfl
      obtain ⟨cause, rfl, htaken⟩ := Statement.verdict_eq_iff.mp hverdict
      exact ⟨s, cause, List.mem_cons_self, htaken⟩
    · rintro ⟨s', cause', hmem, htaken⟩
      simp only [List.mem_cons, Deed.send.injEq, reduceCtorEq, List.not_mem_nil, or_false] at hmem
      obtain ⟨rfl, rfl⟩ := hmem
      have hverdict' := (Statement.verdict_eq_iff (s := s')).mpr ⟨cause', rfl, htaken⟩
      exact Except.error.inj (hverdict.symm.trans hverdict')

end Transacts

/-- The number of the organization is the one that its insertion returned. -/
def Numbered (n : NewOrganization) (organization : Int64) (ds : List Deed) : Prop :=
  ∀ reply o, .send (.insertOrganization n.name n.description) reply ∈ ds →
    Tenancy.recordIn Organization.ofRow? reply = .ok o → o.id = organization

/-- The failure of a result, if it is one. -/
def failureOf {α : Type} : Except StorageFailure α → Option StorageFailure
  | .error cause => some cause
  | .ok _ => none

section creation

variable {n : NewOrganization} {ds : List Deed} {r : Except StorageFailure Created}

/-- The verdict on a record that was returned. -/
theorem verdict_of_recordIn {α : Type} {ofRow? : Row → Option α} {reply : Reply} {a : α}
    (h : Tenancy.recordIn ofRow? reply = .ok a) :
    (Tenancy.recordIn ofRow? reply).map (fun _ => ()) = .ok () := by
  rw [h]
  rfl

/-- **A creation sends its statements in a transaction**, for the organization that it inserts. -/
theorem Creates.transacts (h : Creates n ds r) :
    ∃ organization, Transacts (statements n organization) ds (failureOf r) ∧
      Numbered n organization ds := by
  have hnumbered : ∀ {reply : Reply} {o : Organization} {ds : List Deed},
      Tenancy.recordIn Organization.ofRow? reply = .ok o →
      (∀ reply', .send (.insertOrganization n.name n.description) reply' ∈ ds → reply' = reply) →
      Numbered n o.id ds := by
    intro reply o ds hrecord honly reply' o' hmem hrecord'
    rw [honly reply' hmem, hrecord] at hrecord'
    cases hrecord'
    rfl
  cases h with
  | notBegun =>
    refine ⟨0, .failed rfl, ?_⟩
    intro reply o hmem
    simp at hmem
  | @noOrganization _ reply _ hrecord =>
    refine ⟨0, .next rfl (.failed (map_eq_error_iff.mpr hrecord)), ?_⟩
    intro reply' o hmem hrecord'
    simp only [List.mem_cons, Deed.send.injEq, reduceCtorEq, false_and, true_and, false_or,
      List.not_mem_nil, or_false] at hmem
    rw [hmem, hrecord] at hrecord'
    cases hrecord'
  | @notScoped _ reply o _ hrecord =>
    refine ⟨o.id, .next rfl (.next (verdict_of_recordIn hrecord) (.failed rfl)), ?_⟩
    exact hnumbered hrecord (by simp)
  | @noOwner _ _ reply _ o _ hrecord howner =>
    refine ⟨o.id, .next rfl (.next (verdict_of_recordIn hrecord) (.next rfl
      (.failed (map_eq_error_iff.mpr howner)))), ?_⟩
    exact hnumbered hrecord (by simp)
  | @notCommitted _ _ reply _ o _ _ hrecord howner =>
    refine ⟨o.id, .next rfl (.next (verdict_of_recordIn hrecord) (.next rfl
      (.next (verdict_of_recordIn howner) (.failed rfl)))), ?_⟩
    exact hnumbered hrecord (by simp)
  | @created _ _ _ reply _ o _ hrecord howner =>
    refine ⟨o.id, .next rfl (.next (verdict_of_recordIn hrecord) (.next rfl
      (.next (verdict_of_recordIn howner) (.next rfl .done)))), ?_⟩
    exact hnumbered hrecord (by simp)

/-- A creation sends something. -/
theorem Creates.ne_nil (h : Creates n ds r) : ds ≠ [] := by
  cases h <;> exact List.cons_ne_nil _ _

end creation

/-! ## Provisionings -/

/-- What a provisioning does besides telling its course of events. -/
def actionsIn (ds : List Deed) : List Deed :=
  ds.filter (eventOf? · |>.isNone)

/-- What it is for a piece of a transcript to be the transaction of a creation. -/
structure IsTransaction (n : NewOrganization) (organization : Int64) (ds : List Deed)
    (failure : Option StorageFailure) : Prop where
  /-- It sends the statements of a creation until one fails, which it abandons. -/
  transacts : Transacts (statements n organization) ds failure
  /-- So what it sends is a beginning of these statements. -/
  sent : statementsIn ds <+: statements n organization
  /-- Without a failure it sends all of them. -/
  sentAll : failure = none → statementsIn ds = statements n organization
  /-- A statement that fails is the last one, and the transaction is rolled back. -/
  abandoned : ∀ cause, failure = some cause →
    ∃ before s reply, ds = before ++ [.send s reply, .abandon] ∧ s.verdict reply = .error cause
  /-- The number of the organization is the one that its insertion returned. -/
  numbered : Numbered n organization ds

/-- What it is for a transcript to follow the protocol. -/
structure Follows (identity : Identity) (request : Request) (print : Printer) (ds : List Deed)
    (first : Reply) (transaction again : List Deed) : Prop where
  /-- The email is looked up, and then come a transaction and another lookup, if there are any. -/
  actions : actionsIn ds =
    .send (.findMembership identity.email) first :: (transaction ++ again)
  /-- There is a transaction exactly if the user was not found and the request is valid. -/
  needed : transaction ≠ [] ↔ (∃ m, Directory.membershipIn first = .ok m ∧ ¬ m.Belongs) ∧
    ∃ n, request.validateFor print identity.email = .ok n
  /-- It is the transaction of the creation that was asked for. -/
  transacts : ∀ n, transaction ≠ [] → request.validateFor print identity.email = .ok n →
    ∃ organization failure, IsTransaction n organization transaction failure
  /-- There is another lookup of the email, a single one, exactly if a uniqueness constraint was
  broken. -/
  again : (again = [] ∨ ∃ reply, again = [.send (.findMembership identity.email) reply]) ∧
    (again ≠ [] ↔ ∃ s cause, .send s (.error cause) ∈ transaction ∧
      cause.code? = some DatabaseFailure.uniqueViolation)

section transcripts

variable {identity : Identity} {request : Request} {print : Printer} {ds : List Deed}
  {report : Report}

/-- A provisioning without a transaction follows the protocol if there was no need of one. -/
theorem follows_of_lookup {reply : Reply}
    (hactions : actionsIn ds = [.send (.findMembership identity.email) reply])
    (hneedless : ¬ ((∃ m, Directory.membershipIn reply = .ok m ∧ ¬ m.Belongs) ∧
      ∃ n, request.validateFor print identity.email = .ok n)) :
    Follows identity request print ds reply [] [] where
  actions := hactions
  needed := iff_of_false (fun h => h rfl) hneedless
  transacts n hsome := absurd rfl hsome
  again := by simp

/-- A provisioning with a transaction follows the protocol. -/
theorem follows_of_creates {reply : Reply} {m : Membership} {n : NewOrganization}
    {r : Except StorageFailure Created} {transaction again : List Deed}
    (hactions : actionsIn ds =
      .send (.findMembership identity.email) reply :: (transaction ++ again))
    (hlookup : Directory.membershipIn reply = .ok m) (hnowhere : ¬ m.Belongs)
    (hvalid : request.validateFor print identity.email = .ok n) (hcreates : Creates n transaction r)
    (hagain : again = [] ∧ failureOf r ≠ some .alreadyExists ∨
      (∃ reply, again = [.send (.findMembership identity.email) reply]) ∧
        failureOf r = some .alreadyExists) :
    Follows identity request print ds reply transaction again := by
  obtain ⟨organization, htransacts, hnumbered⟩ := hcreates.transacts
  refine ⟨hactions, iff_of_true hcreates.ne_nil ⟨⟨m, hlookup, hnowhere⟩, n, hvalid⟩, ?_, ?_, ?_⟩
  · intro n' _ hvalid'
    rw [hvalid] at hvalid'
    cases hvalid'
    exact ⟨organization, failureOf r, htransacts, htransacts.isPrefix, htransacts.statementsIn_eq,
      fun _ hcause => htransacts.abandoned hcause, hnumbered⟩
  · exact hagain.imp And.left And.left
  · rw [← htransacts.taken_iff]
    rcases hagain with ⟨rfl, hother⟩ | ⟨⟨again, rfl⟩, htaken⟩
    · exact iff_of_false (fun h => h rfl) hother
    · exact iff_of_true (List.cons_ne_nil _ _) htaken

/-- A provisioning that creates does so between the lookups. -/
theorem Creates.actionsIn_around {n : NewOrganization} {r : Except StorageFailure Created}
    {email : String} (h : Creates n ds r) (reply : Reply) (after : List Deed) :
    actionsIn (preparing email reply ++ (ds ++ after)) =
      .send (.findMembership email) reply :: (ds ++ actionsIn after) := by
  have hsame : actionsIn ds = ds :=
    List.filter_eq_self.mpr fun d hd => by rw [h.no_event d hd, Option.isNone_none]
  show .send _ _ :: actionsIn (ds ++ after) = _
  rw [actionsIn, List.filter_append, ← actionsIn, ← actionsIn, hsame]

/-- **Every transcript follows the protocol.** -/
theorem Goes.follows (h : Goes identity request print ds report) :
    ∃ first transaction again, Follows identity request print ds first transaction again := by
  cases h with
  | unknown hlookup =>
    refine ⟨_, _, _, follows_of_lookup rfl ?_⟩
    rintro ⟨⟨m, hm, -⟩, -⟩
    rw [hlookup] at hm
    cases hm
  | found hlookup =>
    refine ⟨_, _, _, follows_of_lookup rfl ?_⟩
    rintro ⟨⟨m, hm, hnowhere⟩, -⟩
    rw [hlookup] at hm
    cases hm
    exact hnowhere ⟨_, _, rfl⟩
  | rejected _ _ hinvalid =>
    refine ⟨_, _, _, follows_of_lookup rfl ?_⟩
    rintro ⟨-, n, hvalid⟩
    rw [hinvalid] at hvalid
    cases hvalid
  | @created reply m n ds c hlookup hnowhere hvalid hcreates =>
    refine ⟨reply, ds, [], follows_of_creates ?_ hlookup hnowhere hvalid hcreates ?_⟩
    · exact hcreates.actionsIn_around reply _
    · exact .inl ⟨rfl, by simp [failureOf]⟩
  | @failed reply m n ds cause hlookup hnowhere hvalid hcreates hother =>
    refine ⟨reply, ds, [], follows_of_creates ?_ hlookup hnowhere hvalid hcreates ?_⟩
    · exact hcreates.actionsIn_around reply _
    · exact .inl ⟨rfl, by simpa [failureOf] using hother⟩
  | @outrun reply again m n ds hlookup hnowhere hvalid hcreates =>
    refine ⟨reply, ds, [.send (.findMembership identity.email) again],
      follows_of_creates ?_ hlookup hnowhere hvalid hcreates ?_⟩
    · exact hcreates.actionsIn_around reply _
    · exact .inr ⟨⟨again, rfl⟩, rfl⟩

end transcripts

end Provisioning

/-! ## At a database -/

namespace Database

variable {db db' : Database} {s : Statement}

/-- What is carried out commits nothing unless it is a commit that succeeds. -/
theorem execute_advances {r : Reply} (h : db.execute s = (r, db')) :
    ∃ k, db.Advances db' k ∧ (committedIn k = [] ∨ s = .commit ∧ ∃ rows, r = .ok rows) := by
  by_cases hs : s = .commit
  · subst hs
    rcases execute_commit rfl h with ⟨cause, -, hran, -⟩ | ⟨rfl, hran, -⟩
    · exact ⟨_, hran, .inl rfl⟩
    · exact ⟨_, hran, .inr ⟨rfl, _, rfl⟩⟩
  · rcases execute_cases h with ⟨hfalters, -⟩ | ⟨-, hperform⟩
    · exact ⟨_, hfalters.toAdvances, .inl rfl⟩
    · exact ⟨_, advances_perform hs hperform, .inl rfl⟩

/-- What is sent commits nothing unless it is a commit that succeeds or whose answer is lost. -/
theorem send_advances (s : Statement) (db : Database) :
    ∃ k, db.Advances ((send s).run db).2 k ∧
      (committedIn k = [] ∨ s = .commit ∧
        (db.MayLoseCommit ∨ ∃ rows, ((send s).run db).1 = .ok rows)) := by
  by_cases hlistens : db.Listens
  · rcases hsend : (send s).run db with ⟨r, db'⟩
    obtain ⟨db₁, w, hw, hsent⟩ := send_cases hsend hlistens
    have hcommitted : ∀ k, committedIn (k ++ w) = committedIn k := fun k => by
      rw [committedIn_append, hw.committedIn_eq_nil, List.append_nil]
    cases hsent with
    | notCarriedOut hfalters _ =>
      exact ⟨_, hw.toAdvances.trans hfalters.toAdvances, .inl (hcommitted [])⟩
    | carriedOut heffect =>
      obtain ⟨k, hk, hnothing⟩ := execute_advances heffect
      refine ⟨_, hw.toAdvances.trans hk, ?_⟩
      rw [hcommitted]
      exact hnothing.imp_right fun ⟨hs, hok⟩ => ⟨hs, .inr hok⟩
    | unanswered heffect hfalters hfault =>
      obtain ⟨k, hk, hnothing⟩ := execute_advances heffect
      refine ⟨_, (hw.toAdvances.trans hk).trans hfalters.toAdvances, ?_⟩
      rw [List.nil_append, hcommitted]
      refine hnothing.imp_right fun ⟨hs, _⟩ => ⟨hs, .inl ?_⟩
      subst hs
      exact hfault
    | otherRows heffect _ =>
      obtain ⟨k, hk, hnothing⟩ := execute_advances heffect
      refine ⟨_, hw.toAdvances.trans hk, ?_⟩
      rw [hcommitted]
      exact hnothing.imp_right fun ⟨hs, _⟩ => ⟨hs, .inr ⟨_, rfl⟩⟩
  · refine ⟨[], ?_, .inl rfl⟩
    have hsame : db.Advances db [] := .refl db
    change db.Advances (db.deliver s).2 []
    unfold deliver
    match htransaction : db.transaction with
    | .closed => exact absurd (.inl htransaction) hlistens
    | .active p => exact absurd (.inr ⟨p, htransaction⟩) hlistens
    | .lost => exact hsame
    | .aborted =>
      simp only
      split <;> exact ⟨rfl, rfl, hsame.faults, hsame.changes, rfl⟩

/-- Carrying a statement out does not log it. -/
theorem execute_log (s : Statement) (db : Database) : (db.execute s).2.log = db.log := by
  have habort : ∀ db : Database, db.abort.log = db.log := by
    intro db
    unfold abort
    split <;> rfl
  unfold execute
  split
  · exact habort db
  cases s with
  | findMembership | findUser | begin | setConfig | migrate | recordMigration => rfl
  | insertOrganization name description =>
    simp only [perform, insertOrganization]
    split
    · exact habort _
    · split
      · split
        · exact habort _
        · rfl
      · exact habort _
  | insertUser email organization role =>
    simp only [perform, insertUser]
    split
    · exact habort _
    · split
      · exact habort _
      · split
        · rfl
        · exact habort _
  | commit =>
    simp only [perform, commit]
    split
    · rfl
    · exact habort _

/-- What happens at a moment is not logged. -/
theorem meet_log (moment : Moment) (db : Database) : (db.meet moment).2.log = db.log := by
  have hfold : ∀ (changes : List Store.Change) (db : Database),
      (changes.foldl accept db).log = db.log := by
    intro changes
    induction changes with
    | nil => exact fun _ => rfl
    | cons c changes ih => exact fun db => ih (db.accept c)
  unfold meet
  rcases Fault.meet moment db.faults with ⟨_ | f, faults⟩
  · rfl
  · exact hfold _ _

/-- Opening a connection is not logged. -/
theorem connect_log (db : Database) : db.connect.2.log = db.log := by
  unfold connect
  split
  · rfl
  · split
    · rfl
    · have hmeet := meet_log .connect db
      generalize db.meet .connect = met at hmeet ⊢
      obtain ⟨ending, db'⟩ := met
      cases ending <;> exact hmeet

/-- A statement that reached the database is not logged again. -/
theorem answer_log (s : Statement) (db : Database) : (db.answer s).2.log = db.log := by
  have hmeet := meet_log s.moment db
  unfold answer
  generalize db.meet s.moment = met at hmeet ⊢
  obtain ⟨ending, db'⟩ := met
  cases ending with
  | plain => exact (execute_log s db').trans hmeet
  | lost => exact hmeet
  | unanswered => exact (execute_log s db').trans hmeet
  | failed cause =>
    refine Eq.trans ?_ hmeet
    show db'.abort.log = db'.log
    unfold abort
    split <;> rfl
  | rows rs =>
    have hexecute := execute_log s db'
    simp only
    generalize db'.execute s = executed at hexecute ⊢
    rcases executed with ⟨cause | rs', db''⟩ <;> exact hexecute.trans hmeet

/-- What is sent is logged if it reaches the database, and nothing else is. -/
theorem deliver_log (s : Statement) (db : Database) :
    (db.deliver s).2.log = db.log ∨ (db.deliver s).2.log = s :: db.log := by
  unfold deliver
  have hconnect := connect_log db
  generalize db.connect = connected at hconnect ⊢
  rcases connected with ⟨cause | _, db'⟩
  · cases db.transaction with
    | lost => exact .inl rfl
    | aborted =>
      simp only
      split <;> exact .inr rfl
    | closed | active => exact .inl hconnect
  · have hanswer := answer_log s { db' with log := s :: db'.log }
    cases db.transaction with
    | lost => exact .inl rfl
    | aborted =>
      simp only
      split <;> exact .inr rfl
    | closed | active => exact .inr (hanswer.trans (congrArg (s :: ·) hconnect))

end Database

namespace Provisioning

variable {α : Type}

/-- **Without a commit that succeeded, nothing was committed**, unless the answer to a commit was lost. -/
theorem run_advances (s : Script α) (db : Database) :
    ∃ k, db.Advances (s.run db).2 k ∧ (committedIn k = [] ∨ db.MayLoseCommit ∨
      ∃ rows, .send .commit (.ok rows) ∈ s.transcript db) := by
  induction s generalizing db with
  | done a => exact ⟨[], .refl db, .inl rfl⟩
  | meet event valid next ih =>
    obtain ⟨k, hk, hnothing⟩ := ih db
    refine ⟨k, hk, hnothing.imp_right (Or.imp_right ?_)⟩
    rintro ⟨rows, hmem⟩
    exact ⟨rows, List.mem_cons_of_mem _ hmem⟩
  | send s next ih =>
    obtain ⟨k₁, hk₁, hnothing₁⟩ := send_advances s db
    obtain ⟨k₂, hk₂, hnothing₂⟩ := ih (db.deliver s).1 (db.deliver s).2
    refine ⟨_, hk₁.trans hk₂, ?_⟩
    rcases hnothing₂ with hnothing₂ | hlost | ⟨rows, hmem⟩
    · rcases hnothing₁ with hnothing₁ | ⟨rfl, hlost | ⟨rows, hok⟩⟩
      · exact .inl (by rw [committedIn_append, hnothing₁, hnothing₂]; rfl)
      · exact .inr (.inl hlost)
      · exact .inr (.inr ⟨rows, hok ▸ List.mem_cons_self⟩)
    · exact .inr (.inl (hk₁.mayLoseCommit hlost))
    · exact .inr (.inr ⟨rows, List.mem_cons_of_mem _ hmem⟩)
  | abandon next ih =>
    obtain ⟨k, hk, hnothing⟩ := ih { db with transaction := .closed }
    have hclosed := (Advances.refl db).with_transaction .closed
    refine ⟨k ++ [], hclosed.trans hk, ?_⟩
    rw [List.append_nil]
    refine hnothing.imp_right (Or.imp id ?_)
    rintro ⟨rows, hmem⟩
    exact ⟨rows, List.mem_cons_of_mem _ hmem⟩

/-- **Nothing reaches the database but the statements of the transcript**, in their order. -/
theorem run_log (s : Script α) (db : Database) :
    ∃ logged : List Statement, logged.Sublist (statementsIn (s.transcript db)) ∧
      (s.run db).2.log = logged.reverse ++ db.log := by
  induction s generalizing db with
  | done a => exact ⟨[], List.nil_sublist _, rfl⟩
  | meet event valid next ih => exact ih db
  | send s next ih =>
    obtain ⟨logged, hsublist, hlog⟩ := ih (db.deliver s).1 (db.deliver s).2
    rcases deliver_log s db with hnone | hsent
    · exact ⟨logged, hsublist.cons _, hlog.trans (congrArg _ hnone)⟩
    · refine ⟨s :: logged, hsublist.cons_cons _, hlog.trans ?_⟩
      rw [hsent, List.reverse_cons, List.append_assoc]
      rfl
  | abandon next ih => exact ih { db with transaction := .closed }

/-- However a creation ends, no transaction is left. -/
theorem closed_createWithOwner (n : NewOrganization) (db : Database) :
    ((createWithOwner n).run db).2.transaction = .closed := by
  rw [createWithOwner_eq, Tenancy.run_inTransaction, Tenancy.run_begin]
  rcases (send .begin).run db with ⟨cause | rows, db₁⟩
  · rfl
  simp only
  rcases (insertions n).run db₁ with ⟨cause | created, db₂⟩
  · rfl
  simp only [run_close]
  rcases (send .commit).run db₂ with ⟨cause | rows, db₃⟩ <;> rfl

/-- A lookup begins no transaction. -/
theorem closed_membership {db : Database} (email : String) (hclosed : db.transaction = .closed) :
    ((Directory.membership email).run db).2.transaction = .closed := by
  have hsend : ((send (.findMembership email)).run db).2.transaction = .closed := by
    rcases hsend : (send (.findMembership email)).run db with ⟨r, db'⟩
    obtain ⟨db₁, w, hw, hsent⟩ := send_cases hsend (.inl hclosed)
    have hclosed₁ : db₁.transaction = .closed := hw.transaction.trans hclosed
    have hexecute : ∀ {r : Reply} {db₂ : Database},
        db₁.execute (.findMembership email) = (r, db₂) → db₂.transaction = .closed := by
      intro r db₂ heffect
      rcases execute_cases heffect with ⟨hfalters, -⟩ | ⟨-, hperform⟩
      · exact hfalters.closed hclosed₁
      · cases hperform
        exact hclosed₁
    cases hsent with
    | notCarriedOut hfalters _ => exact hfalters.closed hclosed₁
    | carriedOut heffect => exact hexecute heffect
    | unanswered heffect hfalters _ => exact hfalters.closed (hexecute heffect)
    | otherRows heffect _ => exact hexecute heffect
  rw [Directory.run_membership]
  generalize (send (.findMembership email)).run db = sent at hsend ⊢
  rcases sent with ⟨cause | rows, db'⟩ <;> exact hsend

/-- **However a provisioning ends, no transaction is left.** -/
theorem closed_provide {db : Database} (identity : Identity) (request : Request) (print : Printer)
    (hclosed : db.transaction = .closed) :
    ((provide identity request print).run db).2.transaction = .closed := by
  have hlookup := closed_membership identity.email hclosed
  have hproceeds := provide_proceeds identity request print db
  generalize ((provide identity request print).run db).1 = report at hproceeds
  generalize ((provide identity request print).run db).2 = db' at hproceeds ⊢
  cases hproceeds with
  | unknown | taken | rejected => exact hlookup
  | @attempted n _ _ _ hattempt =>
    have hcreate := closed_createWithOwner n ((Directory.membership identity.email).run db).2
    rw [run_attempt] at hattempt
    generalize (createWithOwner n).run _ = created at hattempt hcreate
    rcases created with ⟨cause | created, db₂⟩
    · cases hattempt
      unfold resolve
      split
      · have hagain := closed_membership identity.email hcreate
        rw [Work.run_bind]
        generalize (Directory.membership identity.email).run db₂ = looked at hagain ⊢
        rcases looked with ⟨failure | ⟨_ | user, _ | organization⟩, db₃⟩ <;> exact hagain
      · exact hcreate
    · cases hattempt
      exact hcreate

end Provisioning

end TenantOnboarding
