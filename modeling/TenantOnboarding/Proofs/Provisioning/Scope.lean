import TenantOnboarding.Proofs.Provisioning.Protocol
import TenantOnboarding.Proofs.Session.RoundTrip

/-!
# The organization that a transaction runs for

The rules for the rows of a tenant read the current organization off a setting of the connection. A
provisioning sets it for its own transaction only, before it writes the owner.

* `Setting.Run` says how a setting of a connection may change while a transcript is gone through. A
  statement that was answered was carried out; one that failed may have been carried out or not. What is
  set locally is gone with the transaction, and what is set otherwise lasts if the transaction is
  committed (`Setting.carryOut`).
* `organizationIn?_claimsOf`: the claims of a transaction are read as the organization they are for.
* **`scoped_protocol`**: a provisioning follows the protocol of statements; whenever an owner is written,
  the setting names the organization that they are written to; and afterwards every setting is what it
  was.
-/

namespace TenantOnboarding

open Database Json

/-! ## Claims -/

/-- The organization that claims are for, as far as they can be read. -/
def Tenancy.organizationIn? (claims : String) : Option Int64 :=
  match (Shape.recordOf [("current_organization_id", .int64)]).parse (claims.toList.map some) with
  | .ok v => v.member? "current_organization_id" >>= Value.int64?
  | .error _ => none

/-- The only claim of a transaction. -/
def Tenancy.claimsPart (organization : Int64) : Part :=
  ⟨"current_organization_id", .int64, .int64 organization⟩

/-- **The claims of a transaction are read as the organization they are for.** -/
theorem Tenancy.organizationIn?_claimsOf (organization : Int64) :
    organizationIn? (claimsOf organization) = some organization := by
  have hreads : ∀ p ∈ [claimsPart organization], Reads p.shape.read p.value := by
    intro p hp
    rw [List.mem_singleton.mp hp]
    exact reads_int64 organization
  have hnames : ([claimsPart organization].map Part.name).Nodup := List.nodup_singleton _
  have hfields : [claimsPart organization].map (fun p => (p.name, p.shape)) =
      [("current_organization_id", .int64)] := rfl
  have hmembers : [claimsPart organization].map Part.member =
      [("current_organization_id", .int64 organization)] := rfl
  have hparsed := parse_object hnames hreads
  rw [hfields, hmembers] at hparsed
  have htext : (claimsOf organization).toList =
      (Value.object [("current_organization_id", .int64 organization)]).render :=
    String.toList_ofList
  unfold organizationIn?
  rw [htext, hparsed]
  exact int64?_int64 organization

namespace Provisioning

/-! ## The settings of a connection -/

/-- What a setting is in a transaction. -/
structure Draft where
  /-- What it is at the moment. -/
  current : Option String
  /-- What it is to be when the transaction is committed. -/
  kept : Option String

/-- A setting of a connection. -/
structure Setting where
  /-- What it is outside of transactions. -/
  lasting : Option String
  /-- What it is in the transaction, if one goes on. -/
  transaction : Option Draft

namespace Setting

/-- What the setting is at the moment. -/
def current (c : Setting) : Option String :=
  match c.transaction with
  | some draft => draft.current
  | none => c.lasting

/-- The setting of a name after a statement was carried out. What is set locally ends with the transaction,
and does not even begin where there is none. -/
def carryOut (name : String) (c : Setting) (s : Statement) : Setting :=
  match s, c.transaction with
  | .begin, none => { c with transaction := some ⟨c.lasting, c.lasting⟩ }
  | .setConfig other value isLocal, some draft =>
    if other = name then
      { c with transaction := some ⟨some value, if isLocal then draft.kept else some value⟩ }
    else c
  | .setConfig other value false, none =>
    if other = name then { c with lasting := some value } else c
  | .commit, some draft => ⟨draft.kept, none⟩
  | _, _ => c

/-- How a deed may change the setting of a name. Whether a statement that failed was carried out is
unknown, and so is whether a commit was one or rolled back a transaction that had become useless. -/
inductive Step (name : String) : Setting → Deed → Setting → Prop where
  | meet {c : Setting} {event : Event} {valid : Option Bool} : Step name c (.meet event valid) c
  | carriedOut {c : Setting} {s : Statement} {reply : Reply} :
      Step name c (.send s reply) (c.carryOut name s)
  | notCarriedOut {c : Setting} {s : Statement} {cause : DatabaseFailure} :
      Step name c (.send s (.error cause)) c
  | rolledBack {c : Setting} {reply : Reply} :
      Step name c (.send .commit reply) { c with transaction := none }
  | abandon {c : Setting} : Step name c .abandon { c with transaction := none }

/-- How a transcript may change the setting of a name. -/
inductive Run (name : String) : Setting → List Deed → Setting → Prop where
  | nil (c : Setting) : Run name c [] c
  | cons {c c₁ c₂ : Setting} {d : Deed} {ds : List Deed} (hstep : Step name c d c₁)
      (rest : Run name c₁ ds c₂) : Run name c (d :: ds) c₂

variable {name : String} {c c' : Setting} {ds ds₁ ds₂ : List Deed}

/-- A statement that was answered was carried out. -/
theorem Step.eq_of_ok {s : Statement} {rows : List Row} (h : Step name c (.send s (.ok rows)) c')
    (hs : s ≠ .commit) : c' = c.carryOut name s := by
  cases h with
  | carriedOut => rfl
  | rolledBack => exact absurd rfl hs

/-- Every transcript can be gone through. -/
theorem exists_run (name : String) (c : Setting) (ds : List Deed) : ∃ c', Run name c ds c' := by
  induction ds generalizing c with
  | nil => exact ⟨c, .nil c⟩
  | cons d ds ih =>
    have hstep : ∃ c₁, Step name c d c₁ := by
      cases d with
      | meet event valid => exact ⟨c, .meet⟩
      | send s reply => exact ⟨_, .carriedOut⟩
      | abandon => exact ⟨_, .abandon⟩
    obtain ⟨c₁, hstep⟩ := hstep
    obtain ⟨c₂, hrun⟩ := ih c₁
    exact ⟨c₂, .cons hstep hrun⟩

/-- A transcript is gone through piece by piece. -/
theorem Run.exists_between (h : Run name c (ds₁ ++ ds₂) c') :
    ∃ c₁, Run name c ds₁ c₁ ∧ Run name c₁ ds₂ c' := by
  induction ds₁ generalizing c with
  | nil => exact ⟨c, .nil c, h⟩
  | cons d ds₁ ih =>
    cases h with
    | cons hstep hrest =>
      obtain ⟨c₁, hfirst, hsecond⟩ := ih hrest
      exact ⟨c₁, .cons hstep hfirst, hsecond⟩

/-- What is set locally in a transaction is the setting. -/
theorem current_setConfig {value : String} {isLocal : Bool} (hopen : c.transaction.isSome) :
    (c.carryOut name (.setConfig name value isLocal)).current = some value := by
  obtain ⟨lasting, _ | draft⟩ := c
  · cases hopen
  · simp only [carryOut, if_true]
    rfl

/-- A commit ends the transaction. -/
theorem Step.closed_of_commit {reply : Reply} (h : Step name c (.send .commit reply) c')
    (hreply : ∃ rows, reply = .ok rows) : c'.transaction = none := by
  cases h with
  | carriedOut => obtain ⟨lasting, _ | draft⟩ := c <;> rfl
  | notCarriedOut =>
    obtain ⟨rows, hrows⟩ := hreply
    cases hrows
  | rolledBack => rfl

/-! ### What lasts -/

/-- A deed sets something that lasts longer than a transaction. -/
def Lasts (d : Deed) : Prop :=
  ∃ name value reply, d = .send (.setConfig name value false) reply

/-- Nothing that the transaction has set is going to last. -/
def Passing (c : Setting) : Prop :=
  ∀ draft, c.transaction = some draft → draft.kept = c.lasting

/-- Where there is no transaction, none has set anything. -/
theorem passing_of_closed (hclosed : c.transaction = none) : c.Passing := by
  intro draft hopen
  rw [hclosed] at hopen
  cases hopen

/-- A statement that sets nothing lasting changes nothing lasting. -/
theorem Passing.carryOut {s : Statement} (h : c.Passing)
    (hs : ∀ other value, s ≠ .setConfig other value false) :
    (c.carryOut name s).Passing ∧ (c.carryOut name s).lasting = c.lasting := by
  unfold Setting.carryOut
  split
  · refine ⟨?_, rfl⟩
    rintro draft ⟨⟩
    rfl
  · rename_i other value isLocal draft hopen
    cases isLocal with
    | false => exact absurd rfl (hs other value)
    | true =>
      split
      · refine ⟨?_, rfl⟩
        rintro draft' ⟨⟩
        exact h draft hopen
      · exact ⟨h, rfl⟩
  · rename_i other value _
    exact absurd rfl (hs other value)
  · rename_i draft hopen
    exact ⟨passing_of_closed rfl, h draft hopen⟩
  · exact ⟨h, rfl⟩

/-- A deed that sets nothing lasting changes nothing lasting. -/
theorem Passing.step {d : Deed} (h : c.Passing) (hd : ¬Lasts d) (hstep : Step name c d c') :
    c'.Passing ∧ c'.lasting = c.lasting := by
  cases hstep with
  | meet | notCarriedOut => exact ⟨h, rfl⟩
  | rolledBack | abandon => exact ⟨passing_of_closed rfl, rfl⟩
  | @carriedOut s reply =>
    refine h.carryOut ?_
    rintro other value rfl
    exact hd ⟨other, value, reply, rfl⟩

/-- **What a setting is outside of transactions is not changed** by a transcript that sets nothing
lasting. -/
theorem Passing.run (h : c.Passing) (hds : ∀ d ∈ ds, ¬Lasts d) (hrun : Run name c ds c') :
    c'.lasting = c.lasting := by
  induction hrun with
  | nil c => rfl
  | cons hstep _ ih =>
    obtain ⟨hpassing, hlasting⟩ := h.step (hds _ List.mem_cons_self) hstep
    exact (ih hpassing fun d hd => hds d (List.mem_cons_of_mem _ hd)).trans hlasting

/-! ### Transactions -/

/-- Only where a transaction is begun is there one. -/
theorem Step.closed {d : Deed} (h : Step name c d c') (hclosed : c.transaction = none)
    (hbegin : ∀ reply, d ≠ .send .begin reply) : c'.transaction = none := by
  cases h with
  | meet | notCarriedOut => exact hclosed
  | rolledBack | abandon => rfl
  | @carriedOut s reply =>
    unfold carryOut
    split
    · exact absurd rfl (hbegin reply)
    · rename_i hopen
      rw [hclosed] at hopen
      cases hopen
    · split <;> exact hclosed
    · rfl
    · exact hclosed

/-- Where no transaction is begun there is none. -/
theorem Run.closed (h : Run name c ds c') (hclosed : c.transaction = none)
    (hbegin : ∀ reply, .send .begin reply ∉ ds) : c'.transaction = none := by
  induction h with
  | nil c => exact hclosed
  | cons hstep _ ih =>
    refine ih (hstep.closed hclosed ?_) fun reply hmem => hbegin reply (List.mem_cons_of_mem _ hmem)
    rintro reply rfl
    exact hbegin reply List.mem_cons_self

/-! ## Owners -/

/-- Wherever an owner is written, the setting of the claims names the organization that they are written
to. -/
def Scopes : Setting → List Deed → Prop
  | _, [] => True
  | c, d :: ds =>
    (∀ email organization role reply, d = .send (.insertUser email organization role) reply →
        c.current.bind Tenancy.organizationIn? = some organization) ∧
      ∀ c₁, Step Tenancy.claimsSetting c d c₁ → Scopes c₁ ds

/-- A deed writes a user. -/
def Writes (d : Deed) : Prop :=
  ∃ email organization role reply, d = .send (.insertUser email organization role) reply

/-- A deed that writes nobody is followed by others. -/
theorem Scopes.cons {d : Deed} (hd : ¬Writes d)
    (h : ∀ c₁, Step Tenancy.claimsSetting c d c₁ → Scopes c₁ ds) : Scopes c (d :: ds) := by
  refine ⟨?_, h⟩
  intro email organization role reply heq
  exact absurd ⟨email, organization, role, reply, heq⟩ hd

/-- Where nobody is written there is nothing to be seen to. -/
theorem scopes_of_forall (h : ∀ d ∈ ds, ¬Writes d) : Scopes c ds := by
  induction ds generalizing c with
  | nil => trivial
  | cons d ds ih =>
    exact .cons (h d List.mem_cons_self) fun c₁ _ => ih fun d' hd' => h d' (List.mem_cons_of_mem _ hd')

/-- A transcript that writes nobody may follow another. -/
theorem Scopes.append (h : Scopes c ds₁) (hrest : ∀ d ∈ ds₂, ¬Writes d) :
    Scopes c (ds₁ ++ ds₂) := by
  induction ds₁ generalizing c with
  | nil => exact scopes_of_forall hrest
  | cons d ds₁ ih => exact ⟨h.1, fun c₁ hstep => ih (h.2 c₁ hstep)⟩

/-- A transcript may follow one that writes nobody. -/
theorem scopes_append (hfirst : ∀ d ∈ ds₁, ¬Writes d)
    (h : ∀ c₁, Run Tenancy.claimsSetting c ds₁ c₁ → Scopes c₁ ds₂) : Scopes c (ds₁ ++ ds₂) := by
  induction ds₁ generalizing c with
  | nil => exact h c (.nil c)
  | cons d ds₁ ih =>
    refine .cons (hfirst d List.mem_cons_self) fun c₁ hstep => ?_
    exact ih (fun d' hd' => hfirst d' (List.mem_cons_of_mem _ hd')) fun c₂ hrun =>
      h c₂ (.cons hstep hrun)

/-- What the setting names when a user is written. -/
theorem Scopes.current {email : String} {organization : Int64} {role : Role} {reply : Reply}
    (h : Scopes c (ds₁ ++ .send (.insertUser email organization role) reply :: ds₂))
    (hrun : Run Tenancy.claimsSetting c ds₁ c') :
    c'.current.bind Tenancy.organizationIn? = some organization := by
  induction hrun with
  | nil c => exact h.1 email organization role reply rfl
  | cons hstep _ ih => exact ih (h.2 _ hstep)

end Setting

/-! ## Creations -/

section creation

variable {c c' : Setting} {n : NewOrganization} {ds : List Deed}
  {r : Except StorageFailure Created}

/-- A record is returned only by a statement that was answered. -/
theorem exists_of_recordIn {α : Type} {ofRow? : Row → Option α} {reply : Reply} {a : α}
    (h : Tenancy.recordIn ofRow? reply = .ok a) : ∃ rows, reply = .ok rows := by
  cases reply with
  | error cause => cases h
  | ok rows => exact ⟨rows, rfl⟩

/-- The owner is written after the setting names their organization. -/
theorem scopes_owner {begun claimed : List Row} {reply reply' : Reply} {o : Organization}
    (hclosed : c.transaction = none)
    (hrecord : Tenancy.recordIn Organization.ofRow? reply = .ok o)
    (hrest : ∀ d ∈ ds, ¬ Setting.Writes d) :
    Setting.Scopes c
      (.send .begin (.ok begun) :: .send (.insertOrganization n.name n.description) reply ::
        .send (.setConfig Tenancy.claimsSetting (Tenancy.claimsOf o.id) true) (.ok claimed) ::
        .send (.insertUser n.ownerEmail o.id .owner) reply' :: ds) := by
  obtain ⟨rows, rfl⟩ := exists_of_recordIn hrecord
  obtain ⟨lasting, transaction⟩ := c
  obtain rfl : transaction = none := hclosed
  refine .cons (by rintro ⟨_, _, _, _, ⟨⟩⟩) fun c₁ hbegun => ?_
  rw [hbegun.eq_of_ok nofun]
  refine .cons (by rintro ⟨_, _, _, _, ⟨⟩⟩) fun c₂ hinserted => ?_
  rw [hinserted.eq_of_ok nofun]
  refine .cons (by rintro ⟨_, _, _, _, ⟨⟩⟩) fun c₃ hclaimed => ?_
  rw [hclaimed.eq_of_ok nofun]
  refine ⟨?_, fun c₄ _ => Setting.scopes_of_forall hrest⟩
  rintro email organization role reply ⟨⟩
  rw [Setting.current_setConfig rfl, Option.bind_some]
  exact Tenancy.organizationIn?_claimsOf o.id

/-- In a creation the setting names the organization of the owner. -/
theorem Creates.scopes (h : Creates n ds r) (hclosed : c.transaction = none) :
    Setting.Scopes c ds := by
  cases h with
  | notBegun | noOrganization | notScoped =>
    apply Setting.scopes_of_forall
    simp [Setting.Writes]
  | noOwner hrecord _ =>
    apply scopes_owner hclosed hrecord
    simp [Setting.Writes]
  | notCommitted hrecord _ =>
    apply scopes_owner hclosed hrecord
    simp [Setting.Writes]
  | created hrecord _ =>
    apply scopes_owner hclosed hrecord
    simp [Setting.Writes]

/-- The last thing that a creation does is to end its transaction. -/
theorem Creates.last (h : Creates n ds r) :
    ∃ before d, ds = before ++ [d] ∧ (d = .abandon ∨ ∃ rows, d = .send .commit (.ok rows)) := by
  cases h with
  | notBegun => exact ⟨[_], _, rfl, .inl rfl⟩
  | noOrganization => exact ⟨[_, _], _, rfl, .inl rfl⟩
  | notScoped => exact ⟨[_, _, _], _, rfl, .inl rfl⟩
  | noOwner => exact ⟨[_, _, _, _], _, rfl, .inl rfl⟩
  | notCommitted => exact ⟨[_, _, _, _, _], _, rfl, .inl rfl⟩
  | created => exact ⟨[_, _, _, _], _, rfl, .inr ⟨_, rfl⟩⟩

/-- After a creation there is no transaction. -/
theorem Creates.closed {name : String} (h : Creates n ds r) (hrun : Setting.Run name c ds c') :
    c'.transaction = none := by
  obtain ⟨before, d, rfl, hd⟩ := h.last
  obtain ⟨c₁, -, hlast⟩ := hrun.exists_between
  cases hlast with
  | cons hstep hnil =>
    cases hnil
    rcases hd with rfl | ⟨rows, rfl⟩
    · cases hstep
      rfl
    · exact hstep.closed_of_commit ⟨rows, rfl⟩

/-- A creation sets nothing lasting. -/
theorem Creates.passing (h : Creates n ds r) : ∀ d ∈ ds, ¬Setting.Lasts d := by
  cases h <;> simp [Setting.Lasts]

end creation

/-! ## Provisionings -/

section transcripts

variable {identity : Identity} {request : Request} {print : Printer} {ds : List Deed}
  {report : Report} {c c' : Setting}

/-- A transcript that creates, and what it does around that. -/
theorem Goes.exists_creation (h : Goes identity request print ds report) :
    ∃ before creating after, ds = before ++ creating ++ after ∧
      (∀ d ∈ before ++ after,
        ¬ Setting.Writes d ∧ ¬ Setting.Lasts d ∧ ∀ reply, d ≠ .send .begin reply) ∧
      (creating = [] ∨ ∃ n r, Creates n creating r) := by
  cases h with
  | unknown | found | rejected =>
    refine ⟨_, [], [], by rw [List.append_nil, List.append_nil], ?_, .inl rfl⟩
    simp [Setting.Writes, Setting.Lasts]
  | @created reply _ _ ds _ _ _ _ hcreates =>
    exact ⟨preparing identity.email reply, ds, _, rfl, by simp [preparing, Setting.Writes, Setting.Lasts],
      .inr ⟨_, _, hcreates⟩⟩
  | @failed reply _ _ ds _ _ _ _ hcreates _ =>
    exact ⟨preparing identity.email reply, ds, _, rfl, by simp [preparing, Setting.Writes, Setting.Lasts],
      .inr ⟨_, _, hcreates⟩⟩
  | @outrun reply _ _ _ ds _ _ _ hcreates =>
    exact ⟨preparing identity.email reply, ds, _, rfl, by simp [preparing, Setting.Writes, Setting.Lasts],
      .inr ⟨_, _, hcreates⟩⟩

/-- Whenever a provisioning writes the owner, the setting names their organization. -/
theorem Goes.scopes (h : Goes identity request print ds report) (hclosed : c.transaction = none) :
    Setting.Scopes c ds := by
  obtain ⟨before, creating, after, rfl, haround, hcreates⟩ := h.exists_creation
  rw [List.append_assoc]
  refine Setting.scopes_append (fun d hd => (haround d (List.mem_append_left _ hd)).1) fun c₁ hrun => ?_
  have hclosed₁ := hrun.closed hclosed fun reply hmem =>
    (haround _ (List.mem_append_left _ hmem)).2.2 reply rfl
  refine Setting.Scopes.append ?_ fun d hd => (haround d (List.mem_append_right _ hd)).1
  rcases hcreates with rfl | ⟨n, r, hcreates⟩
  · trivial
  · exact hcreates.scopes hclosed₁

/-- A provisioning sets nothing lasting. -/
theorem Goes.passing (h : Goes identity request print ds report) : ∀ d ∈ ds, ¬ Setting.Lasts d := by
  obtain ⟨before, creating, after, rfl, haround, hcreates⟩ := h.exists_creation
  intro d hd
  rcases List.mem_append.mp hd with hd | hd
  · rcases List.mem_append.mp hd with hd | hd
    · exact (haround d (List.mem_append_left _ hd)).2.1
    · rcases hcreates with rfl | ⟨n, r, hcreates⟩
      · exact absurd hd List.not_mem_nil
      · exact hcreates.passing d hd
  · exact (haround d (List.mem_append_right _ hd)).2.1

/-- After a provisioning there is no transaction. -/
theorem Goes.closed {name : String} (h : Goes identity request print ds report)
    (hclosed : c.transaction = none) (hrun : Setting.Run name c ds c') : c'.transaction = none := by
  obtain ⟨before, creating, after, rfl, haround, hcreates⟩ := h.exists_creation
  obtain ⟨c₂, hrun₂, hafter⟩ := hrun.exists_between
  obtain ⟨c₁, hbefore, hcreating⟩ := hrun₂.exists_between
  have hclosed₁ := hbefore.closed hclosed fun reply hmem =>
    (haround _ (List.mem_append_left _ hmem)).2.2 reply rfl
  refine hafter.closed ?_ fun reply hmem => (haround _ (List.mem_append_right _ hmem)).2.2 reply rfl
  rcases hcreates with rfl | ⟨n, r, hcreates⟩
  · cases hcreating
    exact hclosed₁
  · exact hcreates.closed hcreating

/-- After a provisioning every setting is what it was. -/
theorem Goes.restores {name : String} (h : Goes identity request print ds report)
    (hclosed : c.transaction = none) (hrun : Setting.Run name c ds c') : c' = c := by
  have hclosed' := h.closed hclosed hrun
  have hlasting := (Setting.passing_of_closed hclosed).run h.passing hrun
  obtain ⟨lasting, transaction⟩ := c
  obtain ⟨lasting', transaction'⟩ := c'
  subst hclosed hclosed' hlasting
  rfl

end transcripts

/-- What it is for a provisioning at a database, with the transcript `ds`, to keep its transaction to
itself. -/
structure KeepsProtocol (identity : Identity) (request : Request) (print : Printer)
    (db db' : Database) (ds : List Deed) : Prop where
  /-- The statements are those of the protocol. -/
  follows : ∃ first transaction again, Follows identity request print ds first transaction again
  /-- Nothing but these statements reaches the database, in their order. -/
  logged : ∃ logged : List Statement, logged.Sublist (statementsIn ds) ∧
    db'.log = logged.reverse ++ db.log
  /-- Unless the commit succeeded, everything is rolled back. Only if the answer to the commit was lost may
  it be that the rows are there. -/
  rolledBack : ∃ k, db.Advances db' k ∧ (committedIn k = [] ∨ db.MayLoseCommit ∨
    ∃ rows, .send .commit (.ok rows) ∈ ds)
  /-- No transaction is left. -/
  closed : db.transaction = .closed → db'.transaction = .closed
  /-- Whenever an owner is written, the setting of the claims names the organization that they are written
  to. -/
  named : ∀ c c₁ : Setting, c.transaction = none →
    ∀ before email organization role reply after,
      ds = before ++ .send (.insertUser email organization role) reply :: after →
      Setting.Run Tenancy.claimsSetting c before c₁ →
      c₁.current.bind Tenancy.organizationIn? = some organization
  /-- However the transaction ends, every setting is what it was. -/
  restored : ∀ (name : String) (c c' : Setting), c.transaction = none →
    (Setting.Run name c ds c' ↔ c' = c)

/-- **A provisioning follows the protocol of its statements and keeps the claims of its transaction to
itself**, whoever asks for whatever at whatever database: so do the deeds that are done when it is carried
out there. -/
theorem scoped_protocol (identity : Identity) (request : Request) (print : Printer)
    (db : Database) :
    KeepsProtocol identity request print db ((provide identity request print).run db).2
      ((provide identity request print).transcript db) := by
  have hgoes := goes_provide identity request print db
  refine
    { follows := hgoes.follows
      logged := run_log _ db
      rolledBack := run_advances _ db
      closed := closed_provide identity request print
      named := ?_
      restored := ?_ }
  · intro c c₁ hclosed before email organization role reply after hds hrun
    have hscopes := hgoes.scopes hclosed
    rw [hds] at hscopes
    exact hscopes.current hrun
  · intro name c c' hclosed
    refine ⟨hgoes.restores hclosed, ?_⟩
    intro hsame
    obtain ⟨c₁, hrun⟩ :=
      Setting.exists_run name c ((provide identity request print).transcript db)
    rw [hsame]
    rwa [hgoes.restores hclosed hrun] at hrun

end Provisioning

end TenantOnboarding
