import Mathlib.Data.List.Nodup
import TenantOnboarding.Store.Database

/-!
# Histories of a store

The history of a database tells, the last occurrence first, which statements were carried out, what
others committed and which transactions of the service were committed.

* `Store.replay s h` is what a history `h` makes of the rows and numbers `s`.
* `Throughout P s h` says that every occurrence of `h` satisfies `P` together with the store that it
  met. Two such properties matter: `Occurrence.Lawful`, by which others keep to the constraints of the
  tables and only add rows, and `Occurrence.Founding`, by which the service commits nothing but
  organizations with their owners.
* **`Store.Consistent.replay`**: with both, numbers and emails stay distinct and references stay valid.
  `prefix_replay` says that no row is lost, `userOf?_replay` that an email keeps its user, and
  `owners_of_founded` that an organization of the service has one owner.
-/

namespace TenantOnboarding

/-! ## Replaying -/

/-- The rows and numbers after an occurrence. An insertion uses a number up even if it fails. -/
def Store.after (s : Store) : Occurrence → Store
  | .ran (.insertOrganization ..) => s.drawOrganization
  | .ran (.insertUser ..) => s.drawUser
  | .ran _ => s
  | .changed c _ => s.apply c
  | .committed p =>
    { s with
      organizations := s.organizations ++ p.organizations
      users := s.users ++ p.users }

/-- The rows and numbers after a history. -/
def Store.replay (s : Store) (h : List Occurrence) : Store :=
  h.foldr (fun o s => s.after o) s

namespace Store

variable (s : Store)

/-- Nothing happened. -/
@[simp] theorem replay_nil : s.replay [] = s := rfl

/-- The last occurrence acts on what the earlier ones made. -/
@[simp] theorem replay_cons (o : Occurrence) (h : List Occurrence) :
    s.replay (o :: h) = (s.replay h).after o := rfl

/-- A later history acts on what an earlier one made. -/
theorem replay_append (later earlier : List Occurrence) :
    s.replay (later ++ earlier) = (s.replay earlier).replay later := by
  simp only [replay, List.foldr_append]

/-- Changes by others act one after another. -/
theorem replay_changed (changes : List Change) (held : Pending) :
    s.replay ((changes.map (Occurrence.changed · held)).reverse) = changes.foldl Store.apply s := by
  simp only [replay, List.foldr_reverse, List.foldl_map]
  rfl

end Store

/-! ## Properties of histories -/

/-- Every occurrence of a history satisfies `P`, with the store that it met. -/
inductive Throughout (P : Store → Occurrence → Prop) (s : Store) : List Occurrence → Prop
  | nil : Throughout P s []
  | cons {o earlier} (last : P (s.replay earlier) o) (rest : Throughout P s earlier) :
    Throughout P s (o :: earlier)

section throughout

variable {P : Store → Occurrence → Prop} {s : Store}

/-- The last occurrence satisfies `P`, and so do the earlier ones. -/
theorem throughout_cons {o : Occurrence} {earlier : List Occurrence} :
    Throughout P s (o :: earlier) ↔ P (s.replay earlier) o ∧ Throughout P s earlier := by
  constructor
  · rintro ⟨⟩
    exact ⟨‹_›, ‹_›⟩
  · rintro ⟨ho, hearlier⟩
    exact .cons ho hearlier

/-- A later part of a history satisfies `P` from where the earlier part led. -/
theorem throughout_append {later earlier : List Occurrence} :
    Throughout P s (later ++ earlier) ↔
      Throughout P (s.replay earlier) later ∧ Throughout P s earlier := by
  induction later with
  | nil => exact ⟨fun hP => ⟨.nil, hP⟩, fun hP => hP.2⟩
  | cons o later ih =>
    simp only [List.cons_append, throughout_cons, ih, Store.replay_append, and_assoc]

/-- What holds throughout a history holds up to every moment of it. -/
theorem Throughout.of_suffix {h earlier : List Occurrence} (hP : Throughout P s h)
    (hsuffix : earlier <:+ h) : Throughout P s earlier := by
  obtain ⟨later, rfl⟩ := hsuffix
  exact (throughout_append.mp hP).2

/-- The occurrence at a moment satisfies `P` with the store of that moment. -/
theorem Throughout.at {later earlier : List Occurrence} {o : Occurrence}
    (hP : Throughout P s (later ++ o :: earlier)) : P (s.replay earlier) o :=
  (throughout_cons.mp (throughout_append.mp hP).2).1

/-- A property of occurrences that regards no store holds throughout if it holds of each. -/
theorem throughout_of_forall {h : List Occurrence} (hP : ∀ o ∈ h, ∀ t, P t o) :
    Throughout P s h := by
  induction h with
  | nil => exact .nil
  | cons o h ih =>
    exact .cons (hP o List.mem_cons_self _) (ih fun o' ho' => hP o' (List.mem_cons_of_mem _ ho'))

instance decidableThroughout [∀ s o, Decidable (P s o)] (s : Store) :
    (h : List Occurrence) → Decidable (Throughout P s h)
  | [] => .isTrue .nil
  | _ :: h =>
    have := decidableThroughout s h
    decidable_of_iff _ throughout_cons.symm

end throughout

/-- Others keep to the constraints of the tables: they draw numbers and only add rows. An organization has
a name and a description that fit, and a user an organization that is there. Nobody has the number or the
email of a row that is added, and no row that the service's transaction has inserted has it. -/
def Occurrence.Lawful (s : Store) : Occurrence → Prop
  | .changed (.addOrganization own name description) held =>
    Database.fits name description = true ∧ ∃ id ∈ own.or s.nextOrganization,
      (∀ o ∈ s.organizations, o.id ≠ id) ∧ ∀ o ∈ held.organizations, o.id ≠ id
  | .changed (.addUser own email organization _) held =>
    s.hasOrganization organization = true ∧
      (∀ u ∈ s.users, u.email ≠ email) ∧ (∀ u ∈ held.users, u.email ≠ email) ∧
      ∃ id ∈ own.or s.nextUser, (∀ u ∈ s.users, u.id ≠ id) ∧ ∀ u ∈ held.users, u.id ≠ id
  | .changed (.removeUser _) _ => False
  | .changed .drawOrganization _ | .changed .drawUser _ | .ran _ | .committed _ => True

instance (s : Store) : (o : Occurrence) → Decidable (o.Lawful s)
  | .changed (.addOrganization ..) _ => inferInstanceAs (Decidable (_ ∧ _))
  | .changed (.addUser ..) _ => inferInstanceAs (Decidable (_ ∧ _ ∧ _ ∧ _))
  | .changed (.removeUser _) _ => inferInstanceAs (Decidable False)
  | .changed .drawOrganization _ | .changed .drawUser _ | .ran _ | .committed _ =>
    inferInstanceAs (Decidable True)

/-- The rows of a transaction are an organization and its owner, and nothing else. -/
structure Pending.Founds (p : Pending) (o : Organization) (u : AppUser) : Prop where
  rows : p = ⟨[o], [u], []⟩
  reference : u.organization = o.id
  role : u.role = .owner

/-- What the service commits is an organization together with its owner, whose numbers and email nobody
had. -/
def Occurrence.Founding (s : Store) : Occurrence → Prop
  | .committed p => (∃ o u, p.Founds o u) ∧ s.Apart p
  | .ran _ | .changed .. => True

/-- The number that an insertion of the service draws is one that no row has. -/
def Occurrence.DrawsFree (s : Store) : Occurrence → Prop
  | .ran (.insertOrganization ..) => ∃ id ∈ s.nextOrganization, ∀ o ∈ s.organizations, o.id ≠ id
  | .ran (.insertUser ..) => ∃ id ∈ s.nextUser, ∀ u ∈ s.users, u.id ≠ id
  | .ran _ | .changed .. | .committed _ => True

instance (s : Store) : (o : Occurrence) → Decidable (o.DrawsFree s)
  | .ran (.insertOrganization ..) =>
    inferInstanceAs (Decidable (∃ id ∈ s.nextOrganization, ∀ o ∈ s.organizations, o.id ≠ id))
  | .ran (.insertUser ..) =>
    inferInstanceAs (Decidable (∃ id ∈ s.nextUser, ∀ u ∈ s.users, u.id ≠ id))
  | .ran (.findMembership _) | .ran (.findUser _) | .ran .begin | .ran (.setConfig ..)
  | .ran .migrate | .ran (.recordMigration ..) | .ran .commit | .changed .. | .committed _ =>
    inferInstanceAs (Decidable True)

/-- What may happen while a transaction has inserted some rows and is not committed. -/
def Occurrence.During (p : Pending) : Occurrence → Prop
  | .ran _ => True
  | .changed _ held => held = p
  | .committed _ => False

/-- The rows that an occurrence commits for the service. -/
def Occurrence.rows? : Occurrence → Option Pending
  | .committed p => some p
  | .ran _ | .changed .. => none

/-- The transactions that the service committed in a history, the last one first. -/
def committedIn (h : List Occurrence) : List Pending :=
  h.filterMap Occurrence.rows?

/-- What was committed in a later and in an earlier part of a history. -/
@[simp] theorem committedIn_append (later earlier : List Occurrence) :
    committedIn (later ++ earlier) = committedIn later ++ committedIn earlier :=
  List.filterMap_append

/-- A transaction is among the committed ones if its commit is in the history. -/
theorem mem_committedIn {h : List Occurrence} {p : Pending} :
    p ∈ committedIn h ↔ .committed p ∈ h := by
  simp only [committedIn, List.mem_filterMap]
  constructor
  · rintro ⟨o, ho, hp⟩
    cases o with
    | committed q => cases hp; exact ho
    | ran s => cases hp
    | changed c held => cases hp
  · intro hp
    exact ⟨_, hp, rfl⟩

/-- If nobody else commits anything, the rows after a history are those before it and the ones that the
service committed. -/
theorem rows_of_alone {s : Store} {h : List Occurrence} (halone : ∀ c held, .changed c held ∉ h) :
    (s.replay h).organizations =
        s.organizations ++ (committedIn h).reverse.flatMap (·.organizations) ∧
      (s.replay h).users = s.users ++ (committedIn h).reverse.flatMap (·.users) := by
  induction h with
  | nil => exact ⟨(List.append_nil _).symm, (List.append_nil _).symm⟩
  | cons o earlier ih =>
    obtain ⟨horganizations, husers⟩ :=
      ih fun c held hc => halone c held (List.mem_cons_of_mem _ hc)
    cases o with
    | ran q => cases q <;> exact ⟨horganizations, husers⟩
    | changed c held => exact absurd List.mem_cons_self (halone c held)
    | committed p =>
      have hcommitted : committedIn (.committed p :: earlier) = p :: committedIn earlier := rfl
      rw [hcommitted, List.reverse_cons, List.flatMap_append, List.flatMap_append,
        List.flatMap_singleton, List.flatMap_singleton, ← List.append_assoc, ← List.append_assoc,
        ← horganizations, ← husers]
      exact ⟨rfl, rfl⟩

/-! ## The users of emails -/

namespace Store

/-- No user has an email. -/
theorem userOf?_eq_none_iff {s : Store} {email : String} :
    s.userOf? email = none ↔ ∀ u ∈ s.users, u.email ≠ email := by
  simp [userOf?]

/-- An organization whose number no row has can be added. -/
theorem apart_organization {s : Store} {o : Organization} (hnew : ∀ o' ∈ s.organizations, o'.id ≠ o.id) :
    s.Apart ⟨[o], [], []⟩ where
  organizations := List.forall_mem_singleton.mpr hnew
  users _ hu := absurd hu List.not_mem_nil
  emails _ hu := absurd hu List.not_mem_nil

/-- An organization and a user whose numbers and email no row has can be added. -/
theorem apart_founding {s : Store} {o : Organization} {u : AppUser}
    (horganization : ∀ o' ∈ s.organizations, o'.id ≠ o.id) (huser : ∀ u' ∈ s.users, u'.id ≠ u.id)
    (hemail : ∀ u' ∈ s.users, u'.email ≠ u.email) : s.Apart ⟨[o], [u], []⟩ where
  organizations := List.forall_mem_singleton.mpr horganization
  users := List.forall_mem_singleton.mpr huser
  emails := List.forall_mem_singleton.mpr hemail

/-- The user of an email is one of the users and has the email. -/
theorem mem_of_userOf? {s : Store} {email : String} {u : AppUser} (h : s.userOf? email = some u) :
    u ∈ s.users ∧ u.email = email :=
  ⟨List.mem_of_find?_eq_some h, by simpa using List.find?_some h⟩

/-- The user of an email stays the same when users are added. -/
theorem userOf?_of_prefix {s t : Store} {email : String} {u : AppUser}
    (hst : s.users <+: t.users) (h : s.userOf? email = some u) : t.userOf? email = some u := by
  obtain ⟨more, hmore⟩ := hst
  simp only [userOf?] at h ⊢
  rw [← hmore, List.find?_append, h, Option.some_or]

/-- Membership of an organization's number. -/
theorem hasOrganization_iff {s : Store} {id : Int64} :
    s.hasOrganization id = true ↔ ∃ o ∈ s.organizations, o.id = id := by
  simp [hasOrganization]

/-- An organization stays there when organizations are added. -/
theorem hasOrganization_of_prefix {s t : Store} {id : Int64}
    (hst : s.organizations <+: t.organizations) (h : s.hasOrganization id = true) :
    t.hasOrganization id = true := by
  obtain ⟨o, ho, hid⟩ := hasOrganization_iff.mp h
  exact hasOrganization_iff.mpr ⟨o, hst.subset ho, hid⟩

end Store

/-! ## No row is lost -/

namespace Store

variable (s : Store)

/-- No organization is lost by what others commit. -/
theorem organizations_prefix_apply (c : Change) :
    s.organizations <+: (s.apply c).organizations := by
  cases c with
  | addOrganization own name description =>
    simp only [apply]
    split
    · exact List.prefix_rfl
    · exact List.prefix_append _ _
  | addUser own email organization role =>
    simp only [apply]
    split <;> exact List.prefix_rfl
  | removeUser | drawOrganization | drawUser => exact List.prefix_rfl

/-- No user is lost by what others commit unless they remove them. -/
theorem users_prefix_apply {c : Change} (hc : ∀ email, c ≠ .removeUser email) :
    s.users <+: (s.apply c).users := by
  cases c with
  | addOrganization own name description =>
    simp only [apply]
    split <;> exact List.prefix_rfl
  | addUser own email organization role =>
    simp only [apply]
    split
    · exact List.prefix_rfl
    · exact List.prefix_append _ _
  | removeUser email => exact absurd rfl (hc email)
  | drawOrganization | drawUser => exact List.prefix_rfl

end Store

section lawful

variable {s : Store} {h : List Occurrence}

/-- One occurrence only adds rows. -/
theorem prefix_after {o : Occurrence} (ho : o.Lawful s) :
    s.organizations <+: (s.after o).organizations ∧ s.users <+: (s.after o).users := by
  cases o with
  | ran q => cases q <;> exact ⟨List.prefix_rfl, List.prefix_rfl⟩
  | changed c held =>
    refine ⟨s.organizations_prefix_apply c, s.users_prefix_apply ?_⟩
    rintro email rfl
    exact ho
  | committed p => exact ⟨List.prefix_append _ _, List.prefix_append _ _⟩

/-- The organizations and the users at the start come first at the end. -/
theorem prefix_replay (hlawful : Throughout Occurrence.Lawful s h) :
    s.organizations <+: (s.replay h).organizations ∧ s.users <+: (s.replay h).users := by
  induction h with
  | nil => exact ⟨List.prefix_rfl, List.prefix_rfl⟩
  | cons o earlier ih =>
    obtain ⟨ho, hearlier⟩ := throughout_cons.mp hlawful
    have hstep := prefix_after ho
    have hrest := ih hearlier
    exact ⟨hrest.1.trans hstep.1, hrest.2.trans hstep.2⟩

/-- **An email keeps its user.** -/
theorem userOf?_replay {email : String} {u : AppUser} (hlawful : Throughout Occurrence.Lawful s h)
    (hu : s.userOf? email = some u) : (s.replay h).userOf? email = some u :=
  Store.userOf?_of_prefix (prefix_replay hlawful).2 hu

/-- What the transaction has inserted can still be added after a change that is lawful. -/
theorem Store.Apart.apply {p : Pending} (hs : s.Apart p) {c : Store.Change}
    (hc : Occurrence.Lawful s (.changed c p)) : (s.apply c).Apart p := by
  cases c with
  | addOrganization own name description =>
    obtain ⟨-, id, hid, -, hheld⟩ := hc
    simp only [Store.apply, Option.mem_def.mp hid]
    refine ⟨fun o ho o' ho' => ?_, hs.users, hs.emails⟩
    rcases List.mem_append.mp ho' with ho' | ho'
    · exact hs.organizations o ho o' ho'
    · rw [List.mem_singleton.mp ho']
      exact (hheld o ho).symm
  | addUser own email organization role =>
    obtain ⟨-, -, hemail, id, hid, -, hheld⟩ := hc
    simp only [Store.apply, Option.mem_def.mp hid]
    refine ⟨hs.organizations, fun u hu u' hu' => ?_, fun u hu u' hu' => ?_⟩
    · rcases List.mem_append.mp hu' with hu' | hu'
      · exact hs.users u hu u' hu'
      · rw [List.mem_singleton.mp hu']
        exact (hheld u hu).symm
    · rcases List.mem_append.mp hu' with hu' | hu'
      · exact hs.emails u hu u' hu'
      · rw [List.mem_singleton.mp hu']
        exact (hemail u hu).symm
  | removeUser email => exact hc.elim
  | drawOrganization | drawUser => exact ⟨hs.organizations, hs.users, hs.emails⟩

/-- What the transaction has inserted can still be added after something that happened meanwhile. -/
theorem Store.Apart.after {p : Pending} (hs : s.Apart p) {o : Occurrence} (ho : o.During p)
    (hlawful : o.Lawful s) : (s.after o).Apart p := by
  cases o with
  | ran q => cases q <;> exact ⟨hs.organizations, hs.users, hs.emails⟩
  | changed c held =>
    obtain rfl : held = p := ho
    exact hs.apply hlawful
  | committed q => exact ho.elim

/-- What the transaction has inserted can still be added after everything that happened meanwhile. -/
theorem Store.Apart.replay {p : Pending} (hs : s.Apart p) (hduring : ∀ o ∈ h, o.During p)
    (hlawful : Throughout Occurrence.Lawful s h) : (s.replay h).Apart p := by
  induction h with
  | nil => exact hs
  | cons o earlier ih =>
    obtain ⟨ho, hearlier⟩ := throughout_cons.mp hlawful
    have hrest := ih (fun o' ho' => hduring o' (List.mem_cons_of_mem _ ho')) hearlier
    exact hrest.after (hduring o List.mem_cons_self) ho

end lawful

/-! ## Consistency -/

/-- The constraints on more than one row: numbers are distinct in each table, emails are distinct, and
users belong to organizations that are there. -/
structure Store.Consistent (s : Store) : Prop where
  organizations : (s.organizations.map (·.id)).Nodup
  users : (s.users.map (·.id)).Nodup
  emails : (s.users.map (·.email)).Nodup
  references : ∀ u ∈ s.users, s.hasOrganization u.organization = true

/-- The store without rows is consistent. -/
theorem Store.consistent_empty : Store.empty.Consistent :=
  ⟨List.nodup_nil, List.nodup_nil, List.nodup_nil, fun _ hu => absurd hu List.not_mem_nil⟩

/-- What is distinct stays so when something new is added. -/
theorem nodup_map_append_singleton {α β : Type} {f : α → β} {as : List α} {a : α}
    (has : (as.map f).Nodup) (hnew : ∀ b ∈ as, f b ≠ f a) : ((as ++ [a]).map f).Nodup := by
  rw [List.map_append, List.map_singleton, List.nodup_append]
  refine ⟨has, List.nodup_singleton _, ?_⟩
  intro x hx y hy
  obtain ⟨b, hb, rfl⟩ := List.mem_map.mp hx
  rw [List.mem_singleton.mp hy]
  exact hnew b hb

namespace Store.Consistent

variable {s : Store}

/-- An email has at most one user. -/
theorem eq_userOf? (hs : s.Consistent) {email : String} {u v : AppUser}
    (hu : s.userOf? email = some u) (hv : v ∈ s.users) (hemail : v.email = email) : v = u := by
  obtain ⟨humem, huemail⟩ := mem_of_userOf? hu
  exact List.inj_on_of_nodup_map hs.emails hv humem (hemail.trans huemail.symm)

/-- A user is the user of their email. -/
theorem userOf?_of_mem (hs : s.Consistent) {u : AppUser} (hu : u ∈ s.users) :
    s.userOf? u.email = some u := by
  rcases huser : s.userOf? u.email with _ | v
  · exact absurd rfl (userOf?_eq_none_iff.mp huser u hu)
  · rw [hs.eq_userOf? huser hu rfl]

/-- A store stays consistent when an organization with a new number is added. -/
theorem addOrganization (hs : s.Consistent) {o : Organization}
    (hnew : ∀ o' ∈ s.organizations, o'.id ≠ o.id) (next : Option Int64) :
    Store.Consistent
      { s with organizations := s.organizations ++ [o], nextOrganization := next } where
  organizations := nodup_map_append_singleton hs.organizations hnew
  users := hs.users
  emails := hs.emails
  references u hu := hasOrganization_of_prefix (List.prefix_append _ _) (hs.references u hu)

/-- A store stays consistent when a user of one of its organizations is added, with a new number and a new
email. -/
theorem addUser (hs : s.Consistent) {u : AppUser} (hnew : ∀ u' ∈ s.users, u'.id ≠ u.id)
    (hemail : ∀ u' ∈ s.users, u'.email ≠ u.email)
    (hreference : s.hasOrganization u.organization = true) (next : Option Int64) :
    Store.Consistent { s with users := s.users ++ [u], nextUser := next } where
  organizations := hs.organizations
  users := nodup_map_append_singleton hs.users hnew
  emails := nodup_map_append_singleton hs.emails hemail
  references v hv := by
    rcases List.mem_append.mp hv with hv | hv
    · exact hs.references v hv
    · rw [List.mem_singleton.mp hv]
      exact hreference

/-- What others commit within the constraints keeps a store consistent. -/
theorem apply (hs : s.Consistent) {c : Change} {held : Pending}
    (hc : Occurrence.Lawful s (.changed c held)) : (s.apply c).Consistent := by
  cases c with
  | addOrganization own name description =>
    obtain ⟨-, id, hid, hnew, -⟩ := hc
    simp only [Store.apply, Option.mem_def.mp hid]
    exact hs.addOrganization hnew _
  | addUser own email organization role =>
    obtain ⟨hreference, hemail, -, id, hid, hnew, -⟩ := hc
    simp only [Store.apply, Option.mem_def.mp hid]
    exact hs.addUser hnew hemail hreference _
  | removeUser email => exact hc.elim
  | drawOrganization | drawUser => exact ⟨hs.organizations, hs.users, hs.emails, hs.references⟩

/-- A founding keeps a store consistent. -/
theorem founded (hs : s.Consistent) {p : Pending} {o : Organization} {u : AppUser}
    (hfounds : p.Founds o u) (hapart : s.Apart p) : (s.after (.committed p)).Consistent := by
  obtain ⟨rfl, hreference, -⟩ := hfounds
  have hthere : hasOrganization { s with organizations := s.organizations ++ [o] }
      u.organization = true := by
    rw [hasOrganization_iff]
    exact ⟨o, List.mem_append_right _ List.mem_cons_self, hreference.symm⟩
  exact (hs.addOrganization (hapart.organizations o List.mem_cons_self) s.nextOrganization).addUser
    (hapart.users u List.mem_cons_self) (hapart.emails u List.mem_cons_self) hthere s.nextUser

/-- One occurrence keeps a store consistent. -/
theorem after (hs : s.Consistent) {o : Occurrence} (hlawful : o.Lawful s) (hfounding : o.Founding s) :
    (s.after o).Consistent := by
  cases o with
  | ran q => cases q <;> exact ⟨hs.organizations, hs.users, hs.emails, hs.references⟩
  | changed c held => exact hs.apply hlawful
  | committed p =>
    obtain ⟨⟨o, u, hfounds⟩, hapart⟩ := hfounding
    exact hs.founded hfounds hapart

/-- **A store stays consistent** if others keep to the constraints and the service founds
organizations. -/
theorem replay {h : List Occurrence} (hs : s.Consistent)
    (hlawful : Throughout Occurrence.Lawful s h) (hfounding : Throughout Occurrence.Founding s h) :
    (s.replay h).Consistent := by
  induction h with
  | nil => exact hs
  | cons o earlier ih =>
    obtain ⟨ho, hearlier⟩ := throughout_cons.mp hlawful
    obtain ⟨ho', hearlier'⟩ := throughout_cons.mp hfounding
    exact (ih hearlier hearlier').after ho ho'

end Store.Consistent

/-! ## Owners -/

section owners

variable {s : Store} {h : List Occurrence}

/-- The transactions that the service committed are foundings. -/
theorem founds_of_mem_committedIn (hfounding : Throughout Occurrence.Founding s h) {p : Pending}
    (hp : p ∈ committedIn h) : ∃ o u, p.Founds o u := by
  obtain ⟨later, earlier, rfl⟩ := List.append_of_mem (mem_committedIn.mp hp)
  exact hfounding.at.1

/-- The organizations that the service committed are among the organizations, in their order. -/
theorem committed_sublist_organizations :
    ((committedIn h).reverse.flatMap (·.organizations)).Sublist (s.replay h).organizations := by
  induction h with
  | nil => exact List.nil_sublist _
  | cons o earlier ih =>
    cases o with
    | ran q => cases q <;> exact ih
    | changed c held =>
      exact ih.trans ((s.replay earlier).organizations_prefix_apply c).sublist
    | committed p =>
      show ((p :: committedIn earlier).reverse.flatMap (·.organizations)).Sublist
        ((s.replay earlier).organizations ++ p.organizations)
      rw [List.reverse_cons, List.flatMap_append, List.flatMap_singleton]
      exact ih.append (List.Sublist.refl _)

/-- The users that the service committed are among the users, if others only add rows. -/
theorem committed_subset_users (hlawful : Throughout Occurrence.Lawful s h) {p : Pending}
    (hp : p ∈ committedIn h) : p.users ⊆ (s.replay h).users := by
  obtain ⟨later, earlier, rfl⟩ := List.append_of_mem (mem_committedIn.mp hp)
  have hprefix := (prefix_replay (throughout_append.mp hlawful).1).2
  rw [Store.replay_append]
  intro u hu
  exact hprefix.subset (List.mem_append_right _ hu)

/-- Among foundings whose organizations have distinct numbers, an organization has one user. -/
theorem filter_users_of_founds {ps : List Pending} (hps : ∀ q ∈ ps, ∃ o u, q.Founds o u)
    (hkeys : ((ps.flatMap (·.organizations)).map (·.id)).Nodup) {p : Pending} {o : Organization}
    {u : AppUser} (hp : p ∈ ps) (hfounds : p.Founds o u) :
    (ps.flatMap (·.users)).filter (·.organization == o.id) = [u] := by
  have hself : p.users.filter (·.organization == o.id) = [u] := by
    simp [hfounds.rows, hfounds.reference]
  -- A transaction founds an organization of its own number only.
  have hother : ∀ qs : List Pending, (∀ q ∈ qs, ∃ o u, q.Founds o u) →
      o.id ∉ (qs.flatMap (·.organizations)).map (·.id) →
      (qs.flatMap (·.users)).filter (·.organization == o.id) = [] := by
    intro qs hqs hnot
    rw [List.filter_eq_nil_iff]
    intro v hv heq
    obtain ⟨q, hq, hvq⟩ := List.mem_flatMap.mp hv
    obtain ⟨o', u', hfounds'⟩ := hqs q hq
    apply hnot
    rw [hfounds'.rows, List.mem_singleton] at hvq
    refine List.mem_map.mpr ⟨o', List.mem_flatMap.mpr ⟨q, hq, ?_⟩, ?_⟩
    · simp [hfounds'.rows]
    · rw [← hfounds'.reference, ← hvq, beq_iff_eq.mp heq]
  obtain ⟨before, behind, rfl⟩ := List.append_of_mem hp
  simp only [List.flatMap_append, List.flatMap_cons, List.map_append, hfounds.rows,
    List.singleton_append, List.map_cons] at hkeys
  rw [List.nodup_middle, List.nodup_cons, List.mem_append, not_or] at hkeys
  have hbefore := hother before (fun q hq => hps q (List.mem_append_left _ hq)) hkeys.1.1
  have hbehind := hother behind
    (fun q hq => hps q (List.mem_append_right _ (List.mem_cons_of_mem _ hq))) hkeys.1.2
  rw [List.flatMap_append, List.flatMap_cons, List.filter_append, List.filter_append, hself, hbefore,
    hbehind]
  rfl

/-- **An organization of the service has one owner.** The users that the service committed for an
organization are the one that was committed together with it. -/
theorem owners_of_founded (hfounding : Throughout Occurrence.Founding s h)
    (hconsistent : (s.replay h).Consistent) {p : Pending} {o : Organization} {u : AppUser}
    (hp : p ∈ committedIn h) (hfounds : p.Founds o u) :
    ((committedIn h).flatMap (·.users)).filter (·.organization == o.id) = [u] := by
  have hps : ∀ q ∈ committedIn h, ∃ o u, q.Founds o u :=
    fun q hq => founds_of_mem_committedIn hfounding hq
  have hsublist := (committed_sublist_organizations (s := s) (h := h)).map (·.id)
  have hperm : ((committedIn h).reverse.flatMap (·.organizations)).Perm
      ((committedIn h).flatMap (·.organizations)) :=
    (List.reverse_perm _).flatMap_right _
  have hnodup := (hperm.map (·.id)).nodup_iff.mp (hconsistent.organizations.sublist hsublist)
  exact filter_users_of_founds hps hnodup hp hfounds

end owners

end TenantOnboarding
