import TenantOnboarding.Proofs.Provisioning.Race

/-!
# Databases that fail in other words

Two databases are twins if they differ in what their faults say and in nothing else: where one breaks a
connection or refuses a statement, so does the other, at the same moment and for a reason of the same
class. There are three classes: a row is missing, a uniqueness constraint is broken, and everything
else.

* `Agree` relates how some work ends at the one and at the other twin. Work that succeeds has one result
  and leaves twins. Failures are alike; that they leave twins matters only when the service goes on after
  them, which it does when an email turns out to be taken.
* `Work.Discreet` is work that ends so at all twins. `send_discreet` says it of a statement, whatever
  goes wrong, and `Discreet.bind` and `Discreet.adapt` carry it on.
* **`provide_agree`**: a whole provisioning cannot tell twins apart.
-/

namespace TenantOnboarding

open Database

/-! ## Failures of a class -/

/-- Two failures of the database are of one class. -/
structure DatabaseFailure.Alike (a b : DatabaseFailure) : Prop where
  missing_iff : a = .rowNotFound ↔ b = .rowNotFound
  taken_iff : a.code? = some DatabaseFailure.uniqueViolation ↔
    b.code? = some DatabaseFailure.uniqueViolation

/-- Two failures of storage are the same, or the database failed in two other ways. -/
inductive StorageFailure.Alike : StorageFailure → StorageFailure → Prop where
  | refl (e : StorageFailure) : Alike e e
  | connection (a b : DatabaseFailure) : Alike (.connection a) (.connection b)

/-- Two failures of a request are the same, or failures of the service in one respect, whatever is
written of them for the records. -/
inductive Failure.Alike : Failure → Failure → Prop where
  | refl (e : Failure) : Alike e e
  | unexpected (cause cause' : String) (contexts contexts' : List String) :
      Alike (.unexpected cause contexts) (.unexpected cause' contexts')
  | database (cause cause' : DatabaseFailure) : Alike (.database cause) (.database cause')
  | internal (message message' : String) : Alike (.internal message) (.internal message')

/-- Failures of which a visitor may learn the same, and those among them after which the service asks
the database again. -/
class Graded (ε : Type) where
  Alike : ε → ε → Prop
  refl (e : ε) : Alike e e
  IsConflict : ε → Prop

instance : Graded DatabaseFailure where
  Alike := DatabaseFailure.Alike
  refl _ := ⟨Iff.rfl, Iff.rfl⟩
  IsConflict e := e.code? = some DatabaseFailure.uniqueViolation

instance : Graded StorageFailure where
  Alike := StorageFailure.Alike
  refl := .refl
  IsConflict e := e = .alreadyExists

instance : Graded Failure where
  Alike := Failure.Alike
  refl := .refl
  IsConflict _ := False

/-- Failures of one class are alike as failures of storage. -/
theorem StorageFailure.Alike.ofDatabase {a b : DatabaseFailure} (h : a.Alike b) :
    (StorageFailure.ofDatabase a).Alike (.ofDatabase b) := by
  unfold StorageFailure.ofDatabase
  by_cases hmissing : a = .rowNotFound
  · rw [if_pos hmissing, if_pos (h.missing_iff.mp hmissing)]
    exact .refl _
  rw [if_neg hmissing, if_neg fun hb => hmissing (h.missing_iff.mpr hb)]
  by_cases htaken : a.code? = some DatabaseFailure.uniqueViolation
  · rw [if_pos htaken, if_pos (h.taken_iff.mp htaken)]
    exact .refl _
  · rw [if_neg htaken, if_neg fun hb => htaken (h.taken_iff.mpr hb)]
    exact .connection a b

/-- Alike failures of storage are alike as failures of a request. -/
theorem Failure.Alike.ofStorage {a b : StorageFailure} (h : a.Alike b) :
    (Failure.ofStorage a).Alike (.ofStorage b) := by
  cases h with
  | refl => exact .refl _
  | connection => exact .database _ _

/-! ## Twins -/

/-- The failure that a statement ends with, if the ending is one. -/
def Ending.cause? : Ending → Option DatabaseFailure
  | .lost | .unanswered => some broken
  | .failed cause => some cause
  | .plain | .rows _ => none

/-- Two endings are the same, or failures of one class. -/
inductive Ending.Alike : Ending → Ending → Prop where
  | refl (e : Ending) : Alike e e
  | failures {e₁ e₂ : Ending} {a b : DatabaseFailure} (first : e₁.cause? = some a)
      (second : e₂.cause? = some b) (alike : a.Alike b) : Alike e₁ e₂

/-- Two faults happen at the same moment, with endings that are alike, and others commit the same. -/
structure Fault.Alike (f g : Fault) : Prop where
  moment_eq : f.moment = g.moment
  skip_eq : f.skip = g.skip
  changes_eq : f.changes = g.changes
  ending : f.ending.Alike g.ending

/-- Two databases differ in nothing but their faults, and these are alike one by one. -/
inductive Database.Twins (db : Database) : Database → Prop where
  | intro {faults : List Fault} (alike : List.Forall₂ Fault.Alike db.faults faults) :
      Twins db { db with faults }

/-- A database is its own twin. -/
theorem Database.Twins.refl (db : Database) : db.Twins db :=
  .intro (List.forall₂_same.mpr fun _ _ => ⟨rfl, rfl, rfl, .refl _⟩)

/-- What is done to both twins alike, without a look at their faults, leaves twins. -/
theorem Database.Twins.map {d₁ d₂ : Database} (h : d₁.Twins d₂) (f : Database → Database)
    (hf : ∀ (db : Database) (faults : List Fault),
      f { db with faults } = { f db with faults } ∧ (f db).faults = db.faults) :
    (f d₁).Twins (f d₂) := by
  obtain @⟨faults, halike⟩ := h
  obtain ⟨hcommutes, hkeeps⟩ := hf d₁ faults
  rw [hcommutes]
  refine .intro ?_
  rw [hkeeps]
  exact halike

namespace Database.Twins

variable {d₁ d₂ : Database} (h : d₁.Twins d₂)
include h

/-- Twins have the same connections. -/
theorem connected_eq : d₁.connected = d₂.connected := by
  cases h
  rfl

/-- Twins can be reached alike. -/
theorem reachable_eq : d₁.reachable = d₂.reachable := by
  cases h
  rfl

/-- Twins have the same transaction. -/
theorem transaction_eq : d₁.transaction = d₂.transaction := by
  cases h
  rfl

end Database.Twins

/-! ## Work at twins -/

/-- How some work ends at one twin and at the other. -/
inductive Agree {ε α : Type} [Graded ε] :
    Except ε α × Database → Except ε α × Database → Prop where
  | ok {a : α} {d₁ d₂ : Database} (twins : d₁.Twins d₂) : Agree (.ok a, d₁) (.ok a, d₂)
  | error {e₁ e₂ : ε} {d₁ d₂ : Database} (alike : Graded.Alike e₁ e₂)
      (twins : Graded.IsConflict e₁ → d₁.Twins d₂) : Agree (.error e₁, d₁) (.error e₂, d₂)

/-- Work that cannot tell twins apart. -/
def Work.Discreet {ε α : Type} [Graded ε] (w : Work ε α) : Prop :=
  ∀ d₁ d₂ : Database, d₁.Twins d₂ → Agree (w.run d₁) (w.run d₂)

namespace Work.Discreet

variable {ε ε' α β : Type} [Graded ε] [Graded ε']

/-- What does nothing cannot tell twins apart. -/
theorem pure (a : α) : (pure a : Work ε α).Discreet :=
  fun _ _ htwins => .ok htwins

/-- One piece of work after another. -/
theorem bind {w : Work ε α} {f : α → Work ε β} (hw : w.Discreet) (hf : ∀ a, (f a).Discreet) :
    (w >>= f).Discreet := by
  intro d₁ d₂ htwins
  rw [Work.run_bind, Work.run_bind]
  have hagree := hw d₁ d₂ htwins
  generalize w.run d₁ = x₁ at hagree ⊢
  generalize w.run d₂ = x₂ at hagree ⊢
  cases hagree with
  | ok htwins' => exact hf _ _ _ htwins'
  | error halike htwins' => exact .error halike htwins'

/-- Work with another kind of failure. -/
theorem adapt {w : Work ε α} {f : ε → ε'} (hw : w.Discreet)
    (halike : ∀ e₁ e₂, Graded.Alike e₁ e₂ → Graded.Alike (f e₁) (f e₂))
    (hconflict : ∀ e, Graded.IsConflict (f e) → Graded.IsConflict e) :
    Discreet (w.adapt f) := by
  intro d₁ d₂ htwins
  rw [Work.run_adapt, Work.run_adapt]
  have hagree := hw d₁ d₂ htwins
  generalize w.run d₁ = x₁ at hagree ⊢
  generalize w.run d₂ = x₂ at hagree ⊢
  cases hagree with
  | ok htwins' => exact .ok htwins'
  | error h htwins' => exact .error (halike _ _ h) fun hc => htwins' (hconflict _ hc)

/-- Work whose result is known. -/
theorem ofExcept (r : Except ε α) : (liftM r : Work ε α).Discreet := by
  intro d₁ d₂ htwins
  cases r with
  | ok a => exact .ok htwins
  | error e => exact .error (Graded.refl e) fun _ => htwins

end Work.Discreet

/-! ## Moments -/

/-- At a moment alike faults happen, and the faults that are left are alike. -/
theorem Fault.meet_alike (moment : Moment) {fs gs : List Fault} (h : List.Forall₂ Fault.Alike fs gs) :
    Option.Rel Fault.Alike (Fault.meet moment fs).1 (Fault.meet moment gs).1 ∧
      List.Forall₂ Fault.Alike (Fault.meet moment fs).2 (Fault.meet moment gs).2 := by
  induction h with
  | nil => exact ⟨.none, .nil⟩
  | @cons f g fs gs hfg hrest ih =>
    simp only [Fault.meet]
    by_cases hmoment : f.moment = moment
    · rw [if_pos hmoment, if_pos (hfg.moment_eq ▸ hmoment), ← hfg.skip_eq]
      cases hskip : f.skip with
      | zero => exact ⟨.some hfg, hrest⟩
      | succ skip => exact ⟨.none, .cons ⟨hfg.moment_eq, rfl, hfg.changes_eq, hfg.ending⟩ hrest⟩
    · rw [if_neg hmoment, if_neg (hfg.moment_eq ▸ hmoment)]
      exact ⟨ih.1, .cons hfg ih.2⟩

namespace Database

variable {d₁ d₂ : Database}

/-- What others commit does not depend on the faults, and leaves them as they are. -/
theorem foldl_accept_faults (changes : List Store.Change) (db : Database) (faults : List Fault) :
    changes.foldl accept { db with faults } = { changes.foldl accept db with faults } ∧
      (changes.foldl accept db).faults = db.faults := by
  induction changes generalizing db with
  | nil => exact ⟨rfl, rfl⟩
  | cons c changes ih => exact ih (db.accept c)

/-- At a moment twins meet alike endings and stay twins. -/
theorem Twins.meet (h : d₁.Twins d₂) (moment : Moment) :
    (d₁.meet moment).1.Alike (d₂.meet moment).1 ∧ (d₁.meet moment).2.Twins (d₂.meet moment).2 := by
  obtain ⟨halike⟩ := h
  obtain ⟨hfound, hleft⟩ := Fault.meet_alike moment halike
  unfold Database.meet
  rcases hmeet₁ : Fault.meet moment d₁.faults with ⟨found₁, left₁⟩
  rcases hmeet₂ : Fault.meet moment _ with ⟨found₂, left₂⟩
  rw [hmeet₁, hmeet₂] at hfound hleft
  have hwaiting : Twins { d₁ with faults := left₁ } { d₁ with faults := left₂ } := .intro hleft
  cases hfound with
  | none => exact ⟨.refl _, hwaiting⟩
  | @some f g hfg =>
    refine ⟨hfg.ending, ?_⟩
    simp only [hfg.changes_eq]
    exact hwaiting.map (fun db => g.changes.foldl accept db)
      fun db faults => foldl_accept_faults g.changes db faults

/-- A connection is opened unless its moment ends with a failure. -/
theorem connect_of_meet {db db' : Database} {e : Ending} (hmeet : db.meet .connect = (e, db')) :
    db.connect =
      if db.connected then (.ok (), db)
      else if !db.reachable then (.error broken, db)
      else match e.cause? with
        | some cause => (.error cause, db')
        | none => (.ok (), { db' with connected := true }) := by
  unfold connect
  rw [hmeet]
  cases e <;> rfl

/-- Twins open connections alike. -/
theorem Twins.connect (h : d₁.Twins d₂) : Agree d₁.connect d₂.connect := by
  obtain ⟨hending, htwins⟩ := h.meet .connect
  rcases hmeet₁ : d₁.meet .connect with ⟨e₁, db₁⟩
  rcases hmeet₂ : d₂.meet .connect with ⟨e₂, db₂⟩
  rw [hmeet₁, hmeet₂] at hending htwins
  rw [connect_of_meet hmeet₁, connect_of_meet hmeet₂, ← h.connected_eq, ← h.reachable_eq]
  by_cases hconnected : d₁.connected = true
  · rw [if_pos hconnected, if_pos hconnected]
    exact .ok h
  rw [if_neg hconnected, if_neg hconnected]
  by_cases hreachable : (!d₁.reachable) = true
  · rw [if_pos hreachable, if_pos hreachable]
    exact .error (Graded.refl broken) fun _ => h
  rw [if_neg hreachable, if_neg hreachable]
  have hopened : Twins { db₁ with connected := true } { db₂ with connected := true } :=
    htwins.map (fun db => { db with connected := true }) fun _ _ => ⟨rfl, rfl⟩
  cases hending with
  | refl =>
    cases e₁.cause? with
    | some cause => exact .error (Graded.refl cause) fun _ => htwins
    | none => exact .ok hopened
  | failures hfirst hsecond hab =>
    simp only at hfirst hsecond
    rw [hfirst, hsecond]
    exact .error hab fun _ => htwins

/-! ## Statements -/

/-- What is done to a database is the same whatever its faults, and leaves them as they are. -/
def Oblivious {α : Type} (f : Database → α × Database) : Prop :=
  ∀ (db : Database) (faults : List Fault),
    f { db with faults } = ((f db).1, { (f db).2 with faults }) ∧ (f db).2.faults = db.faults

/-- A transaction that goes on is aborted whatever the faults. -/
theorem abort_faults (db : Database) (faults : List Fault) :
    Database.abort { db with faults } = { db.abort with faults } ∧ db.abort.faults = db.faults := by
  unfold Database.abort
  rcases db with ⟨store, migrations, reachable, connected, transaction, faults', log, history⟩
  cases transaction <;> exact ⟨rfl, rfl⟩

/-- A statement is refused whatever the faults. -/
theorem oblivious_refuse (code : String) : Oblivious (Database.refuse code) := by
  intro db faults
  obtain ⟨hcommutes, hkeeps⟩ := abort_faults db faults
  exact ⟨congrArg (Prod.mk _) hcommutes, hkeeps⟩

/-- A statement is carried out whatever the faults. -/
theorem oblivious_perform (s : Statement) : Oblivious (Database.perform s) := by
  intro db faults
  have hpending : Database.pending { db with faults } = db.pending := rfl
  cases s with
  | findMembership | findUser | begin | setConfig | migrate | recordMigration => exact ⟨rfl, rfl⟩
  | insertOrganization name description =>
    have hrefused (code : String) := oblivious_refuse code
      { db with store := db.store.drawOrganization } faults
    simp only [perform, Database.insertOrganization, hpending]
    cases db.store.nextOrganization with
    | none => exact hrefused sequenceLimit
    | some id =>
      dsimp only
      by_cases hfits : fits name description = true
      · rw [if_pos hfits, if_pos hfits]
        by_cases htaken :
            (db.store.organizations ++ db.pending.organizations).any (·.id == id) = true
        · rw [if_pos htaken, if_pos htaken]
          exact hrefused DatabaseFailure.uniqueViolation
        · rw [if_neg htaken, if_neg htaken]
          exact ⟨rfl, rfl⟩
      · rw [if_neg hfits, if_neg hfits]
        exact hrefused checkViolation
  | insertUser email organization role =>
    have hrefused (code : String) := oblivious_refuse code
      { db with store := db.store.drawUser } faults
    simp only [perform, Database.insertUser, hpending]
    cases db.store.nextUser with
    | none => exact hrefused sequenceLimit
    | some id =>
      dsimp only
      by_cases htaken : (db.store.users ++ db.pending.users).any
          (fun u => u.id == id || u.email == email) = true
      · rw [if_pos htaken, if_pos htaken]
        exact hrefused DatabaseFailure.uniqueViolation
      rw [if_neg htaken, if_neg htaken]
      by_cases hthere :
          (db.store.organizations ++ db.pending.organizations).any (·.id == organization) = true
      · rw [if_pos hthere, if_pos hthere]
        exact ⟨rfl, rfl⟩
      · rw [if_neg hthere, if_neg hthere]
        exact hrefused referenceViolation
  | commit =>
    simp only [perform, Database.commit, hpending]
    by_cases hapart : db.store.Apart db.pending
    · rw [if_pos hapart, if_pos hapart]
      exact ⟨rfl, rfl⟩
    · rw [if_neg hapart, if_neg hapart]
      exact ⟨rfl, rfl⟩

/-- A statement is carried out or refused whatever the faults. -/
theorem oblivious_execute (s : Statement) : Oblivious (Database.execute s) := by
  intro db faults
  unfold Database.execute
  by_cases htexts : s.texts.any (·.toList.contains '\x00') = true
  · rw [if_pos htexts, if_pos htexts]
    exact oblivious_refuse badText db faults
  · rw [if_neg htexts, if_neg htexts]
    exact oblivious_perform s (db.note (.ran s)) faults

/-- What a statement does to twins is the same, and they stay twins. -/
theorem Twins.execute (h : d₁.Twins d₂) (s : Statement) :
    (d₁.execute s).1 = (d₂.execute s).1 ∧ (d₁.execute s).2.Twins (d₂.execute s).2 := by
  obtain @⟨faults, halike⟩ := h
  obtain ⟨hcommutes, hkeeps⟩ := oblivious_execute s d₁ faults
  rw [hcommutes]
  refine ⟨rfl, .intro ?_⟩
  rw [hkeeps]
  exact halike

/-- A transaction that goes on is aborted at both twins. -/
theorem Twins.abort (h : d₁.Twins d₂) : d₁.abort.Twins d₂.abort :=
  h.map Database.abort abort_faults

/-- A moment that ends with a failure fails the statement. If it is a broken uniqueness constraint, the
database refused the statement. -/
theorem answer_of_cause {db db' : Database} {s : Statement} {e : Ending} {cause : DatabaseFailure}
    (hmeet : db.meet s.moment = (e, db')) (hcause : e.cause? = some cause) :
    (db.answer s).1 = .error cause ∧
      (cause.code? = some DatabaseFailure.uniqueViolation → (db.answer s).2 = db'.abort) := by
  unfold answer
  rw [hmeet]
  cases e with
  | plain | rows => cases hcause
  | lost | unanswered =>
    cases hcause
    exact ⟨rfl, fun hcode => by cases hcode⟩
  | failed =>
    cases hcause
    exact ⟨rfl, fun _ => rfl⟩

/-- Twins answer alike. -/
theorem Twins.answer (h : d₁.Twins d₂) (s : Statement) : Agree (d₁.answer s) (d₂.answer s) := by
  obtain ⟨hending, htwins⟩ := h.meet s.moment
  rcases hmeet₁ : d₁.meet s.moment with ⟨e₁, db₁⟩
  rcases hmeet₂ : d₂.meet s.moment with ⟨e₂, db₂⟩
  rw [hmeet₁, hmeet₂] at hending htwins
  simp only at hending htwins
  cases hending with
  | failures hfirst hsecond hab =>
    obtain ⟨herror₁, hrefused₁⟩ := answer_of_cause hmeet₁ hfirst
    obtain ⟨herror₂, hrefused₂⟩ := answer_of_cause hmeet₂ hsecond
    rw [← Prod.eta (d₁.answer s), ← Prod.eta (d₂.answer s), herror₁, herror₂]
    refine .error hab fun htaken => ?_
    rw [hrefused₁ htaken, hrefused₂ (hab.taken_iff.mp htaken)]
    exact htwins.abort
  | refl =>
    obtain ⟨hresult, hleft⟩ := htwins.execute s
    unfold Database.answer
    rw [hmeet₁, hmeet₂]
    rcases hexecute₁ : db₁.execute s with ⟨r₁, left₁⟩
    rcases hexecute₂ : db₂.execute s with ⟨r₂, left₂⟩
    rw [hexecute₁, hexecute₂] at hresult hleft
    simp only at hresult hleft
    subst hresult
    have hlost : left₁.disconnect.Twins left₂.disconnect :=
      hleft.map disconnect fun _ _ => ⟨rfl, rfl⟩
    have hwhole : Agree (r₁, left₁) (r₁, left₂) := by
      cases r₁ with
      | ok rows => exact .ok hleft
      | error cause => exact .error (Graded.refl cause) fun _ => hleft
    cases e₁ with
    | plain => simpa only [hexecute₁, hexecute₂] using hwhole
    | lost =>
      exact .error (Graded.refl broken) fun _ => htwins.map disconnect fun _ _ => ⟨rfl, rfl⟩
    | unanswered =>
      simp only [hexecute₁, hexecute₂]
      exact .error (Graded.refl broken) fun _ => hlost
    | failed cause => exact .error (Graded.refl cause) fun _ => htwins.abort
    | rows rs =>
      simp only [hexecute₁, hexecute₂]
      cases r₁ with
      | ok rows => exact .ok hleft
      | error cause => exact hwhole

/-- **Sending a statement cannot tell twins apart**, whatever goes wrong. -/
theorem send_discreet (s : Statement) : (send s).Discreet := by
  intro d₁ d₂ htwins
  by_cases hlistens : d₁.Listens
  · have hlistens' : d₂.Listens := by
      unfold Listens
      rwa [← htwins.transaction_eq]
    change Agree (d₁.deliver s) (d₂.deliver s)
    rw [send_of_listens hlistens, send_of_listens hlistens']
    have hconnect := htwins.connect
    generalize d₁.connect = x₁ at hconnect ⊢
    generalize d₂.connect = x₂ at hconnect ⊢
    cases hconnect with
    | ok hopened =>
      refine Twins.answer (Twins.map hopened (fun db => { db with log := s :: db.log }) ?_) s
      exact fun _ _ => ⟨rfl, rfl⟩
    | error halike hleft => exact .error halike hleft
  · change Agree (d₁.deliver s) (d₂.deliver s)
    unfold deliver
    rw [← htwins.transaction_eq]
    match htransaction : d₁.transaction with
    | .closed => exact absurd (.inl htransaction) hlistens
    | .active p => exact absurd (.inr ⟨p, htransaction⟩) hlistens
    | .lost => exact .error (Graded.refl broken) fun _ => htwins
    | .aborted =>
      by_cases hcommit : s = .commit
      · simp only [if_pos hcommit]
        refine .ok ?_
        exact htwins.map (fun db => { db with log := s :: db.log, transaction := .closed })
          fun _ _ => ⟨rfl, rfl⟩
      · simp only [if_neg hcommit]
        refine .error (Graded.refl _) fun _ => ?_
        exact htwins.map (fun db => { db with log := s :: db.log, transaction := .aborted })
          fun _ _ => ⟨rfl, rfl⟩

end Database

/-! ## Transactions -/

/-- Ending the transaction at twins. -/
theorem Database.Twins.closed {d₁ d₂ : Database} (h : d₁.Twins d₂) :
    Twins { d₁ with transaction := .closed } { d₂ with transaction := .closed } :=
  h.map (fun db => { db with transaction := .closed }) fun _ _ => ⟨rfl, rfl⟩

namespace Tenancy

/-- A statement of a transaction cannot tell twins apart. -/
theorem tell_discreet (s : Statement) : (tell s).Discreet :=
  (send_discreet s).adapt (fun _ _ h => StorageFailure.Alike.ofDatabase h)
    fun _ h => StorageFailure.ofDatabase_eq_alreadyExists_iff.mp h

/-- Beginning a transaction cannot tell twins apart. -/
theorem begin_discreet : begin.Discreet := by
  intro d₁ d₂ htwins
  rw [run_begin, run_begin]
  have hsend := send_discreet .begin d₁ d₂ htwins
  generalize (send .begin).run d₁ = x₁ at hsend ⊢
  generalize (send .begin).run d₂ = x₂ at hsend ⊢
  cases hsend with
  | ok hbegun => exact .ok hbegun
  | error halike hleft =>
    exact .error (StorageFailure.Alike.ofDatabase halike)
      fun htaken => (hleft (StorageFailure.ofDatabase_eq_alreadyExists_iff.mp htaken)).closed

/-- A transaction cannot tell twins apart if its body cannot. -/
theorem inTransaction_discreet {α : Type} {body : Work StorageFailure α} (hbody : body.Discreet) :
    (inTransaction body).Discreet := by
  intro d₁ d₂ htwins
  rw [run_inTransaction, run_inTransaction]
  have hbegin := begin_discreet d₁ d₂ htwins
  generalize begin.run d₁ = x₁ at hbegin ⊢
  generalize begin.run d₂ = x₂ at hbegin ⊢
  cases hbegin with
  | error halike hleft => exact .error halike hleft
  | ok hbegun =>
    have hran := hbody _ _ hbegun
    simp only
    generalize body.run _ = x₁ at hran ⊢
    generalize body.run _ = x₂ at hran ⊢
    cases hran with
    | error halike hleft => exact .error halike fun htaken => (hleft htaken).closed
    | ok hwritten =>
      simp only [run_close]
      have hcommit := send_discreet .commit _ _ hwritten
      generalize (send .commit).run _ = x₁ at hcommit ⊢
      generalize (send .commit).run _ = x₂ at hcommit ⊢
      cases hcommit with
      | ok hcommitted => exact .ok hcommitted.closed
      | error halike hleft =>
        exact .error (StorageFailure.Alike.ofDatabase halike)
          fun htaken => (hleft (StorageFailure.ofDatabase_eq_alreadyExists_iff.mp htaken)).closed

end Tenancy

namespace Directory

/-- Asking the directory cannot tell twins apart. -/
theorem ask_discreet (s : Statement) : (ask s).Discreet :=
  (send_discreet s).adapt (fun _ _ _ => Failure.Alike.database _ _) fun _ hnever => hnever.elim

/-- Asking for a membership cannot tell twins apart. -/
theorem membership_discreet (email : String) : (membership email).Discreet := by
  apply Work.Discreet.bind (ask_discreet _)
  intro rows
  cases first? Membership.ofRow? rows with
  | ok found => exact .pure _
  | error cause => exact .ofExcept (.error _)

/-- Asking for a user cannot tell twins apart. -/
theorem user?_discreet (email : String) : (user? email).Discreet := by
  apply Work.Discreet.bind (ask_discreet _)
  intro rows
  cases first? AppUser.ofRow? rows with
  | ok found => exact .pure _
  | error cause => exact .ofExcept (.error _)

end Directory

/-! ## Provisionings -/

namespace Provisioning

/-- A creation cannot tell twins apart. -/
theorem createWithOwner_discreet (n : NewOrganization) : (createWithOwner n).Discreet := by
  rw [createWithOwner_eq]
  apply Tenancy.inTransaction_discreet
  unfold insertions
  refine .bind (.bind (Tenancy.tell_discreet _) fun rows => .ofExcept _) fun organization => ?_
  refine .bind (.bind (Tenancy.tell_discreet _) fun _ => .pure _) fun _ => ?_
  exact .bind (.bind (Tenancy.tell_discreet _) fun rows => .ofExcept _) fun user => .pure _

/-- What a visitor is told of a failed creation does not tell twins apart. -/
theorem resolve_agree {d₁ d₂ : Database} {a b : StorageFailure} {email : String} (h : a.Alike b)
    (htwins : a = .alreadyExists → d₁.Twins d₂) :
    Agree ((resolve a email).run d₁) ((resolve b email).run d₂) := by
  cases h with
  | connection => exact .error (.database _ _) fun hnever => hnever.elim
  | refl =>
    unfold resolve
    by_cases htaken : a = .alreadyExists
    · rw [if_pos htaken]
      refine Work.Discreet.bind (Directory.membership_discreet email) (fun m => ?_) d₁ d₂
        (htwins htaken)
      match m with
      | ⟨some user, some organization⟩ => exact .ofExcept (.error _)
      | ⟨none, _⟩ | ⟨some _, none⟩ => exact .ofExcept (.error _)
    · rw [if_neg htaken]
      exact .error (.refl _) fun hnever => hnever.elim

/-- An attempt to create cannot tell twins apart. -/
theorem attempt_agree {d₁ d₂ : Database} (n : NewOrganization) (email : String)
    (htwins : d₁.Twins d₂) :
    Agree (((attempt n email).run d₁).1.outcome, ((attempt n email).run d₁).2)
      (((attempt n email).run d₂).1.outcome, ((attempt n email).run d₂).2) := by
  rw [run_attempt, run_attempt]
  have hcreate := createWithOwner_discreet n d₁ d₂ htwins
  generalize (createWithOwner n).run d₁ = x₁ at hcreate ⊢
  generalize (createWithOwner n).run d₂ = x₂ at hcreate ⊢
  cases hcreate with
  | ok hcreated => exact .ok hcreated
  | error halike hleft => exact resolve_agree halike hleft

/-- **A provisioning cannot tell twins apart.** -/
theorem provide_agree {d₁ d₂ : Database} (identity : Identity) (wish : Request) (print : Printer)
    (htwins : d₁.Twins d₂) :
    Agree
      (((provide identity wish print).run d₁).1.outcome, ((provide identity wish print).run d₁).2)
      (((provide identity wish print).run d₂).1.outcome,
        ((provide identity wish print).run d₂).2) := by
  rw [run_provide, run_provide]
  have hmembership := Directory.membership_discreet identity.email d₁ d₂ htwins
  generalize (Directory.membership identity.email).run d₁ = x₁ at hmembership ⊢
  generalize (Directory.membership identity.email).run d₂ = x₂ at hmembership ⊢
  cases hmembership with
  | error halike => exact .error halike fun hnever => hnever.elim
  | @ok m e₁ e₂ hleft =>
    match m with
    | ⟨some user, some organization⟩ => exact .error (.refl _) fun hnever => hnever.elim
    | ⟨none, _⟩ | ⟨some _, none⟩ =>
      match wish.validateFor print identity.email with
      | .error failure => exact .error (.refl _) fun hnever => hnever.elim
      | .ok n => exact attempt_agree n identity.email hleft

end Provisioning

end TenantOnboarding
