import TenantOnboarding.Script

/-!
# Laws of scripts

* `Script.run_bind` and the lemmas of `Work` say what comes of scripts that are put together, at a
  database.
* `Script.Allows` says which deeds a script allows for, and what comes of them, whatever is replied. What
  is done when a script is carried out at a database is among them (`allows_run`), so what is proved of all
  the deeds that a script allows for holds of every run.
* `Script.allows_bind_iff`, `Work.allows_bind_iff` and their like take apart what scripts allow for that
  are put together.
-/

namespace TenantOnboarding

namespace Script

variable {α β : Type}

/-! ## At a database -/

/-- A script that is over does nothing. -/
theorem run_pure (a : α) (db : Database) : (pure a : Script α).run db = (a, db) := rfl

/-- A script that follows another is carried out after it. -/
theorem run_bind (s : Script α) (f : α → Script β) (db : Database) :
    (s >>= f).run db = (f (s.run db).1).run (s.run db).2 := by
  show (s.bind f).run db = _
  induction s generalizing db with
  | done a => rfl
  | meet event valid next ih => exact ih db
  | send s next ih => exact ih _ _
  | abandon next ih => exact ih _

/-- What comes of a script may be put in another form. -/
theorem run_map (f : α → β) (s : Script α) (db : Database) :
    (f <$> s).run db = (f (s.run db).1, (s.run db).2) :=
  run_bind s (fun a => .done (f a)) db

/-! ## Whatever is replied -/

/-- The deeds that a script allows for, and what comes of them, whatever is replied. -/
inductive Allows : Script α → List Deed → α → Prop where
  | done (a : α) : Allows (done a) [] a
  | meet {event : Provisioning.Event} {valid : Option Bool} {next : Script α} {ds : List Deed} {a : α}
      (rest : Allows next ds a) : Allows (meet event valid next) (.meet event valid :: ds) a
  | send {s : Statement} {next : Reply → Script α} {ds : List Deed} {a : α} (reply : Reply)
      (rest : Allows (next reply) ds a) : Allows (send s next) (.send s reply :: ds) a
  | abandon {next : Script α} {ds : List Deed} {a : α} (rest : Allows next ds a) :
      Allows (abandon next) (.abandon :: ds) a

/-- **What is done at a database is what the script allows for.** -/
theorem allows_run (s : Script α) (db : Database) : s.Allows (s.transcript db) (s.run db).1 := by
  induction s generalizing db with
  | done a => exact .done a
  | meet event valid next ih => exact .meet (ih db)
  | send s next ih => exact .send _ (ih _ _)
  | abandon next ih => exact .abandon (ih _)

section inversion

variable {a b : α} {ds : List Deed}

/-- A script that is over allows for nothing more. -/
theorem allows_pure_iff : (pure a : Script α).Allows ds b ↔ ds = [] ∧ b = a := by
  constructor
  · rintro ⟨⟩
    exact ⟨rfl, rfl⟩
  · rintro ⟨rfl, rfl⟩
    exact .done b

/-- A script that tells of an event does so first. -/
theorem allows_meet_iff {event : Provisioning.Event} {valid : Option Bool} {next : Script α} :
    (meet event valid next).Allows ds a ↔
      ∃ rest, ds = .meet event valid :: rest ∧ next.Allows rest a := by
  constructor
  · rintro ⟨⟩
    exact ⟨_, rfl, ‹_›⟩
  · rintro ⟨rest, rfl, h⟩
    exact .meet h

/-- A script that sends a statement goes on by the reply. -/
theorem allows_send_iff {s : Statement} {next : Reply → Script α} :
    (send s next).Allows ds a ↔
      ∃ reply rest, ds = .send s reply :: rest ∧ (next reply).Allows rest a := by
  constructor
  · rintro ⟨⟩
    exact ⟨_, _, rfl, ‹_›⟩
  · rintro ⟨reply, rest, rfl, h⟩
    exact .send reply h

/-- A script that abandons the transaction does so first. -/
theorem allows_abandon_iff {next : Script α} :
    (abandon next).Allows ds a ↔ ∃ rest, ds = .abandon :: rest ∧ next.Allows rest a := by
  constructor
  · rintro ⟨⟩
    exact ⟨_, rfl, ‹_›⟩
  · rintro ⟨rest, rfl, h⟩
    exact .abandon h

/-- What two scripts allow for one after the other. -/
theorem allows_bind_iff {s : Script α} {f : α → Script β} {b : β} :
    (s >>= f).Allows ds b ↔
      ∃ first a later, ds = first ++ later ∧ s.Allows first a ∧ (f a).Allows later b := by
  show (s.bind f).Allows ds b ↔ _
  constructor
  · intro h
    induction s generalizing ds with
    | done a => exact ⟨[], a, ds, rfl, .done a, h⟩
    | meet event valid next ih =>
      cases h with
      | meet hrest =>
        obtain ⟨first, a, later, rfl, hfirst, hlater⟩ := ih hrest
        exact ⟨_, a, later, rfl, .meet hfirst, hlater⟩
    | send s next ih =>
      cases h with
      | send reply hrest =>
        obtain ⟨first, a, later, rfl, hfirst, hlater⟩ := ih reply hrest
        exact ⟨_, a, later, rfl, .send reply hfirst, hlater⟩
    | abandon next ih =>
      cases h with
      | abandon hrest =>
        obtain ⟨first, a, later, rfl, hfirst, hlater⟩ := ih hrest
        exact ⟨_, a, later, rfl, .abandon hfirst, hlater⟩
  · rintro ⟨first, a, later, rfl, hfirst, hlater⟩
    induction hfirst with
    | done a => exact hlater
    | meet _ ih => exact .meet (ih hlater)
    | send reply _ ih => exact .send reply (ih hlater)
    | abandon _ ih => exact .abandon (ih hlater)

/-- What a script allows for whose result is put in another form. -/
theorem allows_map_iff {f : α → β} {s : Script α} {b : β} :
    (f <$> s).Allows ds b ↔ ∃ a, s.Allows ds a ∧ b = f a := by
  show (s >>= fun a => pure (f a)).Allows ds b ↔ _
  rw [allows_bind_iff]
  constructor
  · rintro ⟨first, a, later, rfl, hfirst, hlater⟩
    obtain ⟨rfl, rfl⟩ := allows_pure_iff.mp hlater
    exact ⟨a, (List.append_nil first).symm ▸ hfirst, rfl⟩
  · rintro ⟨a, hs, rfl⟩
    exact ⟨ds, a, [], (List.append_nil ds).symm, hs, allows_pure_iff.mpr ⟨rfl, rfl⟩⟩

end inversion

end Script

namespace Work

variable {ε α β : Type}

/-! ## Work at a database -/

/-- Work that only gives a result. -/
theorem run_pure (a : α) (db : Database) : (pure a : Work ε α).run db = (.ok a, db) := rfl

/-- Work followed by work that depends on its result. A failure of the first is the failure of both. -/
theorem run_bind (w : Work ε α) (f : α → Work ε β) (db : Database) :
    (w >>= f).run db =
      match w.run db with
      | (.ok a, db') => (f a).run db'
      | (.error e, db') => (.error e, db') := by
  show (w.run >>= ExceptT.bindCont f).run db = _
  rw [Script.run_bind]
  rcases w.run db with ⟨_ | _, db'⟩ <;> rfl

/-- Work that cannot fail. -/
theorem run_lift (s : Script α) (db : Database) :
    (ExceptT.lift s : Work ε α).run db = (.ok (s.run db).1, (s.run db).2) :=
  Script.run_map Except.ok s db

/-- Work with another kind of failure. -/
theorem run_adapt {ε' : Type} (f : ε → ε') (w : Work ε α) (db : Database) :
    (w.adapt f).run db = ((w.run db).1.mapError f, (w.run db).2) :=
  Script.run_map (Except.mapError f) w.run db

/-- Sending a statement. -/
theorem run_send (s : Statement) (db : Database) : (Database.send s).run db = db.deliver s := rfl

/-! ## Work, whatever is replied -/

variable {ds : List Deed}

/-- What work allows for that is followed by other work unless it fails. -/
theorem allows_bind_iff {w : Work ε α} {f : α → Work ε β} {r : Except ε β} :
    (w >>= f).run.Allows ds r ↔
      (∃ e, r = .error e ∧ w.run.Allows ds (.error e)) ∨
        ∃ first a later, ds = first ++ later ∧ w.run.Allows first (.ok a) ∧
          (f a).run.Allows later r := by
  show (w.run >>= ExceptT.bindCont f).Allows ds r ↔ _
  rw [Script.allows_bind_iff]
  constructor
  · rintro ⟨first, e | a, later, rfl, hfirst, hlater⟩
    · obtain ⟨rfl, rfl⟩ := Script.allows_pure_iff.mp hlater
      rw [List.append_nil]
      exact .inl ⟨e, rfl, hfirst⟩
    · exact .inr ⟨first, a, later, rfl, hfirst, hlater⟩
  · rintro (⟨e, rfl, h⟩ | ⟨first, a, later, rfl, hfirst, hlater⟩)
    · exact ⟨ds, .error e, [], (List.append_nil _).symm, h, Script.allows_pure_iff.mpr ⟨rfl, rfl⟩⟩
    · exact ⟨first, .ok a, later, rfl, hfirst, hlater⟩

/-- What work allows for that begins with work that cannot fail. -/
theorem allows_lift_bind_iff {s : Script α} {f : α → Work ε β} {r : Except ε β} :
    (ExceptT.lift s >>= f).run.Allows ds r ↔
      ∃ first a later, ds = first ++ later ∧ s.Allows first a ∧ (f a).run.Allows later r := by
  rw [allows_bind_iff]
  constructor
  · rintro (⟨e, rfl, h⟩ | ⟨first, a, later, rfl, hfirst, hlater⟩)
    · obtain ⟨a, -, ha⟩ := Script.allows_map_iff.mp h
      cases ha
    · obtain ⟨a', hs, ha⟩ := Script.allows_map_iff.mp hfirst
      cases ha
      exact ⟨first, a, later, rfl, hs, hlater⟩
  · rintro ⟨first, a, later, rfl, hfirst, hlater⟩
    exact .inr ⟨first, a, later, rfl, Script.allows_map_iff.mpr ⟨a, hfirst, rfl⟩, hlater⟩

/-- What work allows for whose failures are put in another form. -/
theorem allows_adapt_iff {ε' : Type} {g : ε → ε'} {w : Work ε α} {r : Except ε' α} :
    (w.adapt g).run.Allows ds r ↔ ∃ r', w.run.Allows ds r' ∧ r = r'.mapError g :=
  Script.allows_map_iff

/-- What sending a statement allows for. -/
theorem allows_send_iff {s : Statement} {r : Reply} :
    (Database.send s).run.Allows ds r ↔ ds = [.send s r] := by
  show (Script.send s .done).Allows ds r ↔ _
  rw [Script.allows_send_iff]
  constructor
  · rintro ⟨reply, rest, rfl, hrest⟩
    obtain ⟨rfl, rfl⟩ := Script.allows_pure_iff.mp hrest
    rfl
  · rintro rfl
    exact ⟨r, [], rfl, .done r⟩

end Work

end TenantOnboarding
