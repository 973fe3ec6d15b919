import TenantOnboarding.Proofs.Script
import TenantOnboarding.Proofs.Store.History

/-!
# Talking to a database

What one statement can do to a database, whatever others commit meanwhile and whatever fails.

* `Database.Advances db db' h` relates the database before and after some work: `h` is what was added
  to the history, and the rows and numbers are those that `h` leads to.
* `Database.Waits` is the case in which only others committed, `Database.Falters` the case of a
  failure that has no effect of its own.
* **`send_cases`** says all that sending a statement can come to. `send_undisturbed` is the case in
  which nothing goes wrong.
-/

namespace TenantOnboarding

/-! ## Advancing -/

/-- Between two moments a history was added, which accounts for the rows and numbers. What may still
happen was to be expected before, and others changed only what they were expected to change. -/
structure Database.Advances (db db' : Database) (h : List Occurrence) : Prop where
  history : db'.history = h ++ db.history
  store : db'.store = db.store.replay h
  faults : ∀ f ∈ db'.faults, ∃ g ∈ db.faults,
    g.moment = f.moment ∧ g.changes = f.changes ∧ g.ending = f.ending
  changes : ∀ c held, .changed c held ∈ h → ∃ g ∈ db.faults, c ∈ g.changes
  reachable : db'.reachable = db.reachable

/-- Nobody else is going to commit anything. -/
def Database.Alone (db : Database) : Prop :=
  ∀ f ∈ db.faults, f.changes = []

namespace Database.Advances

variable {db db₁ db₂ : Database} {h h₁ h₂ : List Occurrence}

/-- Nothing happened. -/
theorem refl (db : Database) : db.Advances db [] :=
  ⟨rfl, rfl, fun f hf => ⟨f, hf, rfl, rfl, rfl⟩, fun _ _ hc => absurd hc List.not_mem_nil, rfl⟩

/-- One thing happened after another. -/
theorem trans (a : db.Advances db₁ h₁) (b : db₁.Advances db₂ h₂) : db.Advances db₂ (h₂ ++ h₁) where
  history := by rw [b.history, a.history, List.append_assoc]
  store := by rw [b.store, a.store, Store.replay_append]
  faults f hf := by
    obtain ⟨g, hg, hgf⟩ := b.faults f hf
    obtain ⟨g', hg', hgg⟩ := a.faults g hg
    exact ⟨g', hg', hgg.1.trans hgf.1, hgg.2.1.trans hgf.2.1, hgg.2.2.trans hgf.2.2⟩
  changes c held hc := by
    rcases List.mem_append.mp hc with hc | hc
    · obtain ⟨g, hg, hmem⟩ := b.changes c held hc
      obtain ⟨g', hg', -, hchanges, -⟩ := a.faults g hg
      exact ⟨g', hg', hchanges ▸ hmem⟩
    · exact a.changes c held hc
  reachable := b.reachable.trans a.reachable

/-- Where nobody else was going to commit anything, nobody did. -/
theorem alone (a : db.Advances db₁ h) (halone : db.Alone) (c : Store.Change) (held : Pending) :
    .changed c held ∉ h := by
  intro hc
  obtain ⟨f, hf, hmem⟩ := a.changes c held hc
  rw [halone f hf] at hmem
  exact List.not_mem_nil hmem

/-- What every expected ending satisfies is satisfied by every ending still to be expected. -/
theorem expects {P : Moment → Ending → Prop} (a : db.Advances db₁ h)
    (hP : ∀ f ∈ db.faults, P f.moment f.ending) : ∀ f ∈ db₁.faults, P f.moment f.ending := by
  intro f hf
  obtain ⟨g, hg, hmoment, -, hending⟩ := a.faults f hf
  rw [← hmoment, ← hending]
  exact hP g hg

end Database.Advances

/-! ## Moments -/

section moments

/-- The faults that are left at a moment, and the one that happens, were to be expected. -/
theorem Fault.meet_subset {moment : Moment} {faults left : List Fault} {found : Option Fault}
    (h : Fault.meet moment faults = (found, left)) :
    (∀ f ∈ left, ∃ g ∈ faults, g.moment = f.moment ∧ g.changes = f.changes ∧ g.ending = f.ending) ∧
      ∀ f ∈ found, f ∈ faults ∧ f.moment = moment := by
  induction faults generalizing left with
  | nil =>
    cases h
    exact ⟨fun f hf => absurd hf List.not_mem_nil, fun f hf => by cases hf⟩
  | cons g rest ih =>
    simp only [Fault.meet] at h
    split at h
    · rename_i hmoment
      split at h
      · cases h
        refine ⟨fun f hf => ⟨f, List.mem_cons_of_mem _ hf, rfl, rfl, rfl⟩, ?_⟩
        rintro f ⟨⟩
        exact ⟨List.mem_cons_self, hmoment⟩
      · cases h
        refine ⟨?_, fun f hf => by cases hf⟩
        intro f hf
        rcases List.mem_cons.mp hf with rfl | hf
        · exact ⟨g, List.mem_cons_self, rfl, rfl, rfl⟩
        · exact ⟨f, List.mem_cons_of_mem _ hf, rfl, rfl, rfl⟩
    · rcases hrest : Fault.meet moment rest with ⟨found', left'⟩
      rw [hrest] at h
      cases h
      obtain ⟨hleft, hfound⟩ := ih hrest
      constructor
      · intro f hf
        rcases List.mem_cons.mp hf with rfl | hf
        · exact ⟨f, List.mem_cons_self, rfl, rfl, rfl⟩
        · obtain ⟨g', hg', halike⟩ := hleft f hf
          exact ⟨g', List.mem_cons_of_mem _ hg', halike⟩
      · intro f hf
        exact ⟨List.mem_cons_of_mem _ (hfound f hf).1, (hfound f hf).2⟩

variable {db db' : Database}

/-- Only others committed something, while the transaction stood as it stands. -/
structure Database.Waits (db db' : Database) (h : List Occurrence) : Prop
    extends db.Advances db' h where
  foreign : ∀ o ∈ h, ∃ c, o = .changed c db.pending
  transaction : db'.transaction = db.transaction

namespace Database

/-- What has been inserted depends on the transaction alone. -/
theorem pending_congr (h : db'.transaction = db.transaction) : db'.pending = db.pending := by
  simp only [pending, h]

/-- What others commit at a moment is added to the history. -/
theorem waits_foldl_accept (changes : List Store.Change) (left : List Fault)
    (hleft : ∀ f ∈ left, ∃ g ∈ db.faults,
      g.moment = f.moment ∧ g.changes = f.changes ∧ g.ending = f.ending)
    (hchanges : ∀ c ∈ changes, ∃ g ∈ db.faults, c ∈ g.changes) :
    ∃ h, db.Waits (changes.foldl accept { db with faults := left }) h := by
  have hfold : changes.foldl accept { db with faults := left } =
      { db with
        faults := left
        store := changes.foldl Store.apply db.store
        history := (changes.map (Occurrence.changed · db.pending)).reverse ++ db.history } := by
    clear hchanges hleft
    induction changes generalizing db with
    | nil => rfl
    | cons c changes ih =>
      rw [List.foldl_cons, show accept { db with faults := left } c =
        { db.accept c with faults := left } from rfl, ih]
      simp only [List.foldl_cons, List.map_cons, List.reverse_cons, List.append_assoc,
        List.singleton_append]
      rfl
  rw [hfold]
  refine ⟨(changes.map (Occurrence.changed · db.pending)).reverse, ⟨rfl, ?_, hleft, ?_, rfl⟩, ?_, rfl⟩
  · exact (Store.replay_changed db.store changes db.pending).symm
  · intro c held hc
    obtain ⟨c', hc', heq⟩ := List.mem_map.mp (List.mem_reverse.mp hc)
    cases heq
    exact hchanges c hc'
  · intro o ho
    obtain ⟨c, -, rfl⟩ := List.mem_map.mp (List.mem_reverse.mp ho)
    exact ⟨c, rfl⟩

/-- At a moment others commit, and the moment ends plainly or as was to be expected. -/
theorem waits_meet {moment : Moment} {e : Ending} (h : db.meet moment = (e, db')) :
    (∃ k, db.Waits db' k) ∧
      (e = .plain ∨ ∃ f ∈ db.faults, f.moment = moment ∧ f.ending = e) := by
  unfold meet at h
  rcases hmeet : Fault.meet moment db.faults with ⟨_ | f, left⟩
  · obtain ⟨hleft, -⟩ := Fault.meet_subset hmeet
    rw [hmeet] at h
    cases h
    exact ⟨waits_foldl_accept [] left hleft fun c hc => absurd hc List.not_mem_nil, .inl rfl⟩
  · obtain ⟨hleft, hfound⟩ := Fault.meet_subset hmeet
    obtain ⟨hf, hmoment⟩ := hfound f rfl
    rw [hmeet] at h
    cases h
    exact ⟨waits_foldl_accept f.changes left hleft fun c hc => ⟨f, hf, hc⟩,
      .inr ⟨f, hf, hmoment, rfl⟩⟩

/-- Two waits in a row are one. -/
theorem Waits.trans {db₁ db₂ : Database} {h₁ h₂ : List Occurrence} (a : db.Waits db₁ h₁)
    (b : db₁.Waits db₂ h₂) : db.Waits db₂ (h₂ ++ h₁) where
  toAdvances := a.toAdvances.trans b.toAdvances
  foreign o ho := by
    rcases List.mem_append.mp ho with ho | ho
    · obtain ⟨c, rfl⟩ := b.foreign o ho
      exact ⟨c, by rw [pending_congr a.transaction]⟩
    · exact a.foreign o ho
  transaction := b.transaction.trans a.transaction

/-- While only others commit, the service commits nothing. -/
theorem Waits.committedIn_eq_nil {h : List Occurrence} (a : db.Waits db' h) :
    committedIn h = [] := by
  rw [committedIn, List.filterMap_eq_nil_iff]
  intro o ho
  obtain ⟨c, rfl⟩ := a.foreign o ho
  rfl

/-- The log and the connection do not matter to the rows. -/
theorem waits_of_eq (log : List Statement) (connected : Bool) :
    db.Waits { db with log, connected } [] :=
  ⟨⟨rfl, rfl, fun f hf => ⟨f, hf, rfl, rfl, rfl⟩, fun _ _ hc => absurd hc List.not_mem_nil, rfl⟩,
    fun _ ho => absurd ho List.not_mem_nil, rfl⟩

/-- Something may go wrong: the database cannot be reached, or a moment ends otherwise than plainly. -/
def Disturbed (db : Database) : Prop :=
  db.reachable = false ∨ ∃ f ∈ db.faults, f.ending ≠ .plain

/-- Opening a connection takes its time, and fails only if something may go wrong. -/
theorem waits_connect {r : Except DatabaseFailure Unit} (h : db.connect = (r, db')) :
    (∃ k, db.Waits db' k) ∧ (r = .ok () ∨ (∃ cause, r = .error cause) ∧ db.Disturbed) := by
  unfold connect at h
  split at h
  · cases h
    exact ⟨⟨[], waits_of_eq _ _⟩, .inl rfl⟩
  · split at h
    · rename_i hreachable
      cases h
      exact ⟨⟨[], waits_of_eq _ _⟩, .inr ⟨⟨_, rfl⟩, .inl (by simpa using hreachable)⟩⟩
    · rcases hmeet : db.meet .connect with ⟨e, db₁⟩
      obtain ⟨⟨k, hk⟩, he⟩ := waits_meet hmeet
      have hopened : db.Waits { db₁ with connected := true } ([] ++ k) := hk.trans (waits_of_eq _ _)
      have hdisturbed : e ≠ .plain → db.Disturbed := by
        intro hne
        rcases he with he | ⟨f, hf, -, hf'⟩
        · exact absurd he hne
        · exact .inr ⟨f, hf, hf' ▸ hne⟩
      rw [hmeet] at h
      cases e with
      | plain => cases h; exact ⟨⟨_, hopened⟩, .inl rfl⟩
      | rows rs => cases h; exact ⟨⟨_, hopened⟩, .inl rfl⟩
      | lost => cases h; exact ⟨⟨_, hk⟩, .inr ⟨⟨_, rfl⟩, hdisturbed (by simp)⟩⟩
      | unanswered => cases h; exact ⟨⟨_, hk⟩, .inr ⟨⟨_, rfl⟩, hdisturbed (by simp)⟩⟩
      | failed cause => cases h; exact ⟨⟨_, hk⟩, .inr ⟨⟨_, rfl⟩, hdisturbed (by simp)⟩⟩

end Database

end moments

/-! ## Statements -/

namespace Database

variable {db db' : Database}

/-- A failure without an effect of its own: a transaction may become useless, but none begins. -/
structure Falters (db db' : Database) : Prop extends db.Advances db' [] where
  closed : db.transaction = .closed → db'.transaction = .closed

/-- A refusal has no effect. -/
theorem falters_abort (db : Database) : db.Falters db.abort := by
  unfold abort
  split
  · rename_i p hactive
    exact ⟨⟨rfl, rfl, (Advances.refl db).faults, (Advances.refl db).changes, rfl⟩,
      fun hclosed => by rw [hactive] at hclosed; cases hclosed⟩
  · exact ⟨Advances.refl db, id⟩

/-- The loss of a connection has no effect. -/
theorem falters_disconnect (db : Database) : db.Falters db.disconnect :=
  ⟨⟨rfl, rfl, (Advances.refl db).faults, (Advances.refl db).changes, rfl⟩,
    fun hclosed => by simp only [disconnect, hclosed]⟩

/-- A transaction goes on, or there is none: statements are carried out. -/
def Listens (db : Database) : Prop :=
  db.transaction = .closed ∨ ∃ p, db.transaction = .active p

/-- How a statement that was sent ends, after others committed what they did: it is not carried out,
it is carried out, its answer is lost, or its answer is another one. -/
inductive Sent (s : Statement) (db db₁ : Database) : Reply → Database → Prop
  | notCarriedOut {cause db'} (falters : db₁.Falters db') (disturbed : db.Disturbed) :
    Sent s db db₁ (.error cause) db'
  | carriedOut {r db'} (effect : db₁.execute s = (r, db')) : Sent s db db₁ r db'
  | unanswered {r db₂ db'} (effect : db₁.execute s = (r, db₂)) (falters : db₂.Falters db')
    (fault : ∃ f ∈ db.faults, f.moment = s.moment ∧ f.ending = .unanswered) :
    Sent s db db₁ (.error broken) db'
  | otherRows {rs rs' db'} (effect : db₁.execute s = (.ok rs', db'))
    (fault : ∃ f ∈ db.faults, f.ending = .rows rs) : Sent s db db₁ (.ok rs) db'

/-- A statement that reached the database is at its moment. -/
theorem sent_of_answer {s : Statement} {r : Reply}
    (h : db.answer s = (r, db')) : ∃ db₁ k, db.Waits db₁ k ∧ Sent s db db₁ r db' := by
  unfold answer at h
  rcases hmeet : db.meet s.moment with ⟨e, db₁⟩
  obtain ⟨⟨k, hk⟩, he⟩ := waits_meet hmeet
  have hfault : e ≠ .plain → ∃ f ∈ db.faults, f.moment = s.moment ∧ f.ending = e :=
    fun hne => he.resolve_left hne
  have hdisturbed : e ≠ .plain → db.Disturbed := by
    intro hne
    obtain ⟨f, hf, -, hending⟩ := hfault hne
    exact .inr ⟨f, hf, hending ▸ hne⟩
  rw [hmeet] at h
  refine ⟨db₁, k, hk, ?_⟩
  cases e with
  | plain => exact .carriedOut h
  | lost => cases h; exact .notCarriedOut (falters_disconnect db₁) (hdisturbed (by simp))
  | failed cause => cases h; exact .notCarriedOut (falters_abort db₁) (hdisturbed (by simp))
  | unanswered => cases h; exact .unanswered rfl (falters_disconnect _) (hfault (by simp))
  | rows rs =>
    rcases hexecute : db₁.execute s with ⟨_ | rs', db₂⟩
    · simp only [hexecute] at h
      cases h
      exact .carriedOut hexecute
    · simp only [hexecute] at h
      cases h
      obtain ⟨f, hf, -, hending⟩ := hfault (by simp)
      exact .otherRows hexecute ⟨f, hf, hending⟩

/-- Where statements are carried out, sending one means to connect and then to wait for the answer. -/
theorem send_of_listens {s : Statement} (hlistens : db.Listens) :
    deliver s db = match db.connect with
      | (.error cause, db) => (.error cause, db)
      | (.ok _, db) => ({ db with log := s :: db.log } : Database).answer s := by
  unfold deliver
  rcases hconnect : db.connect with ⟨_ | _, db₁⟩ <;> rcases hlistens with hclosed | ⟨p, hactive⟩
  · simp only [hclosed]
  · simp only [hactive]
  · simp only [hclosed]
  · simp only [hactive]

/-- What happens after a wait could be expected before it. -/
theorem Sent.of_waits {s : Statement} {db₀ db₁ : Database} {k : List Occurrence}
    {r : Reply} (hwaits : db.Waits db₀ k) (h : Sent s db₀ db₁ r db') :
    Sent s db db₁ r db' := by
  have hfault : ∀ f ∈ db₀.faults, ∃ g ∈ db.faults, g.moment = f.moment ∧ g.ending = f.ending := by
    intro f hf
    obtain ⟨g, hg, hmoment, -, hending⟩ := hwaits.faults f hf
    exact ⟨g, hg, hmoment, hending⟩
  cases h with
  | notCarriedOut hfalters hdisturbed =>
    refine .notCarriedOut hfalters ?_
    rcases hdisturbed with hreachable | ⟨f, hf, hending⟩
    · exact .inl (hwaits.reachable ▸ hreachable)
    · obtain ⟨g, hg, -, hgf⟩ := hfault f hf
      exact .inr ⟨g, hg, hgf ▸ hending⟩
  | carriedOut heffect => exact .carriedOut heffect
  | unanswered heffect hfalters hexpected =>
    obtain ⟨f, hf, hmoment, hending⟩ := hexpected
    obtain ⟨g, hg, hgm, hge⟩ := hfault f hf
    exact .unanswered heffect hfalters ⟨g, hg, hgm.trans hmoment, hge.trans hending⟩
  | otherRows heffect hexpected =>
    obtain ⟨f, hf, hending⟩ := hexpected
    obtain ⟨g, hg, -, hge⟩ := hfault f hf
    exact .otherRows heffect ⟨g, hg, hge.trans hending⟩

/-- **All that sending a statement can come to.** -/
theorem send_cases {s : Statement} {r : Reply}
    (h : (send s).run db = (r, db')) (hlistens : db.Listens) :
    ∃ db₁ k, db.Waits db₁ k ∧ Sent s db db₁ r db' := by
  change deliver s db = (r, db') at h
  rw [send_of_listens hlistens] at h
  rcases hconnect : db.connect with ⟨r₀, db₀⟩
  obtain ⟨⟨k₀, hk₀⟩, hr₀⟩ := waits_connect hconnect
  rw [hconnect] at h
  rcases hr₀ with rfl | ⟨⟨cause, rfl⟩, hdisturbed⟩
  · have hlogged := hk₀.trans (waits_of_eq (s :: db₀.log) db₀.connected)
    obtain ⟨db₁, k, hk, hsent⟩ := sent_of_answer h
    exact ⟨db₁, _, hlogged.trans hk, hsent.of_waits hlogged⟩
  · cases h
    exact ⟨db', k₀, hk₀, .notCarriedOut ⟨Advances.refl db', id⟩ hdisturbed⟩

/-- When nothing goes wrong, a statement is carried out after others committed what they did. -/
theorem send_undisturbed {s : Statement} (hlistens : db.Listens) (hquiet : ¬db.Disturbed) :
    ∃ db₁ k, db.Waits db₁ k ∧ (send s).run db = db₁.execute s := by
  rcases hsend : (send s).run db with ⟨r, db'⟩
  obtain ⟨db₁, k, hk, hsent⟩ := send_cases hsend hlistens
  refine ⟨db₁, k, hk, ?_⟩
  cases hsent with
  | notCarriedOut _ hdisturbed => exact absurd hdisturbed hquiet
  | carriedOut heffect => exact heffect.symm
  | unanswered _ _ hfault =>
    obtain ⟨f, hf, -, hending⟩ := hfault
    exact absurd (.inr ⟨f, hf, by rw [hending]; simp⟩) hquiet
  | otherRows _ hfault =>
    obtain ⟨f, hf, hending⟩ := hfault
    exact absurd (.inr ⟨f, hf, by rw [hending]; simp⟩) hquiet

end Database

end TenantOnboarding
