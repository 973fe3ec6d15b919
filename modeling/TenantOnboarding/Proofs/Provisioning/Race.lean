import TenantOnboarding.Proofs.Provisioning.Creation

/-!
# Provisionings that race

What becomes of a provisioning while others commit and nothing else goes wrong: no connection is lost,
and no statement fails but by a constraint of the tables.

* Each statement of the transaction succeeds as long as the numbers that are drawn are free
  (`Occurrence.DrawsFree`), except that the owner's row is refused if their email has been taken.
  `insertUser_undisturbed` tells the two cases apart by the store at that moment.
* A commit cannot be refused: others use neither a number nor an email that the transaction holds, so
  its rows can still be added when it comes to the commit (`Store.Apart.replay`).
* **`provide_race`**: the visitor is told where their email belongs if it does, either at the first
  lookup or when the owner's row is written; otherwise the request is rejected or fulfilled.
* `provide_number_taken` is a provisioning that draws a number which a row has: it ends as a failure of
  the service.
-/

namespace TenantOnboarding

open Database

variable {db db' : Database}

/-! ## Statements that go through -/

namespace Database

/-- Where nothing may go wrong, answers are genuine. -/
theorem genuine_of_undisturbed (hquiet : ¬db.Disturbed) : db.Genuine := by
  intro f hf rs hending
  exact hquiet (.inr ⟨f, hf, by rw [hending]; simp⟩)

/-- What may go wrong later might have gone wrong before. -/
theorem Advances.undisturbed {h : List Occurrence} (a : db.Advances db' h)
    (hquiet : ¬db.Disturbed) : ¬db'.Disturbed := by
  rintro (hreachable | ⟨f, hf, hending⟩)
  · exact hquiet (.inl (a.reachable ▸ hreachable))
  · obtain ⟨g, hg, -, -, hgf⟩ := a.faults f hf
    exact hquiet (.inr ⟨g, hg, hgf ▸ hending⟩)

/-- A clean statement is carried out after others committed what they did. -/
theorem send_clean {q : Statement} (hlistens : db.Listens) (hquiet : ¬db.Disturbed)
    (hclean : q.IsClean) :
    ∃ db₁ w, db.Waits db₁ w ∧ (send q).run db = (db₁.note (.ran q)).perform q := by
  obtain ⟨db₁, w, hw, hsend⟩ := send_undisturbed (s := q) hlistens hquiet
  exact ⟨db₁, w, hw, by rw [hsend, execute_of_clean hclean]⟩

end Database

/-! ## Texts -/

/-- A new organization whose texts a column can hold. -/
structure Provisioning.NewOrganization.IsClean (n : NewOrganization) : Prop where
  name : '\x00' ∉ n.name.toList
  description : ∀ d ∈ n.description, '\x00' ∉ d.toList
  email : '\x00' ∉ n.ownerEmail.toList

/-- A name and a description keep to the limits of their columns by their lengths. -/
theorem Database.fits_iff {name : String} {description : Option String} :
    fits name description = true ↔ (1 ≤ name.length ∧ name.length ≤ 255) ∧
      ∀ text, description = some text → text.length ≤ 2000 := by
  unfold fits
  cases description with
  | none => simp
  | some text => simp [and_assoc]

/-- What has no faults keeps to the limits of the columns. -/
theorem Provisioning.NewOrganization.fits {n : NewOrganization} (h : n.faults = []) :
    Database.fits n.name n.description = true := by
  obtain ⟨hname, hdescription, -⟩ := faults_eq_nil_iff.mp h
  exact Database.fits_iff.mpr ⟨hname, hdescription⟩

namespace Text

/-- A numeral has digits and perhaps a sign. -/
theorem mem_numeral {i : Int} {c : Char} (h : c ∈ numeral i) : c.isDigit = true ∨ c = '-' := by
  cases i with
  | ofNat n => exact .inl (Nat.isDigit_of_mem_toDigits (by decide) (by decide) h)
  | negSucc n =>
    rcases List.mem_cons.mp h with rfl | h
    · exact .inr rfl
    · exact .inl (Nat.isDigit_of_mem_toDigits (by decide) (by decide) h)

end Text

/-- The claims of a transaction are clean. -/
theorem Tenancy.isClean_claims (organization : Int64) :
    (Statement.setConfig claimsSetting (claimsOf organization) true).IsClean := by
  intro t ht hmem
  rw [Statement.texts, List.mem_pair] at ht
  rcases ht with rfl | ht
  · revert hmem
    decide
  have hrender : t.toList = "\x7b\"current_organization_id\":".toList ++
      (Text.numeral organization.toInt ++ ['\x7d']) := by
    rw [ht, claimsOf, Json.Value.compact, String.toList_ofList]
    rfl
  rw [hrender, List.mem_append, List.mem_append] at hmem
  rcases hmem with hmem | hmem | hmem
  · revert hmem
    decide
  · rcases Text.mem_numeral hmem with hdigit | hsign
    · revert hdigit
      decide
    · revert hsign
      decide
  · revert hmem
    decide

/-! ## The statements of a transaction -/

namespace Tenancy

variable (hquiet : ¬db.Disturbed)
include hquiet

/-- When nothing goes wrong, a transaction begins. -/
theorem begin_undisturbed (hclosed : db.transaction = .closed) :
    ∃ db', begin.run db = (.ok (), db') := by
  obtain ⟨db₁, w, -, hsend⟩ :=
    send_clean (q := .begin) (.inl hclosed) hquiet fun t ht => absurd ht List.not_mem_nil
  rw [run_begin, hsend]
  exact ⟨_, rfl⟩

/-- When nothing goes wrong, an organization that fits is written if the number that it draws is free,
which is then a number of the transaction. -/
theorem insertOrganization_undisturbed {name : String} {description : Option String}
    {r : Except StorageFailure Organization} (hactive : db.transaction = .active ⟨[], [], []⟩)
    (hclean : (Statement.insertOrganization name description).IsClean)
    (hfits : fits name description = true)
    (h : (insertOrganization name description).run db = (r, db')) :
    ∃ k, db.Advances db' k ∧ (Throughout Occurrence.DrawsFree db.store k →
      ∃ o, r = .ok o ∧ db'.transaction = .active ⟨[o], [], []⟩ ∧
        db'.store.Apart ⟨[o], [], []⟩) := by
  obtain ⟨db₁, w, hw, hsend⟩ := send_clean (.inr ⟨_, hactive⟩) hquiet hclean
  have hpending : (db₁.note (.ran (.insertOrganization name description))).pending = ⟨[], [], []⟩ :=
    pending_of_active (hw.transaction.trans hactive)
  rcases hperform : (db₁.note (.ran (.insertOrganization name description))).perform
    (.insertOrganization name description) with ⟨r₀, db₀⟩
  have hran := advances_perform (by simp) hperform
  rw [run_insertOrganization, hsend, hperform] at h
  have hdb : db' = db₀ := by
    rcases r₀ with _ | _ <;> cases h <;> rfl
  subst hdb
  refine ⟨_, hw.toAdvances.trans hran, fun hdraws => ?_⟩
  obtain ⟨id, hnext, hfree⟩ := (throughout_cons.mp (throughout_append.mp hdraws).1).1
  rw [Store.replay_nil, ← hw.store] at hnext hfree
  have hnumber : numberFor db₁.store.nextOrganization (db₁.store.organizations.map (·.id)) =
      .ok id := numberFor_map_eq_ok_iff.mpr ⟨hnext, hfree⟩
  rw [perform_insertOrganization hfits, hpending] at hperform
  simp only [note, List.append_nil, hnumber] at hperform
  cases hperform
  simp only [required, Organization.ofRow?_toRow] at h
  cases h
  exact ⟨_, rfl, rfl, Store.apart_organization hfree⟩

variable {p : Pending}

omit hquiet in
/-- What others commit before a statement happens while the transaction stands as it stands. -/
theorem during_of_waits {w : List Occurrence} (hactive : db.transaction = .active p)
    (hw : db.Waits db' w) : ∀ o ∈ w, o.During p := by
  intro o ho
  obtain ⟨c, rfl⟩ := hw.foreign o ho
  exact pending_of_active hactive

/-- When nothing goes wrong, the claims are set. -/
theorem setOrganization_undisturbed (hactive : db.transaction = .active p) (organization : Int64) :
    ∃ k db', (setOrganization organization).run db = (.ok (), db') ∧ db.Advances db' k ∧
      db'.transaction = .active p ∧ ∀ o ∈ k, o.During p := by
  obtain ⟨db₁, w, hw, hsend⟩ :=
    send_clean (.inr ⟨p, hactive⟩) hquiet (isClean_claims organization)
  have hran : db₁.Advances
      (db₁.note (.ran (.setConfig claimsSetting (claimsOf organization) true)))
      [.ran (.setConfig claimsSetting (claimsOf organization) true)] := advances_ran rfl rfl rfl rfl
  rw [run_setOrganization, hsend]
  refine ⟨_, _, rfl, hw.toAdvances.trans hran, hw.transaction.trans hactive, ?_⟩
  exact List.forall_mem_cons.mpr ⟨trivial, during_of_waits hactive hw⟩

/-- **When nothing goes wrong and the number that is drawn is free, the first user of the transaction's
own organization is written, or refused because their email belongs to somebody by then.** -/
theorem insertUser_undisturbed {email : String} {o : Organization} {role : Role}
    {r : Except StorageFailure AppUser} (hactive : db.transaction = .active ⟨[o], [], []⟩)
    (hclean : '\x00' ∉ email.toList)
    (h : (insertUser email o.id role).run db = (r, db')) :
    ∃ w, (∀ x ∈ w, x.During ⟨[o], [], []⟩) ∧
      db.Advances db' (.ran (.insertUser email o.id role) :: w) ∧
      (Occurrence.DrawsFree (db.store.replay w) (.ran (.insertUser email o.id role)) →
        (∃ u, (db.store.replay w).userOf? email = some u ∧ r = .error .alreadyExists) ∨
          (db.store.replay w).userOf? email = none ∧ ∃ u, r = .ok u ∧
            db'.transaction = .active ⟨[o], [u], []⟩ ∧
            ((db.store.replay w).Apart ⟨[o], [], []⟩ → db'.store.Apart ⟨[o], [u], []⟩)) := by
  have hclean' : (Statement.insertUser email o.id role).IsClean := by
    simpa [Statement.IsClean, Statement.texts] using hclean
  obtain ⟨db₁, w, hw, hsend⟩ := send_clean (.inr ⟨_, hactive⟩) hquiet hclean'
  have hpending : (db₁.note (.ran (.insertUser email o.id role))).pending = ⟨[o], [], []⟩ :=
    pending_of_active (hw.transaction.trans hactive)
  rcases hperform : (db₁.note (.ran (.insertUser email o.id role))).perform
    (.insertUser email o.id role) with ⟨r₀, db₀⟩
  have hran := advances_perform (by simp) hperform
  rw [run_insertUser, hsend, hperform] at h
  have hdb : db' = db₀ := by
    rcases r₀ with _ | _ <;> cases h <;> rfl
  subst hdb
  refine ⟨w, during_of_waits hactive hw, hw.toAdvances.trans hran, ?_⟩
  rintro ⟨id, hnext, hfree⟩
  rw [← hw.store] at hnext hfree ⊢
  rcases huser : db₁.store.userOf? email with _ | u
  · have hnumber : numberFor db₁.store.nextUser (db₁.store.users.map (·.id)) = .ok id :=
      numberFor_map_eq_ok_iff.mpr ⟨hnext, hfree⟩
    have hemail := Store.userOf?_eq_none_iff.mp huser
    rw [perform_insertUser_free role _ (by rw [hpending, List.append_nil]; exact hemail)
      ⟨o, List.mem_append_right _ (hpending ▸ List.mem_cons_self), rfl⟩, hpending] at hperform
    simp only [note, List.append_nil, hnumber] at hperform
    cases hperform
    simp only [required, AppUser.ofRow?_toRow] at h
    cases h
    refine .inr ⟨rfl, _, rfl, rfl, fun hapart => ?_⟩
    exact Store.apart_founding (hapart.organizations o List.mem_cons_self) hfree hemail
  · have hr := perform_insertUser_taken o.id role (db₁.note (.ran (.insertUser email o.id role)))
      huser (Option.ne_none_iff_exists'.mpr ⟨id, hnext⟩)
    rw [hperform] at hr
    cases hr
    cases h
    exact .inl ⟨u, rfl, rfl⟩

end Tenancy

/-- When nothing goes wrong, a commit succeeds if nobody has a number or an email of the transaction by
then. -/
theorem Database.close_undisturbed {p : Pending} {r : Except DatabaseFailure Unit}
    (hquiet : ¬db.Disturbed) (hactive : db.transaction = .active p)
    (h : close.run db = (r, db')) :
    ∃ w k, (∀ o ∈ w, o.During p) ∧ db.Advances db' (k ++ w) ∧ db'.transaction = .closed ∧
      ((db.store.replay w).Apart p → r = .ok ()) := by
  obtain ⟨db₁, w, hw, hsend⟩ :=
    send_undisturbed (s := .commit) (.inr ⟨p, hactive⟩) hquiet
  have hpending : db₁.pending = p := pending_of_active (hw.transaction.trans hactive)
  rcases hexecute : db₁.execute .commit with ⟨r₀, db₀⟩
  rw [run_close, hsend, hexecute] at h
  rcases execute_commit hpending hexecute with ⟨cause, rfl, hran, htaken⟩ | ⟨rfl, hran, -⟩
  · cases h
    exact ⟨w, _, Tenancy.during_of_waits hactive hw,
      (hw.toAdvances.trans hran).with_transaction .closed, rfl,
      fun hapart => absurd (hw.store ▸ hapart) htaken⟩
  · cases h
    exact ⟨w, _, Tenancy.during_of_waits hactive hw,
      (hw.toAdvances.trans hran).with_transaction .closed, rfl, fun _ => rfl⟩

/-! ## Creations -/

namespace Provisioning

/-- What was added to a history is determined by the history before and after. -/
theorem eq_of_history {h k : List Occurrence} (a : db.Advances db' k)
    (hhistory : db'.history = h ++ db.history) : h = k :=
  List.append_cancel_right (hhistory.symm.trans a.history)

/-- The insertions with which nothing goes wrong succeed, or find the email taken when the owner's row is
written, if the numbers that they draw are free and others keep to the constraints. -/
theorem insertions_undisturbed {n : NewOrganization} {r : Except StorageFailure Created}
    {h : List Occurrence} (hactive : db.transaction = .active ⟨[], [], []⟩)
    (hquiet : ¬db.Disturbed) (hclean : n.IsClean) (hvalid : n.faults = [])
    (hrun : (insertions n).run db = (r, db')) (hh : db.Advances db' h)
    (hdraws : Throughout Occurrence.DrawsFree db.store h)
    (hlawful : Throughout Occurrence.Lawful db.store h) :
    ∃ organization before, h = .ran (.insertUser n.ownerEmail organization .owner) :: before ∧
      ((∃ u, (db.store.replay before).userOf? n.ownerEmail = some u ∧ r = .error .alreadyExists) ∨
        (db.store.replay before).userOf? n.ownerEmail = none ∧ ∃ c, r = .ok c ∧
          db'.transaction = .active c.rows ∧ db'.store.Apart c.rows) := by
  have hinsert : (Statement.insertOrganization n.name n.description).IsClean := by
    intro t ht
    rcases List.mem_cons.mp ht with rfl | ht
    · exact hclean.name
    · exact hclean.description t (Option.mem_toList.mp ht)
  unfold insertions at hrun
  rw [Work.run_bind] at hrun
  rcases horganization : (Tenancy.insertOrganization n.name n.description).run db with ⟨r₁, db₁⟩
  obtain ⟨k₁, hk₁, hwritten⟩ := Tenancy.insertOrganization_undisturbed hquiet hactive hinsert
    (NewOrganization.fits hvalid) horganization
  rw [horganization] at hrun
  rcases r₁ with cause | o
  · -- The number was free, so the organization was written.
    cases hrun
    obtain rfl := eq_of_history hk₁ hh.history
    obtain ⟨o, ho, -⟩ := hwritten hdraws
    cases ho
  have hquiet₁ := hk₁.undisturbed hquiet
  have hactive₁ : db₁.transaction = .active ⟨[o], [], []⟩ := by
    obtain ⟨-, -, -, hinserted⟩ :=
      Tenancy.insertOrganization_spec hactive (genuine_of_undisturbed hquiet) horganization
    exact (hinserted o rfl).2.2
  obtain ⟨k₂, db₂, hset, hk₂, hactive₂, hduring₂⟩ :=
    Tenancy.setOrganization_undisturbed hquiet₁ hactive₁ o.id
  have hquiet₂ := hk₂.undisturbed hquiet₁
  simp only at hrun
  rw [Work.run_bind, hset] at hrun
  simp only at hrun
  rw [Work.run_bind] at hrun
  rcases hwrite : (Tenancy.insertUser n.ownerEmail o.id .owner).run db₂ with ⟨r₃, db₃⟩
  obtain ⟨w, hduring, hk₃, hdecided⟩ :=
    Tenancy.insertUser_undisturbed hquiet₂ hactive₂ hclean.email hwrite
  have hwhole := (hk₁.trans hk₂).trans hk₃
  have hdb : db' = db₃ := by
    rw [hwrite] at hrun
    rcases r₃ with _ | _ <;> cases hrun <;> rfl
  subst hdb
  obtain rfl := eq_of_history hwhole hh.history
  have hstore : db.store.replay (w ++ (k₂ ++ k₁)) = db₂.store.replay w := by
    rw [Store.replay_append, ← (hk₁.trans hk₂).store]
  refine ⟨o.id, w ++ (k₂ ++ k₁), rfl, ?_⟩
  rw [List.cons_append, throughout_cons, hstore] at hdraws
  rw [List.cons_append, throughout_cons] at hlawful
  obtain ⟨hdraw, hdrawsBefore⟩ := hdraws
  obtain ⟨-, hlawfulBefore⟩ := hlawful
  rw [hstore]
  rw [hwrite] at hrun
  rcases hdecided hdraw with ⟨u, htaken, rfl⟩ | ⟨hfree, u, rfl, hactive₃, hapart⟩
  · cases hrun
    exact .inl ⟨u, htaken, rfl⟩
  · cases hrun
    refine .inr ⟨hfree, _, rfl, hactive₃, hapart ?_⟩
    -- The organization could be added when it was written, and nothing has come in between.
    obtain ⟨o', ho', -, hapart₁⟩ := hwritten
      (throughout_append.mp (throughout_append.mp hdrawsBefore).2).2
    cases ho'
    rw [← hstore, ← List.append_assoc, Store.replay_append, ← hk₁.store]
    refine hapart₁.replay ?_ ?_
    · intro x hx
      exact (List.mem_append.mp hx).elim (hduring x) (hduring₂ x)
    · rw [hk₁.store]
      rw [← List.append_assoc] at hlawfulBefore
      exact (throughout_append.mp hlawfulBefore).1

/-- **A creation with which nothing goes wrong succeeds, or finds the email taken when the owner's row
is written**, if the numbers that it draws are free and others keep to the constraints. -/
theorem createWithOwner_undisturbed {n : NewOrganization} {r : Except StorageFailure Created}
    {h : List Occurrence} (hclosed : db.transaction = .closed) (hquiet : ¬db.Disturbed)
    (hclean : n.IsClean) (hvalid : n.faults = []) (hrun : (createWithOwner n).run db = (r, db'))
    (hh : db.Advances db' h) (hdraws : Throughout Occurrence.DrawsFree db.store h)
    (hlawful : Throughout Occurrence.Lawful db.store h) :
    ∃ organization behind before,
      h = behind ++ .ran (.insertUser n.ownerEmail organization .owner) :: before ∧
      ((∃ u, (db.store.replay before).userOf? n.ownerEmail = some u ∧ r = .error .alreadyExists) ∨
        (db.store.replay before).userOf? n.ownerEmail = none ∧ ∃ c, r = .ok c) := by
  have hgenuine := genuine_of_undisturbed hquiet
  obtain ⟨db₁, hbegin⟩ := Tenancy.begin_undisturbed hquiet hclosed
  obtain ⟨k₁, hk₁, -, hactive₁, -⟩ := Tenancy.begin_spec hclosed hgenuine hbegin
  have hquiet₁ := hk₁.undisturbed hquiet
  rcases hinsertions : (insertions n).run db₁ with ⟨r₁, db₂⟩
  obtain ⟨k₂, hk₂, -, hcreated⟩ :=
    insertions_spec (hactive₁ rfl) (genuine_of_undisturbed hquiet₁) hinsertions
  -- What holds of the whole creation holds of the insertions.
  have hpart : ∀ {k}, h = k ++ (k₂ ++ k₁) →
      ∃ organization before, k₂ = .ran (.insertUser n.ownerEmail organization .owner) :: before ∧
        ((∃ u, (db₁.store.replay before).userOf? n.ownerEmail = some u ∧
            r₁ = .error .alreadyExists) ∨
          (db₁.store.replay before).userOf? n.ownerEmail = none ∧ ∃ c, r₁ = .ok c ∧
            db₂.transaction = .active c.rows ∧ db₂.store.Apart c.rows) := by
    rintro k rfl
    have hdraws₂ := (throughout_append.mp (throughout_append.mp hdraws).2).1
    have hlawful₂ := (throughout_append.mp (throughout_append.mp hlawful).2).1
    rw [← hk₁.store] at hdraws₂ hlawful₂
    exact insertions_undisturbed (hactive₁ rfl) hquiet₁ hclean hvalid hinsertions hk₂ hdraws₂
      hlawful₂
  have hreplay : ∀ before, db₁.store.replay before = db.store.replay (before ++ k₁) := by
    intro before
    rw [Store.replay_append, ← hk₁.store]
  rw [createWithOwner_eq, Tenancy.run_inTransaction] at hrun
  simp only [hbegin, hinsertions] at hrun
  rcases r₁ with cause | c
  · cases hrun
    obtain rfl := eq_of_history ((hk₁.trans hk₂).with_transaction .closed) hh.history
    obtain ⟨organization, before, rfl, hcases⟩ := hpart (List.nil_append _).symm
    rcases hcases with ⟨u, htaken, hr⟩ | ⟨-, c, hr, -⟩
    · cases hr
      exact ⟨organization, [], before ++ k₁, rfl, .inl ⟨u, hreplay before ▸ htaken, rfl⟩⟩
    · cases hr
  · simp only at hrun
    obtain ⟨-, hactive₂⟩ := hcreated c rfl
    rcases hclose : close.run db₂ with ⟨r₃, db₃⟩
    obtain ⟨w, k₃, hduring, hk₃, -, hcommitted⟩ :=
      close_undisturbed (hk₂.undisturbed hquiet₁) hactive₂ hclose
    rw [hclose] at hrun
    have hdb : db' = db₃ := by
      rcases r₃ with _ | _ <;> cases hrun <;> rfl
    subst hdb
    obtain rfl := eq_of_history ((hk₁.trans hk₂).trans hk₃) hh.history
    obtain ⟨organization, before, rfl, hcases⟩ := hpart rfl
    rcases hcases with ⟨u, -, hr⟩ | ⟨hfree, c', hr, -, hapart⟩
    · cases hr
    · cases hr
      have hlawfulw : Throughout Occurrence.Lawful db₂.store w := by
        rw [(hk₁.trans hk₂).store]
        exact (throughout_append.mp (throughout_append.mp hlawful).1).2
      cases hcommitted (hapart.replay hduring hlawfulw)
      cases hrun
      refine ⟨organization, k₃ ++ w, before ++ k₁, ?_, .inr ⟨hreplay before ▸ hfree, c, rfl⟩⟩
      rw [List.cons_append]

/-! ## Provisionings -/

/-- When nothing goes wrong, a conflict is resolved by telling where the email belongs. -/
theorem resolve_undisturbed {email : String} {r : Except Failure Created}
    (hclosed : db.transaction = .closed) (hquiet : ¬db.Disturbed) (hclean : '\x00' ∉ email.toList)
    (h : (resolve .alreadyExists email).run db = (r, db')) :
    ∃ w, db.Advances db' (.ran (.findMembership email) :: w) ∧
      ∀ u, (db.store.replay w).userOf? email = some u →
        r = .error (.alreadyExists u.id u.organization) := by
  obtain ⟨db₁, w, hw, hmembership⟩ := Directory.membership_undisturbed hclosed hquiet hclean
  unfold resolve at h
  rw [if_pos rfl, Work.run_bind, hmembership] at h
  have hran : db₁.Advances (db₁.note (.ran (.findMembership email))) [.ran (.findMembership email)] :=
    advances_ran rfl rfl rfl rfl
  rcases hfound : db₁.store.userOf? email with _ | u
  · rw [hfound] at h
    cases h
    refine ⟨w, hw.toAdvances.trans hran, fun u hu => ?_⟩
    rw [← hw.store, hfound] at hu
    cases hu
  · rw [hfound] at h
    cases h
    refine ⟨w, hw.toAdvances.trans hran, fun v hv => ?_⟩
    rw [← hw.store, hfound] at hv
    cases hv
    rfl

/-- When the owner's row was written it was decided how a creation ended: their email was taken by then,
or they got an organization. -/
def DecidedByOwner (s : Store) (email : String) (h : List Occurrence) (r : Except Failure Created) :
    Prop :=
  ∃ organization behind before, h = behind ++ .ran (.insertUser email organization .owner) :: before ∧
    ((∃ u, (s.replay before).userOf? email = some u ∧
        r = .error (.alreadyExists u.id u.organization)) ∨
      (s.replay before).userOf? email = none ∧ ∃ c, r = .ok c)

/-- What happened earlier belongs to the store that the creation met. -/
theorem DecidedByOwner.after {s : Store} {email : String} {h earlier : List Occurrence}
    {r : Except Failure Created} (hdecided : DecidedByOwner (s.replay earlier) email h r) :
    DecidedByOwner s email (h ++ earlier) r := by
  obtain ⟨organization, behind, before, rfl, hcases⟩ := hdecided
  refine ⟨organization, behind, before ++ earlier, ?_, ?_⟩
  · rw [List.append_assoc, List.cons_append]
  · rw [Store.replay_append]
    exact hcases

/-- If the owner's row decided a creation and what is created fulfils a wish, then who had the email by
then tells which of the two it came to. -/
theorem DecidedByOwner.comes_to {s : Store} {email : String} {h : List Occurrence}
    {r : Except Failure Created} {n : NewOrganization} (hdecided : DecidedByOwner s email h r)
    (hfulfils : ∀ c, r = .ok c → c.Fulfils n) :
    ∃ organization behind before,
      h = behind ++ .ran (.insertUser email organization .owner) :: before ∧
      ((s.replay before).userOf? email ≠ none →
        ∃ user organization, r = .error (.alreadyExists user organization)) ∧
      ((s.replay before).userOf? email = none → ∃ c, r = .ok c ∧ c.Fulfils n) := by
  obtain ⟨organization, behind, before, hh, ⟨u, htaken, hr⟩ | ⟨hfree, c, hr⟩⟩ := hdecided
  · refine ⟨organization, behind, before, hh, fun _ => ⟨_, _, hr⟩, fun hfree => ?_⟩
    cases htaken.symm.trans hfree
  · exact ⟨organization, behind, before, hh, fun htaken => absurd hfree htaken,
      fun _ => ⟨c, hr, hfulfils c hr⟩⟩

/-- A creation that was decided by the owner's row fails only because the email was taken by then. -/
theorem DecidedByOwner.failure_eq {s : Store} {email : String} {h : List Occurrence}
    {r : Except Failure Created} (hdecided : DecidedByOwner s email h r) {failure : Failure}
    (hr : r = .error failure) : ∃ user organization, failure = .alreadyExists user organization := by
  obtain ⟨-, -, -, -, ⟨u, -, hr'⟩ | ⟨-, c, hr'⟩⟩ := hdecided
  · cases hr.symm.trans hr'
    exact ⟨_, _, rfl⟩
  · cases hr.symm.trans hr'

/-- An attempt with which nothing goes wrong, while the numbers that are drawn are free and others keep to
the constraints, creates, or tells where the email belongs if it was taken when the owner's row was
written. -/
theorem attempt_undisturbed {n : NewOrganization} {email : String} {report : Report}
    {h : List Occurrence} (hclosed : db.transaction = .closed) (hquiet : ¬db.Disturbed)
    (hclean : n.IsClean) (hvalid : n.faults = []) (hown : n.ownerEmail = email)
    (hrun : (attempt n email).run db = (report, db'))
    (hhistory : db'.history = h ++ db.history)
    (hdraws : Throughout Occurrence.DrawsFree db.store h)
    (hlawful : Throughout Occurrence.Lawful db.store h) :
    DecidedByOwner db.store email h report.outcome := by
  subst hown
  rw [run_attempt] at hrun
  rcases hcreate : (createWithOwner n).run db with ⟨r, db₁⟩
  obtain ⟨k, hk, hclosed₁, -⟩ :=
    createWithOwner_spec hclosed (genuine_of_undisturbed hquiet) hcreate
  rw [hcreate] at hrun
  rcases r with cause | c
  · rcases hresolve : (resolve cause n.ownerEmail).run db₁ with ⟨r₁, db₂⟩
    obtain ⟨w, hw, -⟩ :=
      resolve_spec hclosed₁ (hk.genuine (genuine_of_undisturbed hquiet)) hresolve
    simp only [hresolve] at hrun
    cases hrun
    obtain rfl := eq_of_history (hk.trans hw) hhistory
    obtain ⟨hlawfulw, hlawfulk⟩ := throughout_append.mp hlawful
    obtain ⟨organization, behind, before, rfl, hcases⟩ := createWithOwner_undisturbed hclosed hquiet
      hclean hvalid hcreate hk (throughout_append.mp hdraws).2 hlawfulk
    refine ⟨organization, w ++ behind, before, (List.append_assoc _ _ _).symm, ?_⟩
    rcases hcases with ⟨u, htaken, hr⟩ | ⟨-, c, hr⟩
    · cases hr
      obtain ⟨w', hw', htold⟩ :=
        resolve_undisturbed hclosed₁ (hk.undisturbed hquiet) hclean.email hresolve
      obtain rfl := eq_of_history hw' hw.history
      refine .inl ⟨u, htaken, htold u ?_⟩
      -- Whoever had the email when the owner's row was written has it when the conflict is looked up.
      rw [hk.store]
      apply userOf?_replay (throughout_cons.mp hlawfulw).2
      rw [Store.replay_append]
      exact userOf?_replay (throughout_append.mp hlawfulk).1 htaken
    · cases hr
  · cases hrun
    obtain rfl := eq_of_history hk hhistory
    obtain ⟨organization, behind, before, hh, hcases⟩ :=
      createWithOwner_undisturbed hclosed hquiet hclean hvalid hcreate hk hdraws hlawful
    rcases hcases with ⟨u, -, hr⟩ | ⟨hfree, -⟩
    · cases hr
    · exact ⟨organization, behind, before, hh, .inr ⟨hfree, c, rfl⟩⟩

/-- A provisioning with which nothing goes wrong looks the email up after others committed what they
did. It tells where the email belongs, or it rejects the request, or else, if the numbers that are drawn
are free, the owner's row decides whether it creates or tells where the email belongs by then. -/
theorem provide_undisturbed {identity : Identity} {request : Request} {print : Printer}
    {report : Report} {h : List Occurrence} (hclosed : db.transaction = .closed)
    (hquiet : ¬db.Disturbed) (hemail : '\x00' ∉ identity.email.toList)
    (hrun : (provide identity request print).run db = (report, db'))
    (hhistory : db'.history = h ++ db.history)
    (hlawful : Throughout Occurrence.Lawful db.store h) :
    ∃ since before, h = since ++ .ran (.findMembership identity.email) :: before ∧
      (∀ o ∈ before, ∃ c held, o = .changed c held) ∧
      ((∃ u, (db.store.replay before).userOf? identity.email = some u ∧ since = [] ∧
          report.outcome = .error (.alreadyExists u.id u.organization)) ∨
        (db.store.replay before).userOf? identity.email = none ∧
          ((∃ failure, request.validateFor print identity.email = .error failure ∧ since = [] ∧
              report.outcome = .error failure) ∨
            ∃ n, request.validateFor print identity.email = .ok n ∧
              (n.IsClean → Throughout Occurrence.DrawsFree db.store h →
                DecidedByOwner db.store identity.email h report.outcome))) := by
  obtain ⟨db₁, w, hw, hmembership⟩ := Directory.membership_undisturbed hclosed hquiet hemail
  have hran : db₁.Advances (db₁.note (.ran (.findMembership identity.email)))
      [.ran (.findMembership identity.email)] := advances_ran rfl rfl rfl rfl
  have hlooked : db.Advances (db₁.note (.ran (.findMembership identity.email)))
      (.ran (.findMembership identity.email) :: w) := hw.toAdvances.trans hran
  have hforeign : ∀ o ∈ w, ∃ c held, o = .changed c held := by
    intro o ho
    obtain ⟨c, rfl⟩ := hw.foreign o ho
    exact ⟨c, _, rfl⟩
  rw [run_provide, hmembership] at hrun
  have hstore := hw.store
  rcases hfound : db₁.store.userOf? identity.email with _ | u
  · rw [hfound] at hrun
    rcases hvalid : request.validateFor print identity.email with failure | n
    · simp only [hvalid] at hrun
      cases hrun
      obtain rfl := eq_of_history hlooked hhistory
      exact ⟨[], w, rfl, hforeign, .inr ⟨hstore ▸ hfound, .inl ⟨failure, rfl, rfl, rfl⟩⟩⟩
    · simp only [hvalid] at hrun
      have hclosed₁ : (db₁.note (.ran (.findMembership identity.email))).transaction = .closed :=
        hw.transaction.trans hclosed
      have hquiet₁ := hlooked.undisturbed hquiet
      obtain ⟨since, hsince, -⟩ := attempt_spec hclosed₁ (genuine_of_undisturbed hquiet₁) hrun
      obtain rfl := eq_of_history (hlooked.trans hsince) hhistory
      refine ⟨since, w, rfl, hforeign, .inr ⟨hstore ▸ hfound, .inr ⟨n, rfl, fun hclean hdraws => ?_⟩⟩⟩
      obtain ⟨-, -, hn, hfaults⟩ := Request.examine_ok (Request.validateFor_ok_iff.mp hvalid)
      obtain ⟨hlawful₁, -⟩ := throughout_append.mp hlawful
      obtain ⟨hdraws₁, -⟩ := throughout_append.mp hdraws
      rw [← hlooked.store] at hlawful₁ hdraws₁
      apply DecidedByOwner.after
      rw [← hlooked.store]
      exact attempt_undisturbed hclosed₁ hquiet₁ hclean hfaults hn hrun hsince.history hdraws₁
        hlawful₁
  · rw [hfound] at hrun
    cases hrun
    obtain rfl := eq_of_history hlooked hhistory
    exact ⟨[], w, rfl, hforeign, .inl ⟨u, hstore ▸ hfound, rfl, rfl⟩⟩

/-- A lookup after others committed what they did begins no transaction. -/
theorem begin_not_mem {email : String} {before : List Occurrence}
    (hforeign : ∀ o ∈ before, ∃ c held, o = .changed c held) :
    .ran .begin ∉ Occurrence.ran (.findMembership email) :: before := by
  intro hbegin
  rcases List.mem_cons.mp hbegin with hbegin | hbegin
  · cases hbegin
  · obtain ⟨c, held, hchanged⟩ := hforeign _ hbegin
    cases hchanged

/-- Where emails are distinct, the truth is told of the one user with the email. -/
theorem TellsTruth.exists_unique {α : Type} {email : String} {r : Except Failure α}
    {user organization : Int64} (htruth : TellsTruth db email r) (hconsistent : db.store.Consistent)
    (hr : r = .error (.alreadyExists user organization)) :
    ∃ u ∈ db.store.users, u.id = user ∧ u.organization = organization ∧
      ∀ v ∈ db.store.users, v.email = email ↔ v = u := by
  obtain ⟨u, hu, hid, horganization⟩ := htruth user organization hr
  obtain ⟨hmem, huemail⟩ := Store.mem_of_userOf? hu
  refine ⟨u, hmem, hid, horganization, fun v hv => ⟨hconsistent.eq_userOf? hu hv, ?_⟩⟩
  rintro rfl
  exact huemail

/-- **Racing requests resolve to one winner.** Let nothing go wrong with a provisioning but what others
commit meanwhile, within the constraints of the tables. If the visitor's email has a user when it is
looked up first, the visitor is told so, whatever they ask for. Otherwise an invalid request is rejected
and no transaction is begun. Otherwise, provided that no row has a number that is drawn, if the email has
a user by the time at which the owner's row is written, the visitor is told so; if not, their wish is
fulfilled, unless a text of it is one that no column can hold. Whenever a visitor is told where their
email belongs, this is the one committed user with the email. -/
theorem provide_race {identity : Identity} {request : Request} {print : Printer} {report : Report}
    {h : List Occurrence} (hclosed : db.transaction = .closed) (hquiet : ¬db.Disturbed)
    (hconsistent : db.store.Consistent) (hemail : '\x00' ∉ identity.email.toList)
    (hrun : (provide identity request print).run db = (report, db'))
    (hhistory : db'.history = h ++ db.history)
    (hlawful : Throughout Occurrence.Lawful db.store h) :
    (∃ behind before, h = behind ++ .ran (.findMembership identity.email) :: before ∧
      (∀ o ∈ before, ∃ c held, o = .changed c held) ∧
      ((db.store.replay before).userOf? identity.email ≠ none →
        ∃ user organization, report.outcome = .error (.alreadyExists user organization)) ∧
      ((db.store.replay before).userOf? identity.email = none →
        (∀ failure, request.validateFor print identity.email = .error failure →
          report.outcome = .error failure ∧ (∃ message, failure = .validation message) ∧
            .ran .begin ∉ h) ∧
        ∀ n, request.validateFor print identity.email = .ok n → n.IsClean →
          Throughout Occurrence.DrawsFree db.store h →
          ∃ organization behind before,
            h = behind ++ .ran (.insertUser identity.email organization .owner) :: before ∧
            ((db.store.replay before).userOf? identity.email ≠ none →
              ∃ user organization, report.outcome = .error (.alreadyExists user organization)) ∧
            ((db.store.replay before).userOf? identity.email = none →
              ∃ c, report.outcome = .ok c ∧ c.Fulfils n))) ∧
    (∀ user organization, report.outcome = .error (.alreadyExists user organization) →
      ∃ u ∈ db'.store.users, u.id = user ∧ u.organization = organization ∧
        ∀ v ∈ db'.store.users, v.email = identity.email ↔ v = u) ∧
    ((∀ n, request.validateFor print identity.email = .ok n → n.IsClean) →
      Throughout Occurrence.DrawsFree db.store h →
      ∀ failure, report.outcome = .error failure →
        (∃ message, failure = .validation message) ∨
          ∃ user organization, failure = .alreadyExists user organization) := by
  obtain ⟨k, hk, -, houtcome, hfulfils, htruth⟩ :=
    provide_spec hclosed (genuine_of_undisturbed hquiet) hrun
  obtain rfl := eq_of_history hk hhistory
  obtain ⟨since, before, rfl, hforeign, hcases⟩ :=
    provide_undisturbed hclosed hquiet hemail hrun hhistory hlawful
  refine ⟨⟨since, before, rfl, hforeign, ?_⟩, ?_, ?_⟩
  · rcases hcases with ⟨u, huser, -, hr⟩ | ⟨hnone, ⟨failure, hinvalid, rfl, hr⟩ | ⟨n, hvalid, hdecided⟩⟩
    · refine ⟨fun _ => ⟨_, _, hr⟩, fun hnone => ?_⟩
      rw [huser] at hnone
      cases hnone
    · refine ⟨fun hsome => absurd hnone hsome, fun _ => ⟨?_, ?_⟩⟩
      · intro failure' hinvalid'
        cases hinvalid.symm.trans hinvalid'
        exact ⟨hr, Request.validation_of_validateFor hinvalid, begin_not_mem hforeign⟩
      · intro n hvalid
        cases hinvalid.symm.trans hvalid
    · refine ⟨fun hsome => absurd hnone hsome, fun _ => ⟨?_, ?_⟩⟩
      · intro failure hinvalid
        cases hinvalid.symm.trans hvalid
      · intro n' hvalid' hclean hdraws
        cases hvalid.symm.trans hvalid'
        refine (hdecided hclean hdraws).comes_to fun c hr => ?_
        obtain ⟨n', hvalid', hfulfils'⟩ := hfulfils c hr
        cases hvalid.symm.trans hvalid'
        exact hfulfils'
  · intro user organization hr
    have hconsistent' : db'.store.Consistent := by
      rw [hk.store]
      exact hconsistent.replay hlawful houtcome.founding
    exact htruth.exists_unique hconsistent' hr
  · intro hclean hdraws failure hr
    rcases hcases with ⟨u, -, -, hr'⟩ | ⟨-, ⟨failure', hinvalid, -, hr'⟩ | ⟨n, hvalid, hdecided⟩⟩
    · cases hr.symm.trans hr'
      exact .inr ⟨_, _, rfl⟩
    · cases hr.symm.trans hr'
      exact .inl (Request.validation_of_validateFor hinvalid)
    · exact .inr ((hdecided (hclean n hvalid) hdraws).failure_eq hr)

/-- A visitor. -/
def sampleVisitor : Identity := ⟨"117", "ada@example.org", "Ada"⟩

/-- What the visitor asks for. -/
def sampleRequest : Request := ⟨some ⟨some " Acme ", none⟩, some ⟨some "ada@example.org"⟩⟩

/-- A database at which somebody else takes the visitor's email just before the owner's row is
written. -/
def sampleDatabase : Database :=
  { ofStore .empty with
    faults := [⟨.insertUser, 0,
      [.addOrganization none "Other" none, .addUser none "ada@example.org" 2 .owner], .plain⟩] }

/-- How the provisioning goes, and the database after it. -/
def sampleRun : Report × Database :=
  (provide sampleVisitor sampleRequest .plain).run sampleDatabase

/-- What the visitor asks for, as it is to be stored. -/
def sampleAccepted : NewOrganization := ⟨"Acme", none, "ada@example.org"⟩

/-- The visitor who lost the race is told where their email belongs, which was settled when the owner's
row was to be written. -/
theorem provide_race_sample :
    sampleRun.1.outcome = .error (.alreadyExists 1 2) ∧
      (∃ u ∈ sampleRun.2.store.users, u.id = 1 ∧ u.organization = 2 ∧
        ∀ v ∈ sampleRun.2.store.users, v.email = sampleVisitor.email ↔ v = u) ∧
      ∃ organization behind before,
        sampleRun.2.history =
          behind ++ .ran (.insertUser sampleVisitor.email organization .owner) :: before ∧
        (sampleDatabase.store.replay before).userOf? sampleVisitor.email ≠ none := by
  have hr : sampleRun.1.outcome = .error (.alreadyExists 1 2) := by decide +kernel
  have hlawful : Throughout Occurrence.Lawful sampleDatabase.store sampleRun.2.history := by
    decide +kernel
  have hdraws : Throughout Occurrence.DrawsFree sampleDatabase.store sampleRun.2.history := by
    decide +kernel
  have hvalid : sampleRequest.validateFor .plain sampleVisitor.email = .ok sampleAccepted := by
    decide +kernel
  have hclean : sampleAccepted.IsClean :=
    ⟨by decide +kernel, by simp [sampleAccepted], by decide +kernel⟩
  have hquiet : ¬sampleDatabase.Disturbed := by simp [Disturbed, sampleDatabase, ofStore]
  have hrun : (provide sampleVisitor sampleRequest .plain).run sampleDatabase =
      (sampleRun.1, sampleRun.2) := (Prod.eta sampleRun).symm
  have hhistory : sampleRun.2.history = sampleRun.2.history ++ sampleDatabase.history :=
    (List.append_nil _).symm
  obtain ⟨⟨behind, before, hh, hforeign, -, hsearched⟩, htold, -⟩ :=
    provide_race rfl hquiet Store.consistent_empty (by decide +kernel) hrun hhistory hlawful
  -- Nobody committed anything before the first lookup.
  have hnone : (sampleDatabase.store.replay before).userOf? sampleVisitor.email = none := by
    have hfirst : sampleRun.2.history.getLast? =
        some (.ran (.findMembership sampleVisitor.email)) := by decide +kernel
    rcases List.eq_nil_or_concat before with rfl | ⟨others, o, rfl⟩
    · rfl
    · rw [List.concat_eq_append] at hh hforeign
      obtain ⟨c, held, rfl⟩ := hforeign o (List.mem_append_right _ List.mem_cons_self)
      rw [hh, ← List.cons_append, ← List.append_assoc, List.getLast?_concat] at hfirst
      cases hfirst
  obtain ⟨organization, behind', before', hh', -, hcreated⟩ :=
    (hsearched hnone).2 sampleAccepted hvalid hclean hdraws
  refine ⟨hr, htold 1 2 hr, organization, behind', before', hh', fun hfree => ?_⟩
  obtain ⟨c, hc, -⟩ := hcreated hfree
  cases hr.symm.trans hc

/-- A database at which somebody has inserted an organization under the number that is drawn next. -/
def numberedDatabase : Database := ofStore ⟨[⟨1, "Other", none⟩], [], some 1, some 1⟩

/-- **A visitor whose organization draws a number that a row has is told nothing.** Nothing goes wrong and
nobody commits anything meanwhile, numbers and emails are distinct, the request is valid, and nobody has
the email, neither before nor after; yet the provisioning ends as a failure of the service. -/
theorem provide_number_taken :
    numberedDatabase.transaction = .closed ∧ ¬numberedDatabase.Disturbed ∧ numberedDatabase.Alone ∧
      numberedDatabase.store.Consistent ∧
      sampleRequest.validateFor .plain sampleVisitor.email = .ok sampleAccepted ∧
      sampleAccepted.IsClean ∧
      numberedDatabase.store.userOf? sampleVisitor.email = none ∧
      ((provide sampleVisitor sampleRequest .plain).run numberedDatabase).2.store.userOf?
        sampleVisitor.email = none ∧
      ((provide sampleVisitor sampleRequest .plain).run numberedDatabase).1.outcome =
        .error (.internal "Record already exists") := by
  refine ⟨rfl, ?_, fun f hf => absurd hf List.not_mem_nil, ?_, by decide +kernel,
    ⟨by decide +kernel, by simp [sampleAccepted], by decide +kernel⟩, by decide +kernel,
    by decide +kernel, by decide +kernel⟩
  · simp [Disturbed, numberedDatabase, ofStore]
  · exact ⟨by decide, by decide, by decide, fun u hu => absurd hu List.not_mem_nil⟩

end Provisioning

end TenantOnboarding
