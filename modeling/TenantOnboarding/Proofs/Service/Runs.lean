import TenantOnboarding.Proofs.Service.Requests

/-!
# Runs of requests

A run is a list of calls, one after another: requests, each with what happens at the database
meanwhile and with the words in which faults are put this time. What a call adds to the history is what
the router says it adds, so a run adds nothing of the service's own but foundings (`after_continues`).

**`consistent_throughout`** is what that means for the rows at every moment of a run: emails stay
distinct, references stay valid, organizations of the service have one owner and no row is lost.
-/

namespace TenantOnboarding

open Database Http

/-- A request with the instant at which it comes, what happens at the database meanwhile, and how faults
are put in words. -/
structure Call where
  request : Http.Request
  now : Instant
  faults : List Fault
  print : Provisioning.Printer

/-- The rows of every answer of the database during a call are those of the statement. -/
def Call.Genuine (c : Call) : Prop :=
  ∀ f ∈ c.faults, ∀ rs, f.ending ≠ .rows rs

namespace Service

variable (policy : CorsPolicy) {s s₁ s₂ : Service}

/-- The service when a call comes. -/
def expecting (s : Service) (c : Call) : Service :=
  { s with
    database.faults := c.faults
    print := c.print }

/-- The answer to a call and the service after it. -/
def call (s : Service) (c : Call) : Response × Service :=
  (s.expecting c).respondUnder policy Route.all c.request c.now

/-- The service after a run. -/
def after (s : Service) (calls : List Call) : Service :=
  calls.foldl (fun s c => (s.call policy c).2) s

/-- A run goes on after its first call. -/
theorem after_cons (s : Service) (c : Call) (calls : List Call) :
    s.after policy (c :: calls) = (s.call policy c).2.after policy calls := rfl

/-- A run goes on after an earlier run. -/
theorem after_append (s : Service) (earlier later : List Call) :
    s.after policy (earlier ++ later) = (s.after policy earlier).after policy later :=
  List.foldl_append

/-- What a run adds to the history accounts for the rows, the service commits nothing but foundings,
and afterwards there is no transaction. -/
structure Continues (s s₁ : Service) (h : List Occurrence) : Prop where
  history : s₁.database.history = h ++ s.database.history
  store : s₁.database.store = s.database.store.replay h
  founding : Throughout Occurrence.Founding s.database.store h
  closed : s₁.database.transaction = .closed

/-- One run after another is a run. -/
theorem Continues.trans {h₁ h₂ : List Occurrence} (a : s.Continues s₁ h₁) (b : s₁.Continues s₂ h₂) :
    s.Continues s₂ (h₂ ++ h₁) where
  history := by rw [b.history, a.history, List.append_assoc]
  store := by rw [b.store, a.store, Store.replay_append]
  founding := throughout_append.mpr ⟨a.store ▸ b.founding, a.founding⟩
  closed := b.closed

/-- A call is a run. -/
theorem call_continues {c : Call} (hclosed : s.database.transaction = .closed)
    (hgenuine : c.Genuine) : ∃ h, s.Continues (s.call policy c).2 h := by
  have hcall : (s.expecting c).respondUnder policy Route.all c.request c.now =
      ((s.call policy c).1, (s.call policy c).2) := rfl
  have hclosed' : (s.expecting c).database.transaction = .closed := hclosed
  obtain ⟨⟨h, hserves⟩, -⟩ := respondUnder_serves hclosed' hgenuine hcall
  exact ⟨h, hserves.history, hserves.store, hserves.founding, hserves.closed⟩

/-- **A run adds nothing of the service's own but foundings.** -/
theorem after_continues {calls : List Call} (hclosed : s.database.transaction = .closed)
    (hgenuine : ∀ c ∈ calls, c.Genuine) : ∃ h, s.Continues (s.after policy calls) h := by
  induction calls generalizing s with
  | nil => exact ⟨[], rfl, rfl, .nil, hclosed⟩
  | cons c calls ih =>
    obtain ⟨h₁, hcall⟩ := call_continues policy hclosed (hgenuine c List.mem_cons_self)
    obtain ⟨h₂, hrest⟩ := ih hcall.closed fun c' hc' => hgenuine c' (List.mem_cons_of_mem _ hc')
    exact ⟨h₂ ++ h₁, hcall.trans hrest⟩

/-- **The rows at every moment of a run.** Let a run start from a consistent store. Whatever the requests
are, whatever fails, and whatever others commit as far as they keep to the constraints of the tables:
numbers and emails are distinct and references valid; an organization that the service committed was
committed together with an owner, who is the only user whom the service committed for it; and the rows of
the start are still there. -/
theorem consistent_throughout {calls : List Call} (hclosed : s.database.transaction = .closed)
    (hstart : s.database.history = []) (hconsistent : s.database.store.Consistent)
    (hgenuine : ∀ c ∈ calls, c.Genuine)
    (hlawful : Throughout Occurrence.Lawful s.database.store
      (s.after policy calls).database.history) :
    (s.after policy calls).database.store =
        s.database.store.replay (s.after policy calls).database.history ∧
      ∀ moment, moment <:+ (s.after policy calls).database.history →
        (s.database.store.replay moment).Consistent ∧
        (∀ p ∈ committedIn moment, ∃ o u, p.Founds o u ∧
          o ∈ (s.database.store.replay moment).organizations ∧
          u ∈ (s.database.store.replay moment).users ∧
          ((committedIn moment).flatMap (·.users)).filter (·.organization == o.id) = [u]) ∧
        s.database.store.organizations <+: (s.database.store.replay moment).organizations ∧
        s.database.store.users <+: (s.database.store.replay moment).users := by
  obtain ⟨h, hrun⟩ := after_continues policy hclosed hgenuine
  have hhistory : (s.after policy calls).database.history = h := by
    rw [hrun.history, hstart, List.append_nil]
  rw [hhistory] at hlawful ⊢
  refine ⟨hrun.store, fun moment hmoment => ?_⟩
  have hlawful' := hlawful.of_suffix hmoment
  have hfounding := hrun.founding.of_suffix hmoment
  have hconsistent' := hconsistent.replay hlawful' hfounding
  refine ⟨hconsistent', ?_, prefix_replay hlawful'⟩
  intro p hp
  obtain ⟨o, u, hfounds⟩ := founds_of_mem_committedIn hfounding hp
  refine ⟨o, u, hfounds, ?_, ?_, owners_of_founded hfounding hconsistent' hp hfounds⟩
  · apply committed_sublist_organizations.subset
    rw [List.mem_flatMap]
    exact ⟨p, List.mem_reverse.mpr hp, by simp [hfounds.rows]⟩
  · exact committed_subset_users hlawful' hp (by simp [hfounds.rows])

/-- A run of two calls: while the visitor's request is served others commit an organization with a number
of their own and a user, and the answer to its commit is lost; then the visitor asks again. -/
def sampleCalls : List Call :=
  [⟨sampleWish, sampleInstant, [
      ⟨.begin, 0,
        [.addOrganization (some 7) "Other" none, .addUser none "eve@example.org" 7 .member], .plain⟩,
      ⟨.commit, 0, [], .unanswered⟩], .plain⟩,
    ⟨sampleWish, sampleInstant, [], .plain⟩]

/-- In the run of two calls the service committed one organization, and its owner is the only user whom it
committed for it. -/
theorem consistent_throughout_sample :
    (sample.after samplePolicy sampleCalls).database.store.Consistent ∧
      ∃ o u, committedIn (sample.after samplePolicy sampleCalls).database.history = [⟨[o], [u], []⟩] ∧
        u.role = .owner ∧
        ((committedIn (sample.after samplePolicy sampleCalls).database.history).flatMap
          (·.users)).filter (·.organization == o.id) = [u] := by
  have hgenuine : ∀ c ∈ sampleCalls, c.Genuine := by
    simp [sampleCalls, Call.Genuine]
  obtain ⟨hone, hlawful⟩ :
      (committedIn (sample.after samplePolicy sampleCalls).database.history).length = 1 ∧
        Throughout Occurrence.Lawful sample.database.store
          (sample.after samplePolicy sampleCalls).database.history := by
    decide +kernel
  obtain ⟨hstore, hmoments⟩ :=
    consistent_throughout samplePolicy rfl rfl Store.consistent_empty hgenuine hlawful
  obtain ⟨hconsistent, howners, -⟩ := hmoments _ List.suffix_rfl
  obtain ⟨p, hp⟩ := List.length_eq_one_iff.mp hone
  obtain ⟨o, u, hfounds, -, -, howner⟩ := howners p (hp ▸ List.mem_singleton.mpr rfl)
  exact ⟨hstore ▸ hconsistent, o, u, hfounds.rows ▸ hp, hfounds.role, howner⟩

end Service

end TenantOnboarding
