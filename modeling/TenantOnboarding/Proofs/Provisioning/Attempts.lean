import TenantOnboarding.Proofs.Provisioning.Conduct

/-!
# Events that may be refused

Whoever tells a provisioning of an event may be refused, and then the state stays as it is. This is about
any number of events that are told one after another, from any state.

* `State.Leads` is the table of the states: one case for each arrow, and `State.next` follows it
  (`next_eq_ok_iff`).
* `State.settled` is the state after all the events, and `State.taken` are the events among them that were
  not refused. What was taken leads from the first state to the last one (`after_taken`), so that what
  holds of runs without refusals holds of all of them.
* **`keeps_course`**: at most three events are taken, nothing is taken where the provisioning is over,
  creation begins only with a request that was found valid, and there is one way to what is created.
-/

namespace TenantOnboarding.Provisioning

/-- An event that is told, with what was found of the request, if it was examined. -/
abbrev Told := Event × Option Bool

namespace State

variable {s s₁ s₂ : State} {event : Event} {valid : Option Bool} {t : Told} {ts : List Told}

/-! ## The table of the states -/

/-- An event leads from one state to another. -/
inductive Leads : State → Told → State → Prop where
  | found (valid : Option Bool) : Leads .checked (.userFound, valid) .exists
  | missed (valid : Option Bool) : Leads .checked (.userMissing, valid) .notFound
  | rejected (valid : Option Bool) : Leads .notFound (.reject, valid) .failed
  | begun : Leads .notFound (.beginCreate, some true) .creating
  | committed (valid : Option Bool) : Leads .creating (.commit, valid) .created
  | aborted (valid : Option Bool) : Leads .creating (.abort, valid) .failed

/-- Events that are not refused lead where the table says. -/
theorem next_eq_ok_iff : s.next event valid = .ok s₁ ↔ Leads s (event, valid) s₁ := by
  constructor
  · intro h
    unfold next at h
    split at h
    · cases h
    · split at h
      case h_1 =>
        cases h
        exact .found valid
      case h_2 =>
        cases h
        exact .missed valid
      case h_3 =>
        cases h
        exact .rejected valid
      case h_4 =>
        split at h
        · rename_i hvalid
          cases hvalid
          cases h
          exact .begun
        · cases h
      case h_5 =>
        cases h
        exact .committed valid
      case h_6 =>
        cases h
        exact .aborted valid
      case h_7 => cases h
  · intro h
    cases h <;> rfl

/-- Whoever tells an event to a provisioning that is over is told so, and nobody else is. -/
theorem next_eq_terminal_iff :
    s.next event valid = .error (.terminal s₁) ↔ s.isTerminal = true ∧ s₁ = s := by
  unfold next
  constructor
  · intro h
    split at h
    · rename_i hterminal
      cases h
      exact ⟨hterminal, rfl⟩
    · split at h
      case h_4 => split at h <;> cases h
      all_goals cases h
  · rintro ⟨hterminal, rfl⟩
    exact if_pos hterminal

namespace Leads

/-- Nothing leads on from where a provisioning is over. -/
theorem not_terminal (h : Leads s t s₁) : s.isTerminal = false := by
  cases h <;> rfl

/-- Nobody is found but at the start. -/
theorem eq_checked (h : Leads s t .exists) : s = .checked := by
  cases h
  rfl

end Leads

/-- How many events may still be taken. -/
def remaining : State → Nat
  | checked => 3
  | notFound => 2
  | creating => 1
  | .exists | created | failed => 0

/-- Each event that is taken leaves fewer. -/
theorem Leads.remaining_lt (h : Leads s t s₁) : s₁.remaining < s.remaining := by
  cases h <;> decide

/-- Creation has begun. -/
def IsBegun (s : State) : Prop :=
  s = .creating ∨ s = .created

/-- Creation begins by one event, and only with a request that was found valid. -/
theorem Leads.begins (h : Leads s t s₁) (hs₁ : s₁.IsBegun) (hs : ¬s.IsBegun) :
    t = (.beginCreate, some true) := by
  cases h with
  | begun => rfl
  | committed => exact absurd (.inl rfl) hs
  | found | missed | rejected | aborted => rcases hs₁ with h | h <;> cases h

/-! ## Runs without refusals -/

/-- A run without refusals by its first event. -/
theorem after_cons : s.after (t :: ts) = .ok s₂ ↔ ∃ s₁, Leads s t s₁ ∧ s₁.after ts = .ok s₂ := by
  show (s.next t.1 t.2 >>= fun s => s.after ts) = _ ↔ _
  constructor
  · intro h
    cases hnext : s.next t.1 t.2 with
    | error failure =>
      rw [hnext] at h
      cases h
    | ok s₁ =>
      rw [hnext] at h
      exact ⟨s₁, next_eq_ok_iff.mp hnext, h⟩
  · rintro ⟨s₁, hleads, hrest⟩
    rw [next_eq_ok_iff.mpr hleads]
    exact hrest

/-- A run without events ends where it starts. -/
theorem after_nil : s.after [] = .ok s₁ ↔ s = s₁ := by
  constructor
  · intro h
    exact Except.ok.inj h
  · rintro rfl
    rfl

/-- A run that gets somewhere has a first event. -/
theorem exists_of_after (h : s.after ts = .ok s₂) (hne : s ≠ s₂) :
    ∃ t rest s₁, ts = t :: rest ∧ Leads s t s₁ ∧ s₁.after rest = .ok s₂ := by
  cases ts with
  | nil => exact absurd (after_nil.mp h) hne
  | cons t rest =>
    obtain ⟨s₁, hleads, hrest⟩ := after_cons.mp h
    exact ⟨t, rest, s₁, rfl, hleads, hrest⟩

/-- From where a provisioning is over, a run without refusals has no events. -/
theorem after_of_terminal (hterminal : s.isTerminal = true) (h : s.after ts = .ok s₁) :
    ts = [] ∧ s = s₁ := by
  cases ts with
  | nil => exact ⟨rfl, after_nil.mp h⟩
  | cons t ts =>
    obtain ⟨s₂, hleads, -⟩ := after_cons.mp h
    rw [hleads.not_terminal] at hterminal
    cases hterminal

/-- What is being created is created by its commit. -/
theorem eq_of_creating (h : creating.after ts = .ok .created) :
    ∃ committed, ts = [(.commit, committed)] := by
  obtain ⟨t, rest, s₁, rfl, hleads, hrest⟩ := exists_of_after h (by decide)
  cases hleads with
  | committed committed =>
    obtain ⟨rfl, -⟩ := after_of_terminal rfl hrest
    exact ⟨committed, rfl⟩
  | aborted => cases (after_of_terminal rfl hrest).2

/-- What was not found is created if creation begins. -/
theorem eq_of_notFound (h : notFound.after ts = .ok .created) :
    ∃ committed, ts = [(.beginCreate, some true), (.commit, committed)] := by
  obtain ⟨t, rest, s₁, rfl, hleads, hrest⟩ := exists_of_after h (by decide)
  cases hleads with
  | begun =>
    obtain ⟨committed, rfl⟩ := eq_of_creating hrest
    exact ⟨committed, rfl⟩
  | rejected => cases (after_of_terminal rfl hrest).2

/-- There is one way from the start to what is created. -/
theorem after_eq_created_iff :
    checked.after ts = .ok .created ↔
      ∃ missed committed, ts =
        [(.userMissing, missed), (.beginCreate, some true), (.commit, committed)] := by
  constructor
  · intro h
    obtain ⟨t, rest, s₁, rfl, hleads, hrest⟩ := exists_of_after h (by decide)
    cases hleads with
    | missed missed =>
      obtain ⟨committed, rfl⟩ := eq_of_notFound hrest
      exact ⟨missed, committed, rfl⟩
    | found => cases (after_of_terminal rfl hrest).2
  · rintro ⟨missed, committed, rfl⟩
    rfl

/-- Where creation has begun, it was begun with a request that was found valid. -/
theorem begun_of_after (h : s.after ts = .ok s₁) (hs₁ : s₁.IsBegun) (hs : ¬s.IsBegun) :
    (.beginCreate, some true) ∈ ts := by
  induction ts generalizing s with
  | nil => exact absurd (after_nil.mp h ▸ hs₁) hs
  | cons t ts ih =>
    obtain ⟨s₂, hleads, hrest⟩ := after_cons.mp h
    by_cases hs₂ : s₂.IsBegun
    · exact List.mem_cons.mpr (.inl (hleads.begins hs₂ hs).symm)
    · exact List.mem_cons_of_mem t (ih hrest hs₂)

/-- What ends in finding a user has only looked for one. -/
theorem eq_of_after_exists (h : s.after ts = .ok .exists) : s = .checked ∨ s = .exists := by
  induction ts generalizing s with
  | nil => exact .inr (after_nil.mp h)
  | cons t ts ih =>
    obtain ⟨s₁, hleads, hrest⟩ := after_cons.mp h
    rcases ih hrest with rfl | rfl
    · cases hleads
    · exact .inl hleads.eq_checked

/-! ## Runs with refusals -/

/-- The state after an event, which may be refused. -/
def settle (s : State) (t : Told) : State :=
  match s.next t.1 t.2 with
  | .ok s₁ => s₁
  | .error _ => s

/-- The state after some events, each of which may be refused. -/
def settled (s : State) (ts : List Told) : State :=
  ts.foldl settle s

/-- The events that were taken and not refused, in their order. -/
def taken : State → List Told → List Told
  | _, [] => []
  | s, t :: ts =>
    match s.next t.1 t.2 with
    | .ok s₁ => t :: s₁.taken ts
    | .error _ => s.taken ts

/-- The later events start where the earlier ones end. -/
theorem settled_append (s : State) (before after : List Told) :
    s.settled (before ++ after) = (s.settled before).settled after :=
  List.foldl_append

/-- **The events that were taken lead from the first state to the last one.** -/
theorem after_taken (s : State) (ts : List Told) : s.after (s.taken ts) = .ok (s.settled ts) := by
  induction ts generalizing s with
  | nil => rfl
  | cons t ts ih =>
    show s.after (s.taken (t :: ts)) = .ok ((s.settle t).settled ts)
    unfold taken settle
    cases hnext : s.next t.1 t.2 with
    | error failure => exact ih s
    | ok s₁ => exact after_cons.mpr ⟨s₁, next_eq_ok_iff.mp hnext, ih s₁⟩

/-- The more events are taken, the fewer may still be. -/
theorem length_add_remaining_le (h : s.after ts = .ok s₁) :
    ts.length + s₁.remaining ≤ s.remaining := by
  induction ts generalizing s with
  | nil =>
    rw [after_nil.mp h]
    simp
  | cons t ts ih =>
    obtain ⟨s₂, hleads, hrest⟩ := after_cons.mp h
    have hlt := hleads.remaining_lt
    have hle := ih hrest
    rw [List.length_cons]
    omega

/-- No state is further from the end than the first one. -/
theorem remaining_le (s : State) : s.remaining ≤ 3 := by
  cases s <;> decide

/-- Where a provisioning is over, it stays. -/
theorem settled_of_terminal (h : s.isTerminal = true) (ts : List Told) : s.settled ts = s :=
  (after_of_terminal h (after_taken s ts)).2.symm

end State

/-! ## The course of every run -/

/-- **However many events a provisioning is told of, and whichever of them it refuses**, it takes at most
three. Once it is over it stays as it is; from then on, and not before, every event is answered by saying
so. From its start it comes to what is created in one way only; creation begins in no run, from wherever
it is not begun yet, without a request that was found valid; and a run that finds the user has never been
creating. -/
theorem keeps_course (s : State) :
    (∀ ts, (s.taken ts).length ≤ 3) ∧
    (∀ before after, (s.settled before).isTerminal = true →
      s.settled (before ++ after) = s.settled before) ∧
    (∀ before event valid last, (s.settled before).next event valid = .error (.terminal last) ↔
      (s.settled before).isTerminal = true ∧ last = s.settled before) ∧
    (∀ ts, State.checked.settled ts = .created ↔
      ∃ missed committed, State.checked.taken ts =
        [(.userMissing, missed), (.beginCreate, some true), (.commit, committed)]) ∧
    (∀ ts, ¬s.IsBegun → (s.settled ts).IsBegun → (.beginCreate, some true) ∈ s.taken ts) ∧
    ∀ before after, s.settled (before ++ after) = .exists → s.settled before ≠ .creating := by
  refine ⟨fun ts => ?_, fun before after hterminal => ?_, fun before event valid last => ?_,
    fun ts => ?_, fun ts hs hbegun => ?_, fun before after hexists hcreating => ?_⟩
  · have hle := State.length_add_remaining_le (State.after_taken s ts)
    have hthree := s.remaining_le
    omega
  · rw [State.settled_append]
    exact State.settled_of_terminal hterminal after
  · exact State.next_eq_terminal_iff
  · rw [← State.after_eq_created_iff, State.after_taken, Except.ok.injEq]
  · exact State.begun_of_after (State.after_taken s ts) hbegun hs
  · rw [State.settled_append, hcreating] at hexists
    have hafter := State.after_taken .creating after
    rw [hexists] at hafter
    rcases State.eq_of_after_exists hafter with h | h <;> cases h

/-- Events for a provisioning that begins too early, with a request that was not examined, with one that was
found invalid, and then with a valid one; it is told of two more events after it is over. -/
def sampleTold : List Told :=
  [(.commit, none), (.userMissing, none), (.beginCreate, none), (.beginCreate, some false),
    (.beginCreate, some true), (.reject, none), (.commit, none), (.userFound, none), (.abort, none)]

/-- Of these nine events three are taken, and what they lead to stays. -/
theorem keeps_course_sample :
    (State.checked.settled sampleTold = .created ∧
      State.checked.taken sampleTold =
        [(.userMissing, none), (.beginCreate, some true), (.commit, none)]) ∧
      State.checked.settled (sampleTold ++ [(.userMissing, none)]) = .created ∧
      (.beginCreate, some true) ∈ State.checked.taken (sampleTold.take 5) ∧
      State.checked.settled [(.userFound, none)] ≠ .creating := by
  obtain ⟨-, hstays, -, -, hbegun, hexists⟩ := keeps_course .checked
  refine ⟨⟨rfl, rfl⟩, hstays sampleTold [(.userMissing, none)] rfl, ?_, ?_⟩
  · exact hbegun (sampleTold.take 5) (fun h => by rcases h with h | h <;> cases h) (.inl rfl)
  · exact hexists [(.userFound, none)] [(.beginCreate, some true)] rfl

end TenantOnboarding.Provisioning
