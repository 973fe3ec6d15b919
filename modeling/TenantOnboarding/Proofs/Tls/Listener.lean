import Mathlib.Data.List.Nodup
import TenantOnboarding.Tls.Listener

/-!
# No connection is lost, doubled or held up

* `Moves` says what one event does to a listener.
* `Accounts` is what holds of a listener after some events: every connection that was accepted is
  somewhere, and what is somewhere got there by an event. One event keeps it (`Accounts.moves`), so every
  run does (`Accounts.run`).
* `exists_delivery`: a connection whose handshake goes on can be delivered whatever all the others do.
* **`loses_nothing`**: what follows for every listener and every order of events.
-/

namespace TenantOnboarding.Tls

/-! ## Events -/

namespace ListenerEvent

/-- The address from which a connection is accepted. -/
def arrived? : ListenerEvent → Option String
  | arrive peer => some peer
  | _ => none

/-- The number of a connection whose handshake is complete. -/
def completed? : ListenerEvent → Option Nat
  | complete id => some id
  | _ => none

/-- The number of a connection whose handshake failed or took too long. -/
def discarded? : ListenerEvent → Option Nat
  | fail id => some id
  | timeOut id => some id
  | _ => none

/-- The number of a connection that enters the queue. -/
def entered? : ListenerEvent → Option Nat
  | enqueue id => some id
  | _ => none

end ListenerEvent

/-- What one more event adds to what some events tell. -/
theorem filterMap_concat {α : Type} (f : ListenerEvent → Option α) (events : List ListenerEvent)
    (e : ListenerEvent) : (events ++ [e]).filterMap f = events.filterMap f ++ (f e).toList := by
  rw [List.filterMap_append]
  cases h : f e with
  | none => rw [List.filterMap_cons_none h]; rfl
  | some a => rw [List.filterMap_cons_some h]; rfl

/-- The connections that are accepted, with their addresses. -/
def arrivals (events : List ListenerEvent) : List Connection :=
  (events.filterMap ListenerEvent.arrived?).zipIdx.map fun arrival => ⟨arrival.2, arrival.1⟩

/-- A connection that is accepted gets the next number. -/
theorem arrivals_concat (events : List ListenerEvent) (e : ListenerEvent) :
    arrivals (events ++ [e]) =
      arrivals events ++ (e.arrived?.map (⟨(arrivals events).length, ·⟩)).toList := by
  unfold arrivals
  rw [filterMap_concat, List.zipIdx_append, List.map_append]
  cases e.arrived? <;> simp

/-- Every connection has a number of its own. -/
theorem nodup_arrivals (events : List ListenerEvent) : ((arrivals events).map (·.id)).Nodup := by
  have hids : (arrivals events).map (·.id) =
      List.range' 0 (events.filterMap ListenerEvent.arrived?).length := by
    rw [arrivals, List.map_map]
    exact List.zipIdx_map_snd 0 _
  rw [hids]
  exact List.nodup_range'

namespace Listener

variable {l l' : Listener} {e : ListenerEvent} {events : List ListenerEvent} {c : Connection}

/-! ## One event -/

/-- What an event does to a listener. -/
inductive Moves (l : Listener) : ListenerEvent → Listener → Prop where
  | arrive (peer : String) :
      Moves l (.arrive peer)
        { l with arrived := l.arrived + 1, handshaking := l.handshaking ++ [⟨l.arrived, peer⟩] }
  | complete {c : Connection} (hc : c ∈ l.handshaking) :
      Moves l (.complete c.id)
        { l with handshaking := l.handshaking.erase c, waiting := l.waiting ++ [c] }
  | fail {c : Connection} (hc : c ∈ l.handshaking) : Moves l (.fail c.id) (l.discard c)
  | timeOut {c : Connection} (hc : c ∈ l.handshaking) : Moves l (.timeOut c.id) (l.discard c)
  | enqueue {c : Connection} (hc : c ∈ l.waiting) (hroom : l.queue.length < capacity) :
      Moves l (.enqueue c.id) { l with waiting := l.waiting.erase c, queue := l.queue ++ [c] }
  | take {c : Connection} {queue : List Connection} (hqueue : l.queue = c :: queue) :
      Moves l .take { l with queue, delivered := l.delivered ++ [c] }

/-- A connection that is found by its number has the number. -/
theorem find?_eq_some {id : Nat} {cs : List Connection} (h : Connection.find? id cs = some c) :
    c ∈ cs ∧ c.id = id :=
  ⟨List.mem_of_find?_eq_some h, by simpa using List.find?_some h⟩

/-- Room is given to waiting connections, if there is room. -/
theorem of_mem_admitted (h : c ∈ l.admitted) : c ∈ l.waiting ∧ l.queue.length < capacity := by
  refine ⟨List.mem_of_mem_take h, ?_⟩
  have hlength := List.length_pos_of_mem h
  rw [admitted, List.length_take] at hlength
  omega

/-- **Whatever happens to a listener is one of these things.** -/
theorem moves_of_step (h : l.step e = some l') : l.Moves e l' := by
  cases e with
  | arrive peer =>
    cases h
    exact .arrive peer
  | complete id =>
    obtain ⟨c, hfound, rfl⟩ := Option.map_eq_some_iff.mp h
    obtain ⟨hc, rfl⟩ := find?_eq_some hfound
    exact .complete hc
  | fail id =>
    obtain ⟨c, hfound, rfl⟩ := Option.map_eq_some_iff.mp h
    obtain ⟨hc, rfl⟩ := find?_eq_some hfound
    exact .fail hc
  | timeOut id =>
    obtain ⟨c, hfound, rfl⟩ := Option.map_eq_some_iff.mp h
    obtain ⟨hc, rfl⟩ := find?_eq_some hfound
    exact .timeOut hc
  | enqueue id =>
    obtain ⟨c, hfound, rfl⟩ := Option.map_eq_some_iff.mp h
    obtain ⟨hc, rfl⟩ := find?_eq_some hfound
    obtain ⟨hwaiting, hroom⟩ := of_mem_admitted hc
    exact .enqueue hwaiting hroom
  | take =>
    simp only [step] at h
    split at h
    · cases h
    · cases h
      exact .take ‹_›

/-! ## Accounts -/

/-- All connections of a listener. -/
def all (l : Listener) : List Connection :=
  l.handshaking ++ l.discarded ++ l.waiting ++ l.queue ++ l.delivered

/-- The connections of a listener whose handshake is complete. -/
def completed (l : Listener) : List Connection :=
  l.waiting ++ l.queue ++ l.delivered

/-- The connections of a listener are accounted for by the events that happened. -/
structure Accounts (events : List ListenerEvent) (l : Listener) : Prop where
  arrived : l.arrived = (arrivals events).length
  conserved : l.all.Perm (arrivals events)
  discarded : l.discarded.map (·.id) = events.filterMap ListenerEvent.discarded?
  completed : (l.completed.map (·.id)).Perm (events.filterMap ListenerEvent.completed?)
  entered : (l.delivered ++ l.queue).map (·.id) = events.filterMap ListenerEvent.entered?
  room : l.queue.length ≤ capacity

/-- At the start there is nothing to account for. -/
theorem accounts_empty : Accounts [] empty where
  arrived := rfl
  conserved := .refl _
  discarded := rfl
  completed := .refl _
  entered := rfl
  room := Nat.zero_le _

section moves

variable (hmoves : l.Moves e l')
include hmoves

/-- An event adds the connection that arrives by it, and moves others. -/
theorem Moves.conserves :
    l'.arrived = l.arrived + e.arrived?.toList.length ∧
      l'.all.Perm (l.all ++ (e.arrived?.map (⟨l.arrived, ·⟩)).toList) := by
  cases hmoves with
  | arrive peer =>
    refine ⟨rfl, List.perm_iff_count.mpr fun a => ?_⟩
    simp only [all, ListenerEvent.arrived?, Option.map_some, Option.toList_some, List.count_append]
    omega
  | complete hc =>
    refine ⟨rfl, List.perm_iff_count.mpr fun a => ?_⟩
    have hcount := (List.perm_cons_erase hc).count_eq a
    simp only [all, ListenerEvent.arrived?, Option.map_none, Option.toList_none, List.count_append,
      List.count_cons, List.count_nil] at hcount ⊢
    omega
  | fail hc | timeOut hc =>
    refine ⟨rfl, List.perm_iff_count.mpr fun a => ?_⟩
    have hcount := (List.perm_cons_erase hc).count_eq a
    simp only [all, discard, ListenerEvent.arrived?, Option.map_none, Option.toList_none,
      List.count_append, List.count_cons, List.count_nil] at hcount ⊢
    omega
  | enqueue hc _ =>
    refine ⟨rfl, List.perm_iff_count.mpr fun a => ?_⟩
    have hcount := (List.perm_cons_erase hc).count_eq a
    simp only [all, ListenerEvent.arrived?, Option.map_none, Option.toList_none, List.count_append,
      List.count_cons, List.count_nil] at hcount ⊢
    omega
  | take hqueue =>
    refine ⟨rfl, List.perm_iff_count.mpr fun a => ?_⟩
    simp only [all, hqueue, ListenerEvent.arrived?, Option.map_none, Option.toList_none,
      List.count_append, List.count_cons, List.count_nil]
    omega

/-- A connection is discarded only when its handshake comes to nothing. -/
theorem Moves.discards :
    l'.discarded.map (·.id) = l.discarded.map (·.id) ++ e.discarded?.toList := by
  cases hmoves with
  | arrive | complete | enqueue | take => exact (List.append_nil _).symm
  | fail | timeOut => exact List.map_append

/-- A handshake is complete only when it becomes so. -/
theorem Moves.completes :
    (l'.completed.map (·.id)).Perm (l.completed.map (·.id) ++ e.completed?.toList) := by
  have hkept : ∀ {l₁ : Listener}, l₁.completed.Perm l.completed →
      (l₁.completed.map (·.id)).Perm (l.completed.map (·.id) ++ []) := fun h => by
    rw [List.append_nil]
    exact h.map _
  cases hmoves with
  | arrive | fail | timeOut => exact hkept (.refl _)
  | @complete c hc =>
    show (List.map _ (l.waiting ++ [c] ++ l.queue ++ l.delivered)).Perm
      (List.map _ (l.waiting ++ l.queue ++ l.delivered) ++ [c.id])
    rw [← List.map_singleton (f := fun c : Connection => c.id), ← List.map_append]
    refine List.Perm.map _ (List.perm_iff_count.mpr fun a => ?_)
    simp only [List.count_append]
    omega
  | @enqueue c hc _ =>
    refine hkept (List.perm_iff_count.mpr fun a => ?_)
    have hcount := (List.perm_cons_erase hc).count_eq a
    simp only [Listener.completed, List.count_append, List.count_cons, List.count_nil] at hcount ⊢
    omega
  | take hqueue =>
    refine hkept (List.perm_iff_count.mpr fun a => ?_)
    simp only [Listener.completed, hqueue, List.count_append, List.count_cons, List.count_nil]
    omega

/-- Connections are delivered in the order in which they entered the queue. -/
theorem Moves.enters :
    (l'.delivered ++ l'.queue).map (·.id) =
      (l.delivered ++ l.queue).map (·.id) ++ e.entered?.toList := by
  cases hmoves with
  | arrive | complete | fail | timeOut => exact (List.append_nil _).symm
  | enqueue =>
    simp only [← List.append_assoc, List.map_append]
    rfl
  | take hqueue =>
    rw [hqueue, ← List.append_cons]
    exact (List.append_nil _).symm

/-- The queue never gets too long. -/
theorem Moves.room (h : l.queue.length ≤ capacity) : l'.queue.length ≤ capacity := by
  cases hmoves with
  | arrive | complete | fail | timeOut => exact h
  | enqueue _ hroom =>
    rw [List.length_append]
    exact hroom
  | take hqueue =>
    rw [hqueue] at h
    exact Nat.le_of_succ_le h

end moves

/-- **An event keeps the accounts.** -/
theorem Accounts.moves (h : Accounts events l) (hmoves : l.Moves e l') :
    Accounts (events ++ [e]) l' where
  arrived := by
    rw [hmoves.conserves.1, arrivals_concat, List.length_append, h.arrived]
    cases e.arrived? <;> rfl
  conserved := by
    rw [arrivals_concat, ← h.arrived]
    exact hmoves.conserves.2.trans (h.conserved.append_right _)
  discarded := by rw [filterMap_concat, ← h.discarded, hmoves.discards]
  completed := by
    rw [filterMap_concat]
    exact hmoves.completes.trans (h.completed.append_right _)
  entered := by rw [filterMap_concat, ← h.entered, hmoves.enters]
  room := hmoves.room h.room

/-- **Every run keeps the accounts.** -/
theorem Accounts.run {before : List ListenerEvent} (h : Accounts before l)
    (hrun : l.run events = some l') : Accounts (before ++ events) l' := by
  induction events generalizing before l with
  | nil =>
    cases hrun
    rw [List.append_nil]
    exact h
  | cons e events ih =>
    obtain ⟨l₁, hstep, hrest⟩ := Option.bind_eq_some_iff.mp hrun
    rw [List.append_cons]
    exact ih (h.moves (moves_of_step hstep)) hrest

/-- **Whatever has happened is accounted for.** -/
theorem accounts_of_run (hrun : empty.run events = some l) : Accounts events l :=
  accounts_empty.run hrun

/-! ## Where connections are -/

/-- Where a connection can be. -/
inductive Stage where
  | handshaking
  | discarded
  | waiting
  | queued
  | delivered
  deriving Repr, DecidableEq

/-- The connections at a stage. -/
def inStage (l : Listener) : Stage → List Connection
  | .handshaking => l.handshaking
  | .discarded => l.discarded
  | .waiting => l.waiting
  | .queued => l.queue
  | .delivered => l.delivered

/-- A connection occurs as often as it occurs at the stages. -/
theorem count_all (c : Connection) :
    l.all.count c = (l.inStage .handshaking).count c + (l.inStage .discarded).count c +
      (l.inStage .waiting).count c + (l.inStage .queued).count c + (l.inStage .delivered).count c := by
  simp only [all, inStage, List.count_append]

theorem count_inStage_le (s : Stage) (c : Connection) : (l.inStage s).count c ≤ l.all.count c := by
  rw [count_all]
  cases s <;> omega

/-- A connection that occurs once is at one stage. -/
theorem existsUnique_inStage (h : l.all.count c = 1) : ∃! s, c ∈ l.inStage s := by
  rw [count_all] at h
  simp only [← List.count_pos_iff]
  have hsome : ∃ s, 0 < (l.inStage s).count c := by
    by_contra hnone
    have hzero : ∀ s, (l.inStage s).count c = 0 := fun s =>
      Nat.eq_zero_of_not_pos fun hpos => hnone ⟨s, hpos⟩
    simp only [hzero] at h
    omega
  obtain ⟨s, hs⟩ := hsome
  -- A second stage would make the sum two.
  refine ⟨s, hs, fun s' hs' => ?_⟩
  cases s <;> cases s' <;> first | rfl | omega

namespace Accounts

variable (h : Accounts events l)
include h

/-- A connection was accepted if it is somewhere. -/
theorem mem_arrivals {s : Stage} (hc : c ∈ l.inStage s) : c ∈ arrivals events := by
  rw [← h.conserved.mem_iff, ← List.count_pos_iff]
  exact Nat.lt_of_lt_of_le (List.count_pos_iff.mpr hc) (count_inStage_le s c)

/-- No connection occurs twice. -/
theorem count_le_one (c : Connection) : l.all.count c ≤ 1 := by
  rw [h.conserved.count_eq]
  exact List.nodup_iff_count_le_one.mp (nodup_arrivals events).of_map c

/-- **A connection that was accepted is at one stage.** -/
theorem existsUnique_inStage (hc : c ∈ arrivals events) : ∃! s, c ∈ l.inStage s := by
  refine Listener.existsUnique_inStage (Nat.le_antisymm (h.count_le_one c) ?_)
  rw [h.conserved.count_eq]
  exact List.count_pos_iff.mpr hc

/-- Connections with one number are one connection. -/
theorem eq_of_id_eq {s s' : Stage} {c' : Connection} (hc : c ∈ l.inStage s) (hc' : c' ∈ l.inStage s')
    (hid : c.id = c'.id) : c = c' :=
  List.inj_on_of_nodup_map (nodup_arrivals events) (h.mem_arrivals hc) (h.mem_arrivals hc') hid

/-- No number occurs twice at a stage. -/
theorem nodup_inStage (s : Stage) : ((l.inStage s).map (·.id)).Nodup :=
  have hnodup : (l.inStage s).Nodup := List.nodup_iff_count_le_one.mpr fun c =>
    Nat.le_trans (count_inStage_le s c) (h.count_le_one c)
  hnodup.map_on fun _ hc _ hc' => h.eq_of_id_eq hc hc'

/-- The handshake of a discarded connection failed or took too long. -/
theorem of_mem_discarded (hc : c ∈ l.discarded) : .fail c.id ∈ events ∨ .timeOut c.id ∈ events := by
  have hid : c.id ∈ events.filterMap ListenerEvent.discarded? := by
    rw [← h.discarded]
    exact List.mem_map_of_mem hc
  obtain ⟨e, he, hdiscarded⟩ := List.mem_filterMap.mp hid
  cases e with
  | fail id =>
    cases hdiscarded
    exact .inl he
  | timeOut id =>
    cases hdiscarded
    exact .inr he
  | arrive | complete | enqueue | take => cases hdiscarded

/-- The handshake of a delivered connection is complete. -/
theorem of_mem_completed (hc : c ∈ l.completed) : .complete c.id ∈ events := by
  have hid : c.id ∈ events.filterMap ListenerEvent.completed? :=
    h.completed.mem_iff.mp (List.mem_map_of_mem hc)
  obtain ⟨e, he, hcompleted⟩ := List.mem_filterMap.mp hid
  cases e with
  | complete id =>
    cases hcompleted
    exact he
  | arrive | fail | timeOut | enqueue | take => cases hcompleted

end Accounts

/-! ## What can happen next -/

/-- A connection is found by its number, if no other has it. -/
theorem find?_id_eq {cs : List Connection} (hnodup : (cs.map (·.id)).Nodup) (hc : c ∈ cs) :
    Connection.find? c.id cs = some c := by
  have hfound : (Connection.find? c.id cs).isSome := by
    rw [Connection.find?, List.find?_isSome]
    exact ⟨c, hc, beq_self_eq_true c.id⟩
  obtain ⟨c', hc'⟩ := Option.isSome_iff_exists.mp hfound
  obtain ⟨hmem, hid⟩ := find?_eq_some hc'
  rw [hc', List.inj_on_of_nodup_map hnodup hmem hc hid]

/-- A handshake can become complete, whatever all others do. -/
theorem step_complete (hnodup : (l.handshaking.map (·.id)).Nodup) (hc : c ∈ l.handshaking) :
    l.step (.complete c.id) =
      some { l with handshaking := l.handshaking.erase c, waiting := l.waiting ++ [c] } := by
  rw [step, find?_id_eq hnodup hc]
  rfl

/-- The first of the waiting connections can enter the queue, if there is room. -/
theorem step_enqueue {rest : List Connection} (hwaiting : l.waiting = c :: rest)
    (hroom : l.queue.length < capacity) :
    l.step (.enqueue c.id) = some { l with waiting := rest, queue := l.queue ++ [c] } := by
  obtain ⟨n, hn⟩ := Nat.exists_eq_add_of_lt hroom
  have hadmitted : l.admitted = c :: rest.take n := by
    rw [admitted, hwaiting, hn, Nat.add_assoc, Nat.add_sub_cancel_left, List.take_succ_cons]
  have hfound : Connection.find? c.id l.admitted = some c := by
    rw [hadmitted]
    exact List.find?_cons_of_pos (beq_self_eq_true c.id)
  rw [step, hfound, Option.map_some, hwaiting, List.erase_cons_head]

/-- The service can take the first connection of the queue. -/
theorem step_take {queue : List Connection} (hqueue : l.queue = c :: queue) :
    l.step .take = some { l with queue, delivered := l.delivered ++ [c] } := by
  rw [step, hqueue]

theorem run_append (before after : List ListenerEvent) :
    l.run (before ++ after) = (l.run before).bind (·.run after) :=
  List.foldlM_append

theorem run_cons (hstep : l.step e = some l') : l.run (e :: events) = l'.run events := by
  rw [run, List.foldlM_cons, hstep]
  rfl

/-- The service can take all connections in the queue. -/
theorem run_takes {queue : List Connection} (hqueue : l.queue = queue) :
    l.run (queue.map fun _ => .take) =
      some { l with queue := [], delivered := l.delivered ++ queue } := by
  induction queue generalizing l with
  | nil =>
    refine congrArg some (?_ : l = { l with queue := [], delivered := _ })
    cases l
    cases hqueue
    rw [List.append_nil]
  | cons c queue ih =>
    refine (run_cons (step_take hqueue)).trans ((ih rfl).trans ?_)
    rw [List.append_assoc]
    rfl

/-- With an empty queue, the service can get all connections that wait, one by one. -/
theorem run_enqueues {waiting : List Connection} (hqueue : l.queue = [])
    (hwaiting : l.waiting = waiting) :
    l.run (waiting.flatMap fun c => [.enqueue c.id, .take]) =
      some { l with waiting := [], queue := [], delivered := l.delivered ++ waiting } := by
  induction waiting generalizing l with
  | nil =>
    refine congrArg some (?_ : l = { l with waiting := [], queue := [], delivered := _ })
    cases l
    cases hqueue
    cases hwaiting
    rw [List.append_nil]
  | cons c waiting ih =>
    have hroom : l.queue.length < capacity := by
      rw [hqueue]
      exact Nat.zero_lt_succ 127
    have htake : ({ l with waiting, queue := l.queue ++ [c] } : Listener).step .take =
        some { l with waiting, queue := [], delivered := l.delivered ++ [c] } :=
      step_take (by rw [hqueue]; rfl)
    refine (run_cons (step_enqueue hwaiting hroom)).trans ((run_cons htake).trans ?_)
    refine (ih rfl rfl).trans ?_
    rw [List.append_assoc]
    rfl

/-- The events by which the service takes all connections whose handshake is complete. -/
def drain (l : Listener) : List ListenerEvent :=
  l.queue.map (fun _ => .take) ++ l.waiting.flatMap fun c => [.enqueue c.id, .take]

/-- The service can take all connections whose handshake is complete. -/
theorem run_drain (l : Listener) :
    l.run l.drain =
      some { l with waiting := [], queue := [], delivered := l.delivered ++ l.queue ++ l.waiting } := by
  rw [drain, run_append, run_takes rfl]
  exact run_enqueues rfl rfl

/-- The service takes connections by events of no handshake. -/
theorem of_mem_drain (he : e ∈ l.drain) : e = .take ∨ ∃ id, e = .enqueue id := by
  rcases List.mem_append.mp he with htake | hwaiting
  · obtain ⟨_, _, rfl⟩ := List.mem_map.mp htake
    exact .inl rfl
  · obtain ⟨c, _, hmem⟩ := List.mem_flatMap.mp hwaiting
    rcases List.mem_pair.mp hmem with rfl | rfl
    · exact .inr ⟨c.id, rfl⟩
    · exact .inl rfl

/-- **A connection whose handshake goes on can be delivered with nothing happening to the handshakes of
the others.** -/
theorem exists_delivery (hnodup : (l.handshaking.map (·.id)).Nodup) (hc : c ∈ l.handshaking) :
    ∃ after l', l.run after = some l' ∧ c ∈ l'.delivered ∧
      ∀ e ∈ after, e = .complete c.id ∨ e = .take ∨ ∃ id, e = .enqueue id := by
  have hdrain := (run_cons (step_complete hnodup hc)).trans (run_drain _)
  refine ⟨_, _, hdrain, by simp, fun e he => ?_⟩
  rcases List.mem_cons.mp he with rfl | he
  · exact .inl rfl
  · exact .inr (of_mem_drain he)

/-! ## Nothing is lost -/

/-- What holds of a listener after some events. -/
structure LosesNothing (events : List ListenerEvent) (l : Listener) : Prop where
  /-- Every connection that was accepted is at one stage. -/
  placed : ∀ c ∈ arrivals events, ∃! s, c ∈ l.inStage s
  /-- What is at a stage was accepted, with the address that it has. -/
  genuine : ∀ s, ∀ c ∈ l.inStage s, c ∈ arrivals events
  /-- No connection is twice at a stage; none is delivered twice. -/
  single : ∀ s, ((l.inStage s).map (·.id)).Nodup
  /-- At most 128 connections are in the queue. -/
  room : l.queue.length ≤ 128
  /-- A connection is discarded only if its handshake failed or took too long. -/
  discarded : ∀ c ∈ l.discarded, .fail c.id ∈ events ∨ .timeOut c.id ∈ events
  /-- The handshake of a connection that the service has got is complete. -/
  delivered : ∀ c ∈ l.delivered, .complete c.id ∈ events
  /-- The service gets connections in the order in which they entered the queue. -/
  inOrder : (l.delivered ++ l.queue).map (·.id) = events.filterMap ListenerEvent.entered?
  /-- A connection from any address can be accepted. -/
  accepts : ∀ peer, ∃ l', l.step (.arrive peer) = some l' ∧
    l'.handshaking = l.handshaking ++ [⟨l.arrived, peer⟩]
  /-- Any handshake can become complete; if none waits before it and there is room, the connection can
  enter the queue. -/
  completes : ∀ c ∈ l.handshaking, ∃ l₁, l.step (.complete c.id) = some l₁ ∧
    l₁.waiting = l.waiting ++ [c] ∧
    (l.waiting = [] → l.queue.length < 128 →
      ∃ l₂, l₁.step (.enqueue c.id) = some l₂ ∧ l₂.queue = l.queue ++ [c])
  /-- The first connection that waits can enter the queue if there is room. -/
  enters : ∀ c rest, l.waiting = c :: rest → l.queue.length < 128 →
    ∃ l', l.step (.enqueue c.id) = some l' ∧ l'.waiting = rest ∧ l'.queue = l.queue ++ [c]
  /-- Any connection whose handshake goes on can be delivered while all other handshakes stand still. -/
  unblocked : ∀ c ∈ l.handshaking, ∃ after l', l.run after = some l' ∧ c ∈ l'.delivered ∧
    ∀ e ∈ after, e = .complete c.id ∨ e = .take ∨ ∃ id, e = .enqueue id

/-- **A listener loses no connection, doubles none and lets none hold up another**, whatever has
happened. -/
theorem loses_nothing (hrun : empty.run events = some l) : LosesNothing events l :=
  have haccounts := accounts_of_run hrun
  { placed := fun _ hc => haccounts.existsUnique_inStage hc
    genuine := fun _ _ hc => haccounts.mem_arrivals hc
    single := haccounts.nodup_inStage
    room := haccounts.room
    discarded := fun _ hc => haccounts.of_mem_discarded hc
    delivered := fun _ hc => haccounts.of_mem_completed (List.mem_append_right _ hc)
    inOrder := haccounts.entered
    accepts := fun _ => ⟨_, rfl, rfl⟩
    completes := fun _ hc => by
      refine ⟨_, step_complete (haccounts.nodup_inStage .handshaking) hc, rfl, fun hwaiting hroom => ?_⟩
      exact ⟨_, step_enqueue (by rw [hwaiting]; rfl) hroom, rfl⟩
    enters := fun _ _ hwaiting hroom => ⟨_, step_enqueue hwaiting hroom, rfl, rfl⟩
    unblocked := fun _ hc => exists_delivery (haccounts.nodup_inStage .handshaking) hc }

/-- The first visitor does nothing; the second one is served, and the third one breaks off. -/
theorem loses_nothing_sample :
    LosesNothing
      [.arrive "10.0.0.1:4000", .arrive "10.0.0.2:4000", .complete 1, .arrive "10.0.0.3:4000",
        .enqueue 1, .fail 2, .take]
      ⟨3, [⟨0, "10.0.0.1:4000"⟩], [⟨2, "10.0.0.3:4000"⟩], [], [], [⟨1, "10.0.0.2:4000"⟩]⟩ :=
  loses_nothing rfl

end Listener

end TenantOnboarding.Tls
