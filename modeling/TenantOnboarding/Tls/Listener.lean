/-!
# Connections on their way to the service

Connections arrive and shake hands side by side, so that a visitor who does nothing holds up nobody. A
connection whose handshake is complete waits for room in a queue, from which the service takes them.
Room is given in order of completion; those who have been given room enter as they get to run.
`Listener.step` says what may happen next.
-/

namespace TenantOnboarding.Tls

/-- A connection that was accepted. -/
structure Connection where
  /-- How many connections were accepted before. -/
  id : Nat
  /-- The address of its other side. -/
  peer : String
  deriving Repr, DecidableEq

/-- The connections of a listener. -/
structure Listener where
  /-- How many were accepted. -/
  arrived : Nat
  /-- Those whose handshake goes on. -/
  handshaking : List Connection
  /-- Those whose handshake failed or took too long. -/
  discarded : List Connection
  /-- Those whose handshake is complete and that are not in the queue yet, the first to complete first. -/
  waiting : List Connection
  /-- Those in the queue, the next one first. -/
  queue : List Connection
  /-- Those that the service has got, the first one first. -/
  delivered : List Connection
  deriving Repr, DecidableEq

/-- What may happen to a listener. -/
inductive ListenerEvent where
  /-- A connection from an address is accepted. -/
  | arrive (peer : String)
  /-- A handshake is complete. -/
  | complete (id : Nat)
  /-- A handshake failed. -/
  | fail (id : Nat)
  /-- A handshake took too long. -/
  | timeOut (id : Nat)
  /-- A connection that has been given room enters the queue. -/
  | enqueue (id : Nat)
  /-- The service takes a connection from the queue. -/
  | take
  deriving Repr, DecidableEq

/-- The connection of a number among some connections. -/
def Connection.find? (id : Nat) (cs : List Connection) : Option Connection :=
  cs.find? (·.id == id)

namespace Listener

/-- A listener at its start. -/
def empty : Listener := ⟨0, [], [], [], [], []⟩

/-- How many connections the queue has room for. -/
def capacity : Nat := 128

/-- The waiting connections that have been given room. -/
def admitted (l : Listener) : List Connection :=
  l.waiting.take (capacity - l.queue.length)

/-- The listener after a handshake came to nothing. -/
def discard (l : Listener) (c : Connection) : Listener :=
  { l with handshaking := l.handshaking.erase c, discarded := l.discarded ++ [c] }

/-- The listener after an event, if the event can happen. -/
def step (l : Listener) : ListenerEvent → Option Listener
  | .arrive peer =>
    some { l with
      arrived := l.arrived + 1
      handshaking := l.handshaking ++ [⟨l.arrived, peer⟩] }
  | .complete id =>
    (Connection.find? id l.handshaking).map fun c =>
      { l with handshaking := l.handshaking.erase c, waiting := l.waiting ++ [c] }
  | .fail id => (Connection.find? id l.handshaking).map l.discard
  | .timeOut id => (Connection.find? id l.handshaking).map l.discard
  | .enqueue id =>
    (Connection.find? id l.admitted).map fun c =>
      { l with waiting := l.waiting.erase c, queue := l.queue ++ [c] }
  | .take =>
    match l.queue with
    | [] => none
    | c :: queue => some { l with queue, delivered := l.delivered ++ [c] }

/-- The listener after some events, if they can happen one after another. -/
def run (l : Listener) (events : List ListenerEvent) : Option Listener :=
  events.foldlM step l

end Listener

end TenantOnboarding.Tls
