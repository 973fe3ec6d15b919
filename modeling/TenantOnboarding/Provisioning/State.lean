import TenantOnboarding.Json.Coded

/-!
# The course of a provisioning

A provisioning starts when an email has been looked up and ends in one of three states: the user
existed, was created, or nothing was created. `State.next` says which event leads where; creation
begins only with a request that was found valid.
-/

namespace TenantOnboarding.Provisioning

open TenantOnboarding.Json

/-- Where a provisioning stands. -/
inductive State where
  /-- The email is being looked up. -/
  | checked
  /-- The email belongs to an organization already. -/
  | exists
  /-- The email belongs nowhere. -/
  | notFound
  /-- The organization and its owner are being written. -/
  | creating
  /-- The organization and its owner are there. -/
  | created
  /-- Nothing was written. -/
  | failed
  deriving Repr, DecidableEq

/-- What may happen to a provisioning. -/
inductive Event where
  | userFound
  | userMissing
  | reject
  | beginCreate
  | commit
  | abort
  deriving Repr, DecidableEq

namespace State

/-- The name of a state. -/
def name : State → String
  | checked => "checked"
  | «exists» => "exists"
  | notFound => "not_found"
  | creating => "creating"
  | created => "created"
  | failed => "failed"

/-- All states. -/
def all : List State := [checked, «exists», notFound, creating, created, failed]

/-- The state of a name. -/
def ofName? (s : String) : Option State :=
  all.find? (·.name == s)

/-- Whether a provisioning in this state is over. -/
def isTerminal : State → Bool
  | «exists» | created | failed => true
  | checked | notFound | creating => false

end State

instance : Coded State where
  shape := .word (State.all.map State.name)
  toValue s := .text s.name
  ofValue? v := v.text? >>= State.ofName?

namespace Event

/-- The name of an event. -/
def name : Event → String
  | userFound => "user_found"
  | userMissing => "user_missing"
  | reject => "reject"
  | beginCreate => "begin_create"
  | commit => "commit"
  | abort => "abort"

/-- All events. -/
def all : List Event := [userFound, userMissing, reject, beginCreate, commit, abort]

/-- The event of a name. -/
def ofName? (s : String) : Option Event :=
  all.find? (·.name == s)

end Event

/-! ## Transitions -/

/-- Why an event has no effect. -/
inductive TransitionFailure where
  /-- The event cannot happen in this state. -/
  | invalid (state : State) (event : Event)
  /-- The request was not found valid. -/
  | guardFailed
  /-- The provisioning is over. -/
  | terminal (state : State)
  deriving Repr, DecidableEq

/-- The description for the records. -/
def TransitionFailure.description : TransitionFailure → String
  | invalid state event =>
    "Invalid transition: cannot transition from " ++ state.name ++ " to unknown via " ++ event.name
  | guardFailed => "Guard condition failed: Cannot create from an unvalidated request"
  | terminal state =>
    "Terminal state: " ++ state.name ++ " is a terminal state and cannot transition"

/-- The state after an event. `valid` says whether the request was found valid, if it was examined. -/
def State.next (state : State) (event : Event) (valid : Option Bool) :
    Except TransitionFailure State :=
  if state.isTerminal then .error (.terminal state)
  else match state, event with
    | .checked, .userFound => .ok .exists
    | .checked, .userMissing => .ok .notFound
    | .notFound, .reject => .ok .failed
    | .notFound, .beginCreate => if valid = some true then .ok .creating else .error .guardFailed
    | .creating, .commit => .ok .created
    | .creating, .abort => .ok .failed
    | state, event => .error (.invalid state event)

end TenantOnboarding.Provisioning
