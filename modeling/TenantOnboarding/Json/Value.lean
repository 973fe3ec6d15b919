import TenantOnboarding.Json.Quoted

/-!
# Values and their compact text

A value keeps the members of an object in the order in which they are written. `render` writes it
without blanks.
-/

namespace TenantOnboarding.Json

/-- A JSON value. -/
inductive Value where
  | null
  | boolean (b : Bool)
  | int (i : Int)
  /-- A number that is no integer, as it is written. -/
  | real (written : String)
  | text (s : String)
  | list (vs : List Value)
  | object (members : List (String × Value))
  deriving Repr

/-- A value that may be missing is written as `null` when it is. -/
def Value.optional : Option Value → Value
  | some v => v
  | none => .null

mutual

/-- The compact text of a value. -/
def Value.render : Value → List Char
  | .null => "null".toList
  | .boolean true => "true".toList
  | .boolean false => "false".toList
  | .int i => Text.numeral i
  | .real written => written.toList
  | .text s => writeQuoted s
  | .list vs => '[' :: (renderElements vs ++ [']'])
  | .object members => '\x7b' :: (renderMembers members ++ ['\x7d'])

/-- The elements of a list, with commas between them. -/
def renderElements : List Value → List Char
  | [] => []
  | [v] => v.render
  | v :: w :: vs => v.render ++ ',' :: renderElements (w :: vs)

/-- The members of an object, with commas between them. -/
def renderMembers : List (String × Value) → List Char
  | [] => []
  | [(k, v)] => writeQuoted k ++ ':' :: v.render
  | (k, v) :: m :: ms => writeQuoted k ++ ':' :: (v.render ++ ',' :: renderMembers (m :: ms))

end

/-- The compact text of a value as a string. -/
def Value.compact (v : Value) : String :=
  String.ofList v.render

/-- The value of a member of an object. -/
def Value.member? (v : Value) (name : String) : Option Value :=
  match v with
  | .object members => members.lookup name
  | _ => none

/-- The text that a value is. -/
def Value.text? : Value → Option String
  | .text s => some s
  | _ => none

/-- The integer that a value is. -/
def Value.int? : Value → Option Int
  | .int i => some i
  | _ => none

/-- The truth value that a value is. -/
def Value.boolean? : Value → Option Bool
  | .boolean b => some b
  | _ => none

/-- A value that may be `null`, read by `f` when it is not. -/
def Value.optional? {α : Type} (f : Value → Option α) : Value → Option (Option α)
  | .null => some none
  | v => (f v).map some

end TenantOnboarding.Json
