import TenantOnboarding.Json.Shape

/-!
# Types with a JSON form

A type with a JSON form has a shape, a way to write its values and a way to take them from values of
that shape.
-/

namespace TenantOnboarding.Json

/-- A type with a JSON form. -/
class Coded (α : Type) where
  /-- What a text must hold to be read. -/
  shape : Shape
  /-- How a value is written. -/
  toValue : α → Value
  /-- How a value of the shape is taken. -/
  ofValue? : Value → Option α

/-- Reads a whole text. -/
def parse (α : Type) [Coded α] (source : Source) : Except Fault α :=
  match (Coded.shape α).parse source with
  | .error fault => .error fault
  | .ok v =>
    match Coded.ofValue? v with
    | some a => .ok a
    | none => .error .shape

/-- The compact text of a value. -/
def print {α : Type} [Coded α] (a : α) : String :=
  (Coded.toValue a).compact

/-- A 64-bit integer as a value. -/
def Value.int64 (i : Int64) : Value :=
  .int i.toInt

/-- The 64-bit integer that a value is. -/
def Value.int64? : Value → Option Int64
  | .int i =>
    if -9223372036854775808 ≤ i ∧ i ≤ 9223372036854775807 then some (Int64.ofInt i) else none
  | _ => none

/-- A text that may be missing, as a value. -/
def Value.maybeText (s : Option String) : Value :=
  .optional (s.map .text)

end TenantOnboarding.Json
