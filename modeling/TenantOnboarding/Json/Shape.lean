import TenantOnboarding.Json.Skip
import TenantOnboarding.Json.Untyped

/-!
# Shapes

A shape says what a text must hold: a text, an integer between bounds, one word of several, a record
with named fields, and so on. `Shape.read` reads a value of a shape. A record is written as an object,
in which fields may stand in any order and members that are no field are passed over, or as a list of
all its fields. A field that may be missing is `null` when it is.
-/

namespace TenantOnboarding.Json

mutual

/-- What a text must hold. -/
inductive Shape where
  /-- A text. -/
  | text
  /-- An integer between two bounds, both included. -/
  | integer (least most : Int)
  /-- `true` or `false`. -/
  | boolean
  /-- One of several words, as a text or as the only member of an object whose value is `null`. -/
  | word (names : List String)
  /-- `null` or a value of another shape. -/
  | optional (inner : Shape)
  /-- A list of values of one shape. -/
  | list (inner : Shape)
  /-- A record. -/
  | record (fields : Fields)
  /-- Any value. -/
  | any

/-- The fields of a record, in the order in which they are declared. -/
inductive Fields where
  | nil
  | cons (name : String) (shape : Shape) (more : Fields)

end

/-- The 64-bit integers. -/
def Shape.int64 : Shape := .integer (-9223372036854775808) 9223372036854775807

/-- The fields of a list of names and shapes. -/
def Fields.ofList : List (String × Shape) → Fields
  | [] => .nil
  | (name, shape) :: more => .cons name shape (Fields.ofList more)

/-- A record of fields given as a list. -/
def Shape.recordOf (fields : List (String × Shape)) : Shape :=
  .record (Fields.ofList fields)

/-! ## Values of one kind -/

/-- The fault of a value of the wrong kind. A scalar is read first and its own fault is told; so is a
character that starts no value. -/
def wrongKind : Source → Stop
  | [] => ⟨.early, []⟩
  | some 'n' :: rest => found (readWord ['u', 'l', 'l'] .null rest)
  | some 't' :: rest => found (readWord ['r', 'u', 'e'] .null rest)
  | some 'f' :: rest => found (readWord ['a', 'l', 's', 'e'] .null rest)
  | some '\x22' :: rest => found (readQuoted rest)
  | some '[' :: rest => ⟨.shape, some '[' :: rest⟩
  | some '\x7b' :: rest => ⟨.shape, some '\x7b' :: rest⟩
  | c :: rest =>
    if c = some '-' ∨ isDigit c then found (readNumber (c :: rest)) else ⟨.malformed, c :: rest⟩
where
  /-- A scalar that was read is of the wrong kind. -/
  found {α : Type} : Outcome α → Stop
    | .error stop => stop
    | .ok (_, rest) => ⟨.shape, rest⟩

/-- A text. -/
def readText (source : Source) : Outcome String :=
  match skipSpace source with
  | some '\x22' :: rest => readQuoted rest
  | rest => .error (wrongKind rest)

/-- An integer between two bounds. -/
def readInteger (least most : Int) (source : Source) : Outcome Int :=
  match skipSpace source with
  | c :: rest =>
    if c = some '-' ∨ isDigit c then
      match readNumber (c :: rest) with
      | .error stop => .error stop
      | .ok (.int i, rest) => if least ≤ i ∧ i ≤ most then .ok (i, rest) else .error ⟨.shape, rest⟩
      | .ok (.real, rest) => .error ⟨.shape, rest⟩
    else .error (wrongKind (c :: rest))
  | [] => .error ⟨.early, []⟩

/-- A truth value. -/
def readBoolean (source : Source) : Outcome Bool :=
  match skipSpace source with
  | some 't' :: rest =>
    match literal ['r', 'u', 'e'] rest with
    | .error stop => .error stop
    | .ok rest => .ok (true, rest)
  | some 'f' :: rest =>
    match literal ['a', 'l', 's', 'e'] rest with
    | .error stop => .error stop
    | .ok rest => .ok (false, rest)
  | rest => .error (wrongKind rest)

/-- A text that is one of several words. -/
def readName (names : List String) (source : Source) : Outcome String :=
  match readText source with
  | .error stop => .error stop
  | .ok (s, rest) => if names.contains s then .ok (s, rest) else .error ⟨.shape, rest⟩

/-- The value `null`. -/
def readNull (source : Source) : Except Stop Source :=
  match skipSpace source with
  | some 'n' :: rest => literal ['u', 'l', 'l'] rest
  | rest => .error (wrongKind rest)

/-- One of several words, in either of its two written forms. -/
def readWordOf (names : List String) (depth : Nat) (source : Source) : Outcome String :=
  match skipSpace source with
  | [] => .error ⟨.early, []⟩
  | some '\x22' :: rest => readName names (some '\x22' :: rest)
  | some '\x7b' :: rest =>
    if depth ≤ 1 then .error ⟨.malformed, some '\x7b' :: rest⟩
    else match readName names rest with
      | .error stop => .error stop
      | .ok (s, rest) =>
        match readColon rest with
        | .error stop => .error stop
        | .ok rest =>
          match readNull rest with
          | .error stop => .error stop
          | .ok rest =>
            match closeObject rest with
            | .error stop => .error stop
            | .ok rest => .ok (s, rest)
  | rest => .error ⟨.malformed, rest⟩

/-- A list, each element read by `reader`. -/
def readList {α : Type} (reader : Reader α) (depth : Nat) (source : Source) : Outcome (List α) :=
  match skipSpace source with
  | some '[' :: rest =>
    if depth ≤ 1 then .error ⟨.malformed, some '[' :: rest⟩
    else closing closeList (readElements (reader (depth - 1)) (rest.length + 1) [] rest)
  | rest => .error (wrongKind rest)

/-! ## Records -/

/-- A field with its reader. -/
structure Field where
  /-- The name of the member that holds it. -/
  name : String
  /-- Whether an object may lack it. -/
  canLack : Bool
  /-- How its value is read. -/
  reader : Reader Value

/-- The members of an object that are fields, in the order of reading. A field that comes twice is a
fault, told before its value is read. -/
def readFields (fields : List Field) (depth : Nat) :
    (fuel : Nat) → (first : Bool) → (done : List (String × Value)) → Source →
    Outcome (List (String × Value))
  | 0, _, _, source => .error ⟨.early, source⟩
  | fuel + 1, first, done, source =>
    match nextMember first source with
    | .error stop => .error stop
    | .ok none => .ok (done, skipSpace source)
    | .ok (some (name, rest)) =>
      match fields.find? (·.name == name) with
      | some field =>
        if (done.lookup name).isSome then .error ⟨.shape, rest⟩
        else match readColon rest with
          | .error stop => .error stop
          | .ok rest =>
            match field.reader depth rest with
            | .error stop => .error stop
            | .ok (v, rest) => readFields fields depth fuel false ((name, v) :: done) rest
      | none =>
        match readColon rest with
        | .error stop => .error stop
        | .ok rest =>
          match skipValue rest with
          | .error stop => .error stop
          | .ok rest => readFields fields depth fuel false done rest

/-- The fields in declared order, if none is lacking that must be there. -/
def arrange (done : List (String × Value)) : List Field → Option (List (String × Value))
  | [] => some []
  | field :: fields =>
    match done.lookup field.name with
    | some v => (arrange done fields).map ((field.name, v) :: ·)
    | none =>
      if field.canLack then (arrange done fields).map ((field.name, .null) :: ·) else none

/-- A record written as an object, from behind the bracket. -/
def readObjectRecord (fields : List Field) (depth : Nat) (source : Source) :
    Outcome (List (String × Value)) :=
  match readFields fields depth (source.length + 1) true [] source with
  | .error stop => .error stop
  | .ok (done, rest) =>
    match arrange done fields with
    | some members => .ok (members, rest)
    | none => .error ⟨.shape, rest⟩

/-- A record written as a list, from behind the bracket: all its fields in declared order. -/
def readListRecord (depth : Nat) : (first : Bool) → List Field → Source →
    Outcome (List (String × Value))
  | _, [], source => .ok ([], source)
  | first, field :: fields, source =>
    match nextElement first source with
    | .error stop => .error stop
    | .ok none => .error ⟨.shape, source⟩
    | .ok (some rest) =>
      match field.reader depth rest with
      | .error stop => .error stop
      | .ok (v, rest) =>
        match readListRecord depth false fields rest with
        | .error stop => .error stop
        | .ok (members, rest) => .ok ((field.name, v) :: members, rest)

/-- A record, in either of its two written forms. -/
def readRecord (fields : List Field) (depth : Nat) (source : Source) :
    Outcome (List (String × Value)) :=
  match skipSpace source with
  | some '[' :: rest =>
    if depth ≤ 1 then .error ⟨.malformed, some '[' :: rest⟩
    else closing closeList (readListRecord (depth - 1) true fields rest)
  | some '\x7b' :: rest =>
    if depth ≤ 1 then .error ⟨.malformed, some '\x7b' :: rest⟩
    else closing closeObject (readObjectRecord fields (depth - 1) rest)
  | rest => .error (wrongKind rest)

/-! ## Shapes -/

/-- An outcome with its value put into a value of JSON. -/
def asValue {α : Type} (f : α → Value) : Outcome α → Outcome Value
  | .error stop => .error stop
  | .ok (a, rest) => .ok (f a, rest)

/-- Whether a field of a shape may be lacking in an object. -/
def Shape.canLack : Shape → Bool
  | .optional _ => true
  | _ => false

mutual

/-- Reads a value of a shape. -/
def Shape.read : Shape → Reader Value
  | .text => fun _ source => asValue .text (readText source)
  | .integer least most => fun _ source => asValue .int (readInteger least most source)
  | .boolean => fun _ source => asValue .boolean (readBoolean source)
  | .word names => fun depth source => asValue .text (readWordOf names depth source)
  | .optional inner => fun depth source =>
    match skipSpace source with
    | some 'n' :: rest => readWord ['u', 'l', 'l'] .null rest
    | rest => inner.read depth rest
  | .list inner => fun depth source => asValue .list (readList inner.read depth source)
  | .record fields => fun depth source => asValue .object (readRecord fields.readers depth source)
  | .any => readAny

/-- The fields of a record with their readers. -/
def Fields.readers : Fields → List Field
  | .nil => []
  | .cons name shape more => ⟨name, shape.canLack, shape.read⟩ :: more.readers

end

/-- Reads a whole text as a value of a shape. -/
def Shape.parse (shape : Shape) (source : Source) : Except Fault Value :=
  readWhole shape.read source

end TenantOnboarding.Json
