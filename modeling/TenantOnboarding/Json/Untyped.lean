import TenantOnboarding.Json.Number
import TenantOnboarding.Json.Value

/-!
# Reading a value of any shape

The value that comes next, whatever it is. Texts are kept, so their characters are checked, and lists
and objects may lie only so deep one inside the other. After a fault inside a list or an object the
reading stops behind the closing bracket, if that comes next.
-/

namespace TenantOnboarding.Json

/-- The rest of a word that stands for the value `v`. -/
def readWord (rest : List Char) (v : Value) (source : Source) : Outcome Value :=
  match literal rest source with
  | .error stop => .error stop
  | .ok rest => .ok (v, rest)

/-- A number as a value. -/
def readNumberValue (source : Source) : Outcome Value :=
  match readNumber source with
  | .error stop => .error stop
  | .ok (.int i, rest) => .ok (.int i, rest)
  | .ok (.real, rest) =>
    .ok (.real (String.ofList ((source.take (source.length - rest.length)).filterMap id)), rest)

/-- Where reading stops after a list: behind its bracket, or behind a comma that should not be there. -/
def closeList (source : Source) : Except Stop Source :=
  match skipSpace source with
  | [] => .error ⟨.early, []⟩
  | some ']' :: rest => .ok rest
  | some ',' :: rest => .error ⟨.malformed, skipSpace rest⟩
  | rest => .error ⟨.malformed, rest⟩

/-- Where reading stops after an object: behind its bracket. -/
def closeObject (source : Source) : Except Stop Source :=
  match skipSpace source with
  | [] => .error ⟨.early, []⟩
  | some '\x7d' :: rest => .ok rest
  | rest => .error ⟨.malformed, rest⟩

/-- The outcome of a container whose contents had the outcome `contents`: its end is looked for in
either case, and a fault of the contents comes first. -/
def closing {α : Type} (close : Source → Except Stop Source) (contents : Outcome α) : Outcome α :=
  match contents with
  | .ok (a, rest) =>
    match close rest with
    | .error stop => .error stop
    | .ok rest => .ok (a, rest)
  | .error stop =>
    match close stop.rest with
    | .error stop' => .error ⟨stop.fault, stop'.rest⟩
    | .ok rest => .error ⟨stop.fault, rest⟩

/-- What comes next in a list: `none` at its bracket, which is left unread. `first` says that no element
has been read. -/
def nextElement (first : Bool) (source : Source) : Except Stop (Option Source) :=
  match skipSpace source with
  | [] => .error ⟨.early, []⟩
  | some ']' :: _ => .ok none
  | some ',' :: rest =>
    if first then .ok (some (some ',' :: rest))
    else match skipSpace rest with
      | [] => .error ⟨.early, []⟩
      | some ']' :: rest => .error ⟨.malformed, some ']' :: rest⟩
      | rest => .ok (some rest)
  | rest => if first then .ok (some rest) else .error ⟨.malformed, rest⟩

/-- What comes next in an object: `none` at its bracket, which is left unread, or else the name of a
member. `first` says that no member has been read. -/
def nextMember (first : Bool) (source : Source) : Except Stop (Option (String × Source)) :=
  let named (rest : Source) : Except Stop (Option (String × Source)) :=
    match readQuoted rest with
    | .error stop => .error stop
    | .ok (name, rest) => .ok (some (name, rest))
  match skipSpace source with
  | [] => .error ⟨.early, []⟩
  | some '\x7d' :: _ => .ok none
  | some ',' :: rest =>
    if first then .error ⟨.malformed, some ',' :: rest⟩
    else match skipSpace rest with
      | [] => .error ⟨.early, []⟩
      | some '\x22' :: rest => named rest
      | rest => .error ⟨.malformed, rest⟩
  | some '\x22' :: rest => if first then named rest else .error ⟨.malformed, some '\x22' :: rest⟩
  | rest => .error ⟨.malformed, rest⟩

/-- The colon behind the name of a member. -/
def readColon (source : Source) : Except Stop Source :=
  match skipSpace source with
  | [] => .error ⟨.early, []⟩
  | some ':' :: rest => .ok rest
  | rest => .error ⟨.malformed, rest⟩

/-- The elements of a list, each read by `reader`, up to its bracket; `fuel` bounds their number. -/
def readElements {α : Type} (reader : Source → Outcome α) :
    (fuel : Nat) → (done : List α) → Source → Outcome (List α)
  | 0, _, source => .error ⟨.early, source⟩
  | fuel + 1, done, source =>
    match nextElement done.isEmpty source with
    | .error stop => .error stop
    | .ok none => .ok (done.reverse, skipSpace source)
    | .ok (some rest) =>
      match reader rest with
      | .error stop => .error stop
      | .ok (a, rest) => readElements reader fuel (a :: done) rest

/-- The members of an object, each value read by `reader`, up to its bracket; `fuel` bounds their
number. -/
def readMembers {α : Type} (reader : Source → Outcome α) :
    (fuel : Nat) → (done : List (String × α)) → Source → Outcome (List (String × α))
  | 0, _, source => .error ⟨.early, source⟩
  | fuel + 1, done, source =>
    match nextMember done.isEmpty source with
    | .error stop => .error stop
    | .ok none => .ok (done.reverse, skipSpace source)
    | .ok (some (name, rest)) =>
      match readColon rest with
      | .error stop => .error stop
      | .ok rest =>
        match reader rest with
        | .error stop => .error stop
        | .ok (a, rest) => readMembers reader fuel ((name, a) :: done) rest

/-- The value that comes next. The first number counts the containers that may still be opened, and one
more. -/
def readAny : Reader Value
  | depth, source =>
    match skipSpace source with
    | [] => .error ⟨.early, []⟩
    | some 'n' :: rest => readWord ['u', 'l', 'l'] .null rest
    | some 't' :: rest => readWord ['r', 'u', 'e'] (.boolean true) rest
    | some 'f' :: rest => readWord ['a', 'l', 's', 'e'] (.boolean false) rest
    | some '\x22' :: rest =>
      match readQuoted rest with
      | .error stop => .error stop
      | .ok (s, rest) => .ok (.text s, rest)
    | some '-' :: rest => readNumberValue (some '-' :: rest)
    | some '[' :: rest =>
      match depth with
      | depth + 2 =>
        match closing closeList
            (readElements (fun s => readAny (depth + 1) s) (rest.length + 1) [] rest) with
        | .error stop => .error stop
        | .ok (vs, rest) => .ok (.list vs, rest)
      | _ => .error ⟨.malformed, some '[' :: rest⟩
    | some '\x7b' :: rest =>
      match depth with
      | depth + 2 =>
        match closing closeObject
            (readMembers (fun s => readAny (depth + 1) s) (rest.length + 1) [] rest) with
        | .error stop => .error stop
        | .ok (ms, rest) => .ok (.object ms, rest)
      | _ => .error ⟨.malformed, some '\x7b' :: rest⟩
    | c :: rest =>
      if isDigit c then readNumberValue (c :: rest) else .error ⟨.malformed, c :: rest⟩

end TenantOnboarding.Json
