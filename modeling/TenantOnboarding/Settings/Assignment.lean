import TenantOnboarding.Settings.Basic
import TenantOnboarding.Text.Alphanumeric
import TenantOnboarding.Text.Blank

/-!
# Assignments

A line of a settings file assigns a value to a name. Parts of a value may stand in quotes; a dollar sign
stands in front of a name whose value is put in its place, unless single quotes are around it; and a
number sign behind a blank begins a comment.
-/

namespace TenantOnboarding.Settings

/-- The mark that begins a comment. -/
def commentMark : Char := '#'

/-! ## Values -/

/-- In which quotes a character of a value stands. -/
inductive Quotes where
  | none
  | single
  | double
  deriving Repr, DecidableEq

/-- Whether a character belongs to a name whose value is put in. -/
inductive Naming where
  | none
  /-- The name goes on as long as letters and numbers do. -/
  | bare (name : List Char)
  /-- The name goes on to the closing brace. -/
  | braced (name : List Char)
  deriving Repr, DecidableEq

/-- How far the reading of a value has come. -/
structure ValueReader where
  quotes : Quotes
  /-- Whether a backslash stands in front. -/
  escaped : Bool
  /-- Whether the value is over and only blanks or a comment may follow. -/
  isOver : Bool
  naming : Naming
  /-- The value so far, last character first. -/
  written : List Char
  deriving Repr, DecidableEq

/-- A value of which nothing has been read. -/
def ValueReader.start : ValueReader := ⟨.none, false, false, .none, []⟩

/-- A value with the value of a name put in. The name is given last character first. -/
def ValueReader.putIn (r : ValueReader) (lookup : Lookup) (name : List Char) : ValueReader :=
  let value := (lookup (String.ofList name.reverse)).getD ""
  { r with naming := .none, written := value.toList.reverse ++ r.written }

/-- What a character stands for behind a backslash. -/
def escapedChar? (c : Char) : Option Char :=
  if c = 'n' then some '\n'
  else if ['\\', '\x27', '\x22', '$', ' '].contains c then some c
  else none

/-- Reads a character of a value in which no name goes on. -/
def ValueReader.plain (r : ValueReader) (c : Char) : ValueReader :=
  if c = '$' then { r with naming := .bare [] }
  else if r.quotes = .double then
    if c = '\x22' then { r with quotes := .none }
    else if c = '\\' then { r with escaped := true }
    else { r with written := c :: r.written }
  else if c = '\x27' then { r with quotes := .single }
  else if c = '\x22' then { r with quotes := .double }
  else if c = '\\' then { r with escaped := true }
  else if c = ' ' ∨ c = '\t' then { r with isOver := true }
  else { r with written := c :: r.written }

/-- Reads a character of a name. What ends a bare name is part of the value, whatever it is, unless it
is a dollar sign, behind which the next name begins. -/
def ValueReader.named (r : ValueReader) (lookup : Lookup) (c : Char) : ValueReader :=
  match r.naming with
  | .none => r.plain c
  | .braced name =>
    if c = '\x7d' then r.putIn lookup name else { r with naming := .braced (c :: name) }
  | .bare name =>
    if Text.isAlphanumeric c then { r with naming := .bare (c :: name) }
    else if c = '\x7b' ∧ name = [] then { r with naming := .braced [] }
    else
      let r := r.putIn lookup name
      if c = '$' then { r with naming := .bare [] } else { r with written := c :: r.written }

/-- The value that characters spell. The rest of a value that is over is a comment, or is refused. -/
def ValueReader.read (lookup : Lookup) : ValueReader → List Char → Option String
  | r, [] =>
    match r.quotes, r.naming with
    | .none, .none => some (String.ofList r.written.reverse)
    | .none, .bare name => some (String.ofList (r.putIn lookup name).written.reverse)
    | _, _ => none
  | r, c :: rest =>
    if r.isOver then
      if c = ' ' ∨ c = '\t' then read lookup r rest
      else if c = commentMark then read lookup r []
      else none
    else if r.escaped then
      match escapedChar? c with
      | some c => read lookup { r with escaped := false, written := c :: r.written } rest
      | none => none
    else if r.quotes = .single then
      if c = '\x27' then read lookup { r with quotes := .none } rest
      else read lookup { r with written := c :: r.written } rest
    else read lookup (r.named lookup c) rest
termination_by _ cs => cs.length

/-! ## Lines -/

/-- Whether a character may begin a name. -/
def beginsName (c : Char) : Bool :=
  ('a' ≤ c && c ≤ 'z') || ('A' ≤ c && c ≤ 'Z') || c == '_'

/-- Whether a character may stand in a name. -/
def continuesName (c : Char) : Bool :=
  beginsName c || ('0' ≤ c && c ≤ '9') || c == '.'

/-- The name that characters begin with, and the rest without blanks in front. -/
def name? (cs : List Char) : Option (String × List Char) :=
  if cs.head?.any beginsName then
    let name := cs.takeWhile continuesName
    some (String.ofList name, Text.trimStart (cs.drop name.length))
  else none

/-- The rest behind a name and its equals sign, without blanks in front. -/
def target? (cs : List Char) : Option (String × List Char) :=
  match name? cs with
  | some (name, '=' :: rest) => some (name, Text.trimStart rest)
  | _ => none

/-- The rest behind the equals sign of an assignment, with the assigned name. The word `export` may
stand in front, but it may also be the name. -/
def assigned? (cs : List Char) : Option (String × List Char) :=
  match name? cs with
  | some (name, '=' :: rest) => some (name, Text.trimStart rest)
  | some ("export", rest) => target? rest
  | _ => none

/-- What a line says. -/
inductive Line where
  /-- Nothing: it is blank, or a comment. -/
  | blank
  /-- A name has a value. -/
  | assignment (name : String) (value : String)
  /-- It cannot be read. -/
  | bad
  deriving Repr, DecidableEq

/-- What a line says. Names whose values are put in are looked up. -/
def Line.read (lookup : Lookup) (line : List Char) : Line :=
  match Text.trimStart (Text.trimEnd line) with
  | [] => .blank
  | c :: rest =>
    if c = commentMark then .blank
    else match assigned? (c :: rest) with
      | none => .bad
      | some (name, []) => .assignment name ""
      | some (name, c :: value) =>
        if c = commentMark then .assignment name ""
        else match ValueReader.start.read lookup (c :: value) with
          | some value => .assignment name value
          | none => .bad

end TenantOnboarding.Settings
