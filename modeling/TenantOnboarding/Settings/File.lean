import TenantOnboarding.Settings.Assignment
import TenantOnboarding.Text.Utf8

/-!
# Settings files

A file of assignments adds variables to the environment. A variable that is set already is kept, so the
first assignment counts. An assignment may go on over several lines while a quote is open. Reading stops
at the first line that cannot be read, and what was read before counts.
-/

namespace TenantOnboarding.Settings

/-- The variables that are set, the last one first. -/
abbrev Environment := List (String × String)

/-! ## Lines -/

/-- The lines with one more byte in front. A line feed is a line of its own or the end of one. -/
def addByte (b : UInt8) : List (List UInt8) → List (List UInt8)
  | [] => [[b]]
  | line :: lines => if b = 0x0A then [b] :: line :: lines else (b :: line) :: lines

/-- The lines of bytes, each with the line feed that ends it. -/
def physicalLines (bytes : List UInt8) : List (List UInt8) := bytes.foldr addByte []

/-- Where a character stands in an assignment that may go on over several lines. -/
inductive Place where
  /-- In nothing that goes on. -/
  | free
  /-- Behind a blank, where a comment may begin. -/
  | blank
  | escaped
  | single
  | singleEscaped
  | double
  | doubleEscaped
  /-- At the beginning of a comment. -/
  | comment
  deriving Repr, DecidableEq

/-- The place behind a character that stands in nothing that goes on. -/
def Place.outside (c : Char) : Place :=
  if c = '\\' then .escaped
  else if c = '\x22' then .double
  else if c = '\x27' then .single
  else .free

/-- The place behind a character. -/
def Place.next (place : Place) (c : Char) : Place :=
  match place with
  | .blank => if c = commentMark then .comment else .outside c
  | .free => if Text.isBlank c ∧ c ≠ '\n' ∧ c ≠ '\r' then .blank else .outside c
  | .escaped => .free
  | .double => if c = '\\' then .doubleEscaped else if c = '\x22' then .free else .double
  | .doubleEscaped => .double
  | .single => if c = '\\' then .singleEscaped else if c = '\x27' then .free else .single
  | .singleEscaped => .single
  | .comment => .comment

/-- The place at the end of a line, and the line as far as it is no comment, last character first.
`done` holds what was passed. -/
def Place.run (place : Place) (done : List Char) : List Char → Place × List Char
  | [] => (place, done)
  | c :: rest =>
    match place.next c with
    | .comment => (.comment, done)
    | place => place.run (c :: done) rest

/-- A line without the line feed that ends it, or a carriage return and a line feed. The line is given
last character first. -/
def withoutFeed : List Char → List Char
  | '\n' :: '\r' :: rest => rest.reverse
  | '\n' :: rest => rest.reverse
  | line => line.reverse

/-- The next assignment of a file. -/
inductive Next where
  /-- The file is over. -/
  | finished
  /-- The rest of the file cannot be read. -/
  | bad
  /-- A line, and the lines behind it. -/
  | line (text : List Char) (behind : List (List UInt8))

/-- The next line. `done` holds what has been read of it, last character first; only at the beginning may
a comment take the whole line. -/
def nextLine (place : Place) (done : List Char) : List (List UInt8) → Next
  | [] => if place = .free then .finished else .bad
  | bytes :: behind =>
    match Text.Utf8.decode? bytes with
    | none => .bad
    | some cs =>
      if done.isEmpty ∧ (Text.trimStart cs).head? = some commentMark then .line [] behind
      else match place.run done cs with
        | (.comment, kept) => .line kept.reverse behind
        | (.free, kept) => .line (withoutFeed kept) behind
        | (place, kept) => nextLine place kept behind

/-- The lines behind the next one are fewer. -/
theorem length_of_nextLine {place : Place} {done : List Char} {lines : List (List UInt8)}
    {text : List Char} {behind : List (List UInt8)}
    (h : nextLine place done lines = .line text behind) : behind.length < lines.length := by
  induction lines generalizing place done with
  | nil =>
    unfold nextLine at h
    split at h <;> cases h
  | cons bytes rest ih =>
    unfold nextLine at h
    split at h
    · cases h
    · split at h
      · cases h; simp
      · split at h
        · cases h; simp
        · cases h; simp
        · have := ih h
          simp only [List.length_cons]
          omega

/-! ## Loading -/

/-- The environment after the lines of a file. `earlier` holds the values of the lines before. -/
def loadLines (environment earlier : Environment) (lines : List (List UInt8)) : Environment :=
  match h : nextLine .free [] lines with
  | .finished | .bad => environment
  | .line text behind =>
    have := length_of_nextLine h
    let lookup : Lookup := fun name => (environment.lookup name).or (earlier.lookup name)
    match Line.read lookup text with
    | .blank => loadLines environment earlier behind
    | .bad => environment
    | .assignment name value =>
      let environment :=
        if (environment.lookup name).isSome then environment else (name, value) :: environment
      loadLines environment ((name, value) :: earlier) behind
termination_by lines.length

/-- The mark in front of a text that tells its encoding. -/
def encodingMark : List UInt8 := [0xEF, 0xBB, 0xBF]

/-- The environment after a file. -/
def load (environment : Environment) (file : List UInt8) : Environment :=
  let file := if encodingMark.isPrefixOf file then file.drop encodingMark.length else file
  loadLines environment [] (physicalLines file)

end TenantOnboarding.Settings
