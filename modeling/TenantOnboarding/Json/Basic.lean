/-!
# Reading JSON: sources, faults and readers

A source is a list of characters in which `none` stands for a byte that belongs to no character. Reading
goes from left to right and the first fault decides. A reader that fails still says what it had left
to read, because a claim of a token that cannot be read is passed over and the reading goes on from
there.
-/

namespace TenantOnboarding.Json

/-- What is read: characters, and `none` for each byte that is part of no character. -/
abbrev Source := List (Option Char)

/-- Why a text could not be read. -/
inductive Fault where
  /-- The text ended where more had to come. -/
  | early
  /-- The text is not JSON. -/
  | malformed
  /-- The text is JSON of another shape than the one asked for. -/
  | shape
  deriving Repr, DecidableEq

/-- A reading that failed. -/
structure Stop where
  /-- Why it failed. -/
  fault : Fault
  /-- What was still unread. -/
  rest : Source
  deriving Repr, DecidableEq

/-- The outcome of a reading: a value and what is still unread. -/
abbrev Outcome (α : Type) := Except Stop (α × Source)

/-- A reader gets the number of lists and objects that it may still open one inside the other, and the
source. -/
abbrev Reader (α : Type) := Nat → Source → Outcome α

/-- How deep lists and objects may lie one inside the other: one fewer than this. -/
def depthLimit : Nat := 128

/-- The blanks between the parts of a JSON text. -/
def isSpace (c : Option Char) : Bool :=
  c == some ' ' || c == some '\t' || c == some '\n' || c == some '\r'

/-- The source from its first character that is no blank. -/
def skipSpace (source : Source) : Source :=
  source.dropWhile isSpace

/-- The source behind its blanks is no longer. -/
theorem skipSpace_length_le (source : Source) : (skipSpace source).length ≤ source.length :=
  (List.dropWhile_sublist _).length_le

/-- The source behind its blanks and one more character is shorter. -/
theorem length_lt_of_skipSpace {source rest : Source} {c : Option Char}
    (h : skipSpace source = c :: rest) : rest.length < source.length := by
  have := skipSpace_length_le source
  simp only [h, List.length_cons] at this
  omega

/-- The source of a text of characters. -/
def Source.ofString (s : String) : Source :=
  s.toList.map some

/-- The rest of a word such as `ull` of `null`. -/
def literal : List Char → Source → Except Stop Source
  | [], source => .ok source
  | _ :: _, [] => .error ⟨.early, []⟩
  | c :: cs, x :: rest => if x = some c then literal cs rest else .error ⟨.malformed, rest⟩

/-- The source behind a word is no longer. -/
theorem literal_length_le {word : List Char} {source rest : Source}
    (h : literal word source = .ok rest) : rest.length ≤ source.length := by
  induction word generalizing source with
  | nil =>
    simp only [literal, Except.ok.injEq] at h
    simp [h]
  | cons c cs ih =>
    cases source with
    | nil => simp [literal] at h
    | cons x source =>
      simp only [literal] at h
      split at h
      · exact Nat.le_succ_of_le (ih h)
      · simp at h

/-- A whole text is one value, with blanks around it and nothing else. -/
def readWhole {α : Type} (reader : Reader α) (source : Source) : Except Fault α :=
  match reader depthLimit source with
  | .error stop => .error stop.fault
  | .ok (value, rest) => if (skipSpace rest).isEmpty then .ok value else .error .malformed

end TenantOnboarding.Json
