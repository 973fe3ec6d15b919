import TenantOnboarding.Idna.Table.Direction

/-!
# Labels in two directions

Once a domain name holds a character that is written from right to left, each of its labels must be
written in one direction: it begins with a letter, its characters go with that letter's direction, and
it ends with a letter or a number, marks aside.
-/

namespace TenantOnboarding.Idna

/-- How a character is written. -/
inductive Direction where
  | left | right | arabicLetter | arabicNumber | europeanNumber | europeanSeparator
  | commonSeparator | europeanTerminator | neutral | boundaryNeutral | nonspacingMark
  deriving Repr, DecidableEq

/-- The tables of directions. What is in none of them is written from left to right. -/
def directionTables : List (Text.CharTable × Direction) :=
  [(Table.rightToLeft, .right), (Table.arabicLetters, .arabicLetter),
    (Table.arabicNumbers, .arabicNumber), (Table.europeanNumbers, .europeanNumber),
    (Table.europeanSeparators, .europeanSeparator), (Table.commonSeparators, .commonSeparator),
    (Table.europeanTerminators, .europeanTerminator), (Table.neutrals, .neutral),
    (Table.boundaryNeutrals, .boundaryNeutral), (Table.nonspacingMarks, .nonspacingMark)]

/-- How a character is written. -/
def direction (c : Char) : Direction :=
  match directionTables.find? (·.1.contains c) with
  | some (_, d) => d
  | none => .left

/-- Whether a character makes its domain name one of two directions. -/
def Direction.isRightward : Direction → Bool
  | .right | .arabicLetter | .arabicNumber => true
  | _ => false

/-- Whether a character goes with any direction. -/
def Direction.isCompanion : Direction → Bool
  | .europeanNumber | .europeanSeparator | .commonSeparator | .europeanTerminator | .neutral
  | .boundaryNeutral | .nonspacingMark => true
  | _ => false

/-- Whether a label, given by the directions of its characters, is written in one direction. -/
def isOneWay (label : List Direction) : Bool :=
  let last? := (label.reverse.dropWhile (· == .nonspacingMark)).head?
  match label with
  | [] => true
  | first :: _ =>
    if first = .right ∨ first = .arabicLetter then
      label.all (fun d => d.isRightward || d.isCompanion) &&
        last?.any (fun d => d.isRightward || d == .europeanNumber) &&
        !(label.contains .europeanNumber && label.contains .arabicNumber)
    else if first = .left then
      label.all (fun d => d == .left || d.isCompanion) &&
        last?.any (fun d => d == .left || d == .europeanNumber)
    else false

/-- Whether the labels of a domain name go together. -/
def directionsAgree (labels : List (List Char)) : Bool :=
  let labels := labels.map (·.map direction)
  if labels.any (·.any Direction.isRightward) then labels.all isOneWay else true

end TenantOnboarding.Idna
