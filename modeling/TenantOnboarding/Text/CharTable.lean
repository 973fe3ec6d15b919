import TenantOnboarding.Text.Numeral

/-!
# Tables of characters

A property of characters as a table: ranges of code points in increasing order, each with the values that
the property gives it. A table is written as text, one word for each range: `41-5a` is a range, `41` a
single character, and `41=1+f` gives the values 1 and 15. All numbers are hexadecimal.
-/

namespace TenantOnboarding.Text

/-- The code points from `first` to `last`, with their values. -/
structure CharRange where
  first : Nat
  last : Nat
  values : List Nat
  deriving Repr, DecidableEq

/-- Ranges in increasing order. -/
structure CharTable where
  ranges : Array CharRange

namespace CharTable

/-- The hexadecimal number that characters spell. -/
def hexadecimal (cs : List Char) : Nat :=
  valueOfDigits 16 0 (cs.filterMap hexDigit?)

/-- The range that a word describes. -/
def rangeOfWord (word : List Char) : CharRange :=
  let (points, values) := match word.splitOn '=' with
    | [points, values] => (points, (values.splitOn '+').map hexadecimal)
    | _ => (word, [])
  match points.splitOn '-' with
  | [first, last] => ⟨hexadecimal first, hexadecimal last, values⟩
  | _ => ⟨hexadecimal points, hexadecimal points, values⟩

/-- The table that lines of words describe. -/
def ofText (lines : List String) : CharTable :=
  ⟨(lines.flatMap fun line => (line.toList.splitOn ' ').map rangeOfWord).toArray⟩

/-- The range that holds a code point, looked for among the `count` ranges from `start` on. -/
def search (t : CharTable) (n : Nat) (start count : Nat) : Option CharRange :=
  if count = 0 then none
  else
    let middle := start + count / 2
    match t.ranges[middle]? with
    | none => none
    | some range =>
      if n < range.first then search t n start (count / 2)
      else if range.last < n then search t n (middle + 1) (count - count / 2 - 1)
      else some range
termination_by count
decreasing_by all_goals omega

/-- The range that holds a character. -/
def find? (t : CharTable) (c : Char) : Option CharRange :=
  t.search c.toNat 0 t.ranges.size

/-- Whether a character is in one of the ranges. -/
def contains (t : CharTable) (c : Char) : Bool :=
  (t.find? c).isSome

/-- The first value of a character, and zero for a character that has none. -/
def value (t : CharTable) (c : Char) : Nat :=
  match t.find? c with
  | some range => range.values.headD 0
  | none => 0

end CharTable

end TenantOnboarding.Text
