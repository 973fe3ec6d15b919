/-!
# Punycode

A label with characters beyond ASCII is written in ASCII: first its ASCII characters, then, behind a
hyphen, numbers that say which other characters stand where, the smallest characters first. A number is
written with the 36 digits `a` to `z` and `0` to `9`, least significant first; a threshold, which
adapts to the numbers written so far, tells its last digit.
-/

namespace TenantOnboarding.Idna.Punycode

/-! ## Numbers -/

/-- The digit of a value below 36. -/
def digit (value : Nat) : Char :=
  if value < 26 then Char.ofNat ('a'.toNat + value) else Char.ofNat ('0'.toNat + (value - 26))

/-- The value of a digit. -/
def value? (c : Char) : Option Nat :=
  if 'a' ≤ c ∧ c ≤ 'z' then some (c.toNat - 'a'.toNat)
  else if 'A' ≤ c ∧ c ≤ 'Z' then some (c.toNat - 'A'.toNat)
  else if '0' ≤ c ∧ c ≤ '9' then some (c.toNat - '0'.toNat + 26)
  else none

/-- The threshold of the digit at `reach`: 36 for the first digit, 72 for the second, and so on. -/
def threshold (reach bias : Nat) : Nat :=
  if reach ≤ bias then 1 else if reach ≥ bias + 26 then 26 else reach - bias

/-- Every threshold is a digit from 1 to 26. -/
theorem threshold_mem (reach bias : Nat) : 1 ≤ threshold reach bias ∧ threshold reach bias ≤ 26 := by
  unfold threshold
  split
  · omega
  · split <;> omega

/-- The bias after the reductions of `delta`, of which so many steps of 36 are done. -/
def settle (delta steps : Nat) : Nat :=
  if delta > 455 then settle (delta / 35) (steps + 36) else steps + 36 * delta / (delta + 38)
termination_by delta

/-- The bias after a number `delta` that placed one of `count` characters. -/
def adapt (delta count : Nat) (first : Bool) : Nat :=
  let delta := if first then delta / 700 else delta / 2
  settle (delta + delta / count) 0

/-! ## Writing -/

/-- The digits of a number. -/
def numberDigits (n reach bias : Nat) : List Char :=
  let t := threshold reach bias
  if n < t then [digit n]
  else digit (t + (n - t) % (36 - t)) :: numberDigits ((n - t) / (36 - t)) (reach + 36) bias
termination_by n
decreasing_by
  have := threshold_mem reach bias
  have : (n - threshold reach bias) / (36 - threshold reach bias) ≤ n - threshold reach bias :=
    Nat.div_le_self ..
  omega

/-- How far the writing of a label has come. -/
structure Writer where
  /-- How many places were passed since the last character. -/
  delta : Nat
  bias : Nat
  /-- How many characters are written. -/
  count : Nat
  /-- Whether only ASCII characters are written. -/
  first : Bool
  /-- What is written, last character first. -/
  written : List Char

/-- Passes a character of the label while the places of `point` are written. -/
def Writer.pass (w : Writer) (point : Nat) (c : Char) : Writer :=
  if c.toNat < point then { w with delta := w.delta + 1 }
  else if c.toNat = point then
    ⟨0, adapt w.delta (w.count + 1) w.first, w.count + 1, false,
      (numberDigits w.delta 36 w.bias).reverse ++ w.written⟩
  else w

/-- Writes the places of the code points, which come in increasing order; `next` is the first code
point that has not been looked for. -/
def writePoints (label : List Char) : (next : Nat) → List Nat → Writer → List Char
  | _, [], w => w.written.reverse
  | next, point :: points, w =>
    let w := { w with delta := w.delta + (point - next) * (w.count + 1) }
    let w := label.foldl (fun w c => w.pass point c) w
    writePoints label (point + 1) points { w with delta := w.delta + 1 }

/-- The written form of a label. -/
def encode (label : List Char) : List Char :=
  let ascii := label.filter (·.toNat < 128)
  let points := ((label.map Char.toNat).filter (128 ≤ ·)).mergeSort.eraseDups
  let start := if ascii.isEmpty then [] else '-' :: ascii.reverse
  writePoints label 128 points ⟨0, 72, ascii.length, true, start⟩

/-! ## Reading -/

/-- How far the reading of a label has come. -/
structure Reader where
  /-- The code point and the place of the character that was placed last. -/
  point : Nat
  place : Nat
  bias : Nat
  label : List Char
  /-- The number that is being read, and the weight and the reach of its next digit. -/
  number : Nat
  weight : Nat
  reach : Nat

/-- Reads a digit. -/
def Reader.step (r : Reader) (c : Char) : Option Reader := do
  let d ← value? c
  let number := r.number + d * r.weight
  let t := threshold r.reach r.bias
  if d < t then
    let count := r.label.length + 1
    let point := r.point + (r.place + number) / count
    let place := (r.place + number) % count
    if point.isValidChar then
      let label := r.label.take place ++ Char.ofNat point :: r.label.drop place
      return ⟨point, place + 1, adapt number count (r.place == 0), label, 0, 1, 36⟩
    else none
  else return { r with number, weight := r.weight * (36 - t), reach := r.reach + 36 }

/-- The label of a written form. -/
def decode? (written : List Char) : Option (List Char) := do
  let reversed := written.reverse
  let (ascii, digits) := match reversed.dropWhile (· ≠ '-') with
    | [] => ([], written)
    | _ :: before => (before.reverse, (reversed.takeWhile (· ≠ '-')).reverse)
  if ascii.any (128 ≤ ·.toNat) then none
  else
    let r ← digits.foldlM Reader.step ⟨128, 0, 72, ascii, 0, 1, 36⟩
    if r.reach = 36 then return r.label else none

end TenantOnboarding.Idna.Punycode
