import TenantOnboarding.Idna.Table.Composition

/-!
# Composed form

The same text may be spelled with composed characters or with marks. The composed form takes characters
apart, puts the marks behind each letter in order of their classes, and composes again what can be
composed. Hangul syllables are composed by rule and not by table.
-/

namespace TenantOnboarding.Idna

/-- The combining class of a character. -/
def combiningClass (c : Char) : Nat :=
  Table.combining.value c

/-! ## Taking apart -/

/-- The parts of a Hangul syllable. -/
def hangulParts (c : Char) : List Char :=
  let n := c.toNat - 0xAC00
  let leading := Char.ofNat (0x1100 + n / 588)
  let vowel := Char.ofNat (0x1161 + n % 588 / 28)
  if n % 28 = 0 then [leading, vowel] else [leading, vowel, Char.ofNat (0x11A7 + n % 28)]

/-- The parts of a character. The first part of a composed character may itself be composed; `fuel`
bounds how often. -/
def parts : (fuel : Nat) → Char → List Char
  | 0, c => [c]
  | fuel + 1, c =>
    if 0xAC00 ≤ c.toNat ∧ c.toNat ≤ 0xD7A3 then hangulParts c
    else match Table.composed.find? c with
      | some range =>
        match range.values with
        | [first, mark] => parts fuel (Char.ofNat first) ++ [Char.ofNat mark]
        | _ => [c]
      | none => [c]

/-- A character put behind others, in front of the marks of greater class that they end with. `done`
holds the others, last first. -/
def insertMark (c : Char) (done : List Char) : List Char :=
  if combiningClass c = 0 then c :: done
  else
    let later := done.takeWhile fun d => combiningClass c < combiningClass d
    later ++ c :: done.drop later.length

/-- A text with all characters taken apart and the marks in order. -/
def decompose (cs : List Char) : List Char :=
  ((cs.flatMap (parts 8)).foldl (fun done c => insertMark c done) []).reverse

/-! ## Composing -/

/-- The Hangul syllable of two parts. -/
def hangulPair? (a b : Char) : Option Char :=
  let m := a.toNat
  let n := b.toNat
  if 0x1100 ≤ m ∧ m < 0x1113 ∧ 0x1161 ≤ n ∧ n < 0x1176 then
    some (Char.ofNat (0xAC00 + ((m - 0x1100) * 21 + (n - 0x1161)) * 28))
  else if 0xAC00 ≤ m ∧ m ≤ 0xD7A3 ∧ (m - 0xAC00) % 28 = 0 ∧ 0x11A7 < n ∧ n < 0x11C3 then
    some (Char.ofNat (m + (n - 0x11A7)))
  else none

/-- The character composed of two. -/
def pair? (a b : Char) : Option Char :=
  match hangulPair? a b with
  | some c => some c
  | none =>
    (Table.composed.ranges.find? (·.values == [a.toNat, b.toNat])).map fun r => Char.ofNat r.first

/-- How far composing has come. -/
structure Composer where
  /-- What is finished, last character first. -/
  done : List Char
  /-- The letter to which marks may still be joined. -/
  base : Option Char
  /-- The marks behind it that could not be joined, last first. -/
  marks : List Char

/-- Composes one more character, if nothing between it and the letter keeps them apart. -/
def Composer.step (s : Composer) (c : Char) : Composer :=
  let joined := do
    let base ← s.base
    let free := match s.marks with
      | [] => true
      | last :: _ => combiningClass last < combiningClass c ∧ combiningClass last ≠ 0
    if free then pair? base c else none
  match joined with
  | some base => { s with base := some base }
  | none =>
    if combiningClass c = 0 then ⟨s.marks ++ s.base.toList ++ s.done, some c, []⟩
    else { s with marks := c :: s.marks }

/-- The composed form of a text. -/
def compose (cs : List Char) : List Char :=
  let s := (decompose cs).foldl Composer.step ⟨[], none, []⟩
  (s.marks ++ s.base.toList ++ s.done).reverse

end TenantOnboarding.Idna
