import TenantOnboarding.Idna.Composition
import TenantOnboarding.Idna.Table.Joining

/-!
# Joiners

The two invisible joiners may stand only where they change how a text is written: behind a sign that
suppresses a vowel, and the one that keeps letters apart also between two letters that would join.
-/

namespace TenantOnboarding.Idna

/-- The invisible character that keeps letters apart. -/
def nonJoiner : Char := Char.ofNat 0x200C

/-- The invisible character that joins letters. -/
def joiner : Char := Char.ofNat 0x200D

/-- The class of the signs that suppress a vowel. -/
def vowelKiller : Nat := 9

/-- Whether the first character that is not transparent is in one of two tables. -/
def reaches (a b : Text.CharTable) (cs : List Char) : Bool :=
  match cs.dropWhile Table.joiningTransparent.contains with
  | c :: _ => a.contains c || b.contains c
  | [] => false

/-- Whether each joiner of a text stands where it may. `before` holds what stands in front, last
character first. -/
def joinersFit (before : List Char) : List Char → Bool
  | [] => true
  | c :: rest =>
    let behindKiller := match before with
      | d :: _ => combiningClass d == vowelKiller
      | [] => false
    let fits :=
      if c = nonJoiner then
        behindKiller || (reaches Table.joiningLeft Table.joiningBoth before &&
          reaches Table.joiningRight Table.joiningBoth rest)
      else if c = joiner then behindKiller
      else true
    fits && joinersFit (c :: before) rest

end TenantOnboarding.Idna
