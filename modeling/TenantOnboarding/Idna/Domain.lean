import TenantOnboarding.Idna.Direction
import TenantOnboarding.Idna.Joining
import TenantOnboarding.Idna.Punycode
import TenantOnboarding.Idna.Table.Mapping

/-!
# Domain names in ASCII

A domain name in any script is put into one form: characters are replaced or dropped by table, the text
is composed, and each label with characters beyond ASCII is written in Punycode behind `xn--`. A label
that is written so already is read back and must be what writing makes.
-/

namespace TenantOnboarding.Idna

/-- What begins a label in Punycode. -/
def mark : List Char := ['x', 'n', '-', '-']

/-- What becomes of a character; `none` if it may not stand in a domain name. -/
def replace? (c : Char) : Option (List Char) :=
  let shifted := do
    let range ← Table.shifted.find? c
    match range.values with
    | [step, target] =>
      let distance := c.toNat - range.first
      if distance % step = 0 then some (Char.ofNat (target + distance)) else none
    | _ => none
  match shifted with
  | some c => some [c]
  | none =>
    match Table.spelled.find? c with
    | some range => some (range.values.map Char.ofNat)
    | none =>
      if Table.ignored.contains c then some []
      else if Table.valid.contains c then some [c]
      else none

/-- Whether all characters of a label are ASCII. -/
def isAscii (label : List Char) : Bool :=
  label.all (·.toNat < 128)

/-- Whether a label with characters beyond ASCII is well formed: it begins with no mark, and its joiners
stand where they may. -/
def wellFormed (label : List Char) : Bool :=
  !label.head?.any Table.marks.contains && joinersFit [] label

/-- The label that a written label stands for, if it is well formed. -/
def readLabel? (label : List Char) : Option (List Char) :=
  if mark.isPrefixOf label then do
    let inner ← Punycode.decode? (label.drop mark.length)
    if !isAscii inner && !mark.isPrefixOf inner && inner.all Table.valid.contains &&
        compose inner == inner && wellFormed inner then
      return inner
    else none
  else if wellFormed label then some label
  else none

/-- A label in ASCII. -/
def writeLabel (label : List Char) : List Char :=
  if isAscii label then label else mark ++ Punycode.encode label

/-- A domain name in ASCII, if it is one. -/
def toAscii? (domain : List Char) : Option (List Char) := do
  let replaced ← domain.mapM replace?
  let labels ← ((compose replaced.flatten).splitOn '.').mapM readLabel?
  if directionsAgree labels then
    return List.intercalate ['.'] (labels.map writeLabel)
  else none

end TenantOnboarding.Idna
