import TenantOnboarding.Text.Numeral

/-!
# Addresses of hosts

Numeric addresses in text: four decimal numbers with points between them, or eight groups of
hexadecimal digits with colons between them, of which one run of zeros may be left out and of which the
last two may be written as the other kind.
-/

namespace TenantOnboarding.Email

/-- Whether a text is a decimal number below 256 without zeros in front. -/
def isOctet (cs : List Char) : Bool :=
  match cs.mapM Text.digit? with
  | none | some [] => false
  | some ds => ds.length ≤ 3 && (ds.length == 1 || ds.head? != some 0) &&
      Text.valueOfDigits 10 0 ds < 256

/-- Whether a text is an address of four numbers. -/
def isFourNumbers (cs : List Char) : Bool :=
  let parts := cs.splitOn '.'
  parts.length == 4 && parts.all isOctet

/-- Whether a text is a group: one to four hexadecimal digits. -/
def isGroup (cs : List Char) : Bool :=
  1 ≤ cs.length && cs.length ≤ 4 && cs.all (Text.hexDigit? · |>.isSome)

/-- How many groups a text holds that leaves none out. With `mixed`, four numbers may stand for the last
two groups. -/
def groupCount? (mixed : Bool) (cs : List Char) : Option Nat :=
  if cs.isEmpty then some 0
  else
    let parts := cs.splitOn ':'
    let front := parts.dropLast
    let last := parts.getLastD []
    if !front.all isGroup then none
    else if isGroup last then some (front.length + 1)
    else if mixed && isFourNumbers last then some (front.length + 2)
    else none

/-- What stands before the first two colons in a row, and what behind them. -/
def cutAtGap : List Char → Option (List Char × List Char)
  | ':' :: ':' :: rest => some ([], rest)
  | c :: rest => (cutAtGap rest).map fun (before, after) => (c :: before, after)
  | [] => none

/-- Whether a text is an address of eight groups. -/
def isEightGroups (cs : List Char) : Bool :=
  match cutAtGap cs with
  | none => groupCount? true cs == some 8
  | some (before, after) =>
    match groupCount? false before, groupCount? true after with
    | some m, some n => m + n ≤ 7
    | _, _ => false

/-- Whether a text is an address of a host. -/
def isHostAddress (cs : List Char) : Bool :=
  isFourNumbers cs || isEightGroups cs

end TenantOnboarding.Email
