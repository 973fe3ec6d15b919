/-!
# Numerals

Decimal text of integers, and the reading of unsigned numerals that settings use: an optional plus
sign, then at least one ASCII digit, and a value within a bound.
-/

namespace TenantOnboarding.Text

/-- The value of an ASCII digit. -/
def digit? (c : Char) : Option Nat :=
  if '0' ≤ c ∧ c ≤ '9' then some (c.toNat - '0'.toNat) else none

/-- The value of a hexadecimal digit, in either case. -/
def hexDigit? (c : Char) : Option Nat :=
  if '0' ≤ c ∧ c ≤ '9' then some (c.toNat - '0'.toNat)
  else if 'a' ≤ c ∧ c ≤ 'f' then some (c.toNat - 'a'.toNat + 10)
  else if 'A' ≤ c ∧ c ≤ 'F' then some (c.toNat - 'A'.toNat + 10)
  else none

/-- The value of a list of digits, most significant first, after the digits of value `high`. -/
def valueOfDigits (base : Nat) (high : Nat) (ds : List Nat) : Nat :=
  ds.foldl (fun n d => n * base + d) high

/-- The decimal text of an integer. -/
def numeral (i : Int) : List Char :=
  match i with
  | .ofNat n => Nat.toDigits 10 n
  | .negSucc n => '-' :: Nat.toDigits 10 (n + 1)

/-- The value of an unsigned numeral that does not exceed `most`. A plus sign may stand in front. -/
def unsigned? (most : Nat) (s : String) : Option Nat :=
  let digits := match s.toList with
    | '+' :: rest => rest
    | cs => cs
  if digits.isEmpty then none
  else do
    let ds ← digits.mapM digit?
    let n := valueOfDigits 10 0 ds
    if n ≤ most then some n else none

end TenantOnboarding.Text
