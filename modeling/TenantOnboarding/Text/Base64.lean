/-!
# Base 64

Bytes written with 64 characters: three bytes are four characters, and what is left over, one byte or
two, is two or three characters whose unused bits are zero. There is no padding. Reading accepts exactly
what writing produces.
-/

namespace TenantOnboarding.Text.Base64

/-- The characters for 62 and 63; those for the smaller digits are letters and digits in any case. -/
structure Alphabet where
  /-- The character for 62. -/
  almostLast : Char
  /-- The character for 63. -/
  last : Char
  deriving Repr, DecidableEq

/-- The alphabet of tokens, safe in addresses. -/
def Alphabet.url : Alphabet := ⟨'-', '_'⟩

/-- The alphabet of certificates and keys. -/
def Alphabet.standard : Alphabet := ⟨'+', '/'⟩

/-- The character for a number below 64. -/
def Alphabet.char (a : Alphabet) (n : Nat) : Char :=
  if n < 26 then Char.ofNat ('A'.toNat + n)
  else if n < 52 then Char.ofNat ('a'.toNat + (n - 26))
  else if n < 62 then Char.ofNat ('0'.toNat + (n - 52))
  else if n = 62 then a.almostLast
  else a.last

/-- The number that a character stands for. -/
def Alphabet.value? (a : Alphabet) (c : Char) : Option Nat :=
  if 'A' ≤ c ∧ c ≤ 'Z' then some (c.toNat - 'A'.toNat)
  else if 'a' ≤ c ∧ c ≤ 'z' then some (c.toNat - 'a'.toNat + 26)
  else if '0' ≤ c ∧ c ≤ '9' then some (c.toNat - '0'.toNat + 52)
  else if c = a.almostLast then some 62
  else if c = a.last then some 63
  else none

/-- The characters for bytes. -/
def encode (a : Alphabet) : List UInt8 → List Char
  | x :: y :: z :: rest =>
    let n := x.toNat * 65536 + y.toNat * 256 + z.toNat
    a.char (n / 262144) :: a.char (n / 4096 % 64) :: a.char (n / 64 % 64) :: a.char (n % 64) ::
      encode a rest
  | [x, y] =>
    let n := (x.toNat * 256 + y.toNat) * 4
    [a.char (n / 4096), a.char (n / 64 % 64), a.char (n % 64)]
  | [x] =>
    let n := x.toNat * 16
    [a.char (n / 64), a.char (n % 64)]
  | [] => []

/-- The bytes that characters stand for, if they stand for some. -/
def decode? (a : Alphabet) : List Char → Option (List UInt8)
  | p :: q :: r :: s :: rest => do
    let n := (← a.value? p) * 262144 + (← a.value? q) * 4096 + (← a.value? r) * 64 + (← a.value? s)
    let bytes ← decode? a rest
    return UInt8.ofNat (n / 65536) :: UInt8.ofNat (n / 256) :: UInt8.ofNat n :: bytes
  | [p, q, r] => do
    let n := (← a.value? p) * 4096 + (← a.value? q) * 64 + (← a.value? r)
    if n % 4 = 0 then return [UInt8.ofNat (n / 1024), UInt8.ofNat (n / 4)] else none
  | [p, q] => do
    let n := (← a.value? p) * 64 + (← a.value? q)
    if n % 16 = 0 then return [UInt8.ofNat (n / 16)] else none
  | [_] => none
  | [] => some []

end TenantOnboarding.Text.Base64
