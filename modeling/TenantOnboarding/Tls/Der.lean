import TenantOnboarding.Octets

/-!
# Tagged values

Certificates and keys are values with a tag and a length in front, one inside the other. Lengths are
written in the fewest bytes and are below two to the power of 16.
-/

namespace TenantOnboarding.Tls.Der

/-! ## Tags -/

/-- The tag of a truth value. -/
def boolean : UInt8 := 0x01
/-- The tag of a number. -/
def integer : UInt8 := 0x02
/-- The tag of a string of bits. -/
def bitString : UInt8 := 0x03
/-- The tag of a string of bytes. -/
def octetString : UInt8 := 0x04
/-- The tag of the value without contents. -/
def null : UInt8 := 0x05
/-- The tag of an identifier of an object. -/
def identifier : UInt8 := 0x06
/-- The tag of a sequence of elements. -/
def sequence : UInt8 := 0x30

/-- The tag of a value that is told by its number. -/
def context (n : UInt8) : UInt8 := 0xA0 + n

/-! ## Reading -/

/-- The length that bytes begin with, and the rest. -/
def readLength? : List UInt8 → Option (Nat × List UInt8)
  | a :: rest =>
    if a < 0x80 then some (a.toNat, rest)
    else match a, rest with
      | 0x81, b :: rest => if b < 0x80 then none else some (b.toNat, rest)
      | 0x82, b :: c :: rest => if b = 0 then none else some (b.toNat * 256 + c.toNat, rest)
      | _, _ => none
  | [] => none

/-- The contents of a value of a tag that bytes begin with, and the rest. -/
def read? (tag : UInt8) : List UInt8 → Option (List UInt8 × List UInt8)
  | [] => none
  | t :: rest =>
    if t = tag then do
      let (length, rest) ← readLength? rest
      if length ≤ rest.length then return (rest.take length, rest.drop length) else none
    else none

/-- The contents of a value of a tag, if the bytes are that value and nothing else. -/
def only? (tag : UInt8) (bytes : List UInt8) : Option (List UInt8) :=
  match read? tag bytes with
  | some (contents, []) => some contents
  | _ => none

/-- The contents of a value of a tag, if the bytes begin with one, and the rest. -/
def optional? (tag : UInt8) (bytes : List UInt8) : Option (Option (List UInt8) × List UInt8) :=
  if bytes.head? = some tag then (read? tag bytes).map fun (contents, rest) => (some contents, rest)
  else some (none, bytes)

/-- The bytes of a bit string that has no unused bits. -/
def wholeBits? (contents : List UInt8) : Option (List UInt8) :=
  match contents with
  | 0 :: bytes => some bytes
  | _ => none

/-- The bytes of a natural number, without the zero that keeps it from looking negative. -/
def natural? (contents : List UInt8) : Option (List UInt8) :=
  match contents with
  | [] => none
  | [0] => some [0]
  | 0 :: b :: rest => if 0x80 ≤ b then some (b :: rest) else none
  | b :: rest => if 0x80 ≤ b then none else some (b :: rest)

/-- The natural number that bytes begin with, as bytes, and the rest. -/
def readNatural? (bytes : List UInt8) : Option (List UInt8 × List UInt8) := do
  let (contents, rest) ← read? integer bytes
  return (← natural? contents, rest)

/-! ## Writing -/

/-- The bytes of a length. -/
def writeLength (n : Nat) : List UInt8 :=
  if n < 0x80 then [UInt8.ofNat n]
  else if n < 0x100 then [0x81, UInt8.ofNat n]
  else [0x82, UInt8.ofNat (n / 256), UInt8.ofNat n]

/-- A value of a tag. -/
def write (tag : UInt8) (contents : List UInt8) : List UInt8 :=
  tag :: (writeLength contents.length ++ contents)

/-- A natural number as a value. -/
def writeNatural (bytes : List UInt8) : List UInt8 :=
  write integer (if bytes.head?.any (0x80 ≤ ·) then 0 :: bytes else bytes)

/-! ## Names of algorithms -/

/-- RSA. -/
def rsa : List UInt8 := [0x2A, 0x86, 0x48, 0x86, 0xF7, 0x0D, 0x01, 0x01, 0x01]

/-- Keys on curves. -/
def curveKey : List UInt8 := [0x2A, 0x86, 0x48, 0xCE, 0x3D, 0x02, 0x01]

/-- The curve of 256 bits. -/
def curve256 : List UInt8 := [0x2A, 0x86, 0x48, 0xCE, 0x3D, 0x03, 0x01, 0x07]

/-- The curve of 384 bits. -/
def curve384 : List UInt8 := [0x2B, 0x81, 0x04, 0x00, 0x22]

/-- The curve of 521 bits. -/
def curve521 : List UInt8 := [0x2B, 0x81, 0x04, 0x00, 0x23]

/-- Keys of the Edwards curve. -/
def edwards : List UInt8 := [0x2B, 0x65, 0x70]

/-- The contents of the name of RSA with its empty parameters. -/
def rsaAlgorithm : List UInt8 := write identifier rsa ++ write null []

/-- The contents of the name of keys on a curve. -/
def curveAlgorithm (curve : List UInt8) : List UInt8 :=
  write identifier curveKey ++ write identifier curve

/-- The contents of the name of keys of the Edwards curve. -/
def edwardsAlgorithm : List UInt8 := write identifier edwards

end TenantOnboarding.Tls.Der
