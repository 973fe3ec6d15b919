import TenantOnboarding.Arithmetic.Modular
import TenantOnboarding.Digest.Sha2

/-!
# RSA signatures

A signature is a number whose power is a padded digest of the message. Keys have from 2048 to 8192 bits.
-/

namespace TenantOnboarding.Rsa

/-- A public key: a modulus and an exponent, as bytes, most significant first. -/
structure PublicKey where
  modulus : List UInt8
  exponent : List UInt8
  deriving Repr, DecidableEq

/-- Whether a number is written in bytes without zeros in front. -/
def isMinimal (bytes : List UInt8) : Bool :=
  bytes.head?.any (· ≠ 0)

/-- Whether a key may be used: it is odd and neither too short nor too long, and its exponent is odd,
not one and below two to the power of 33. -/
def PublicKey.isUsable (k : PublicKey) : Bool :=
  let n := Octets.toNat k.modulus
  let e := Octets.toNat k.exponent
  isMinimal k.modulus && 256 ≤ k.modulus.length && k.modulus.length ≤ 1024 && n % 2 == 1 &&
    isMinimal k.exponent && e % 2 == 1 && 3 ≤ e && e < Nat.pow 2 33

/-- What stands between the padding and the digest: that it is a SHA-256 digest. -/
def digestMark : List UInt8 :=
  [0x30, 0x31, 0x30, 0x0D, 0x06, 0x09, 0x60, 0x86, 0x48, 0x01, 0x65, 0x03, 0x04, 0x02, 0x01, 0x05,
    0x00, 0x04, 0x20]

/-- The padded digest of a message, `size` bytes long. -/
def padded (size : Nat) (message : List UInt8) : List UInt8 :=
  let tail := digestMark ++ Digest.sha256.digest message
  0x00 :: 0x01 :: (List.replicate (size - tail.length - 3) 0xFF ++ 0x00 :: tail)

/-- Whether a signature of a message was made with the private part of a key. -/
def PublicKey.verifies (k : PublicKey) (message signature : List UInt8) : Bool :=
  let n := Octets.toNat k.modulus
  let s := Octets.toNat signature
  k.isUsable && signature.length == k.modulus.length && s < n &&
    Octets.ofNat k.modulus.length (Arithmetic.power s (Octets.toNat k.exponent) n) ==
      padded k.modulus.length message

end TenantOnboarding.Rsa
