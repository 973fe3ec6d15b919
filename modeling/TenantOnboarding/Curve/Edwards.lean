import TenantOnboarding.Arithmetic.Modular
import TenantOnboarding.Curve.Multiple
import TenantOnboarding.Digest.Sha2

/-!
# Ed25519

The public key of a secret on the curve `y² - x² = 1 + d x² y²` over the field of `2²⁵⁵ - 19` elements.
-/

namespace TenantOnboarding.Curve.Edwards

/-- The prime of the field. -/
def prime : Nat := Nat.pow 2 255 - 19

/-- The constant of the curve. -/
def d : Nat := 37095705934669439343138083508754565189542113879843219016388785533085940283555

/-- A point in projective coordinates, with the product of the affine ones. -/
structure Point where
  x : Int
  y : Int
  z : Int
  t : Int
  deriving Repr, DecidableEq

/-- The neutral point. -/
def zero : Point := ⟨0, 1, 1, 0⟩

/-- The base point. -/
def base : Point :=
  let x : Nat := 15112221349535400772501151409588531511454012693041857206046113283949847762202
  let y : Nat := 46316835694926478169428394003475163141307993866256225615783033603165251855960
  ⟨x, y, 1, (x * y % prime : Nat)⟩

/-- The sum of two points. -/
def add (p q : Point) : Point :=
  let m : Int := prime
  let a := (p.y - p.x) * (q.y - q.x) % m
  let b := (p.y + p.x) * (q.y + q.x) % m
  let c := 2 * p.t * d * q.t % m
  let e := 2 * p.z * q.z % m
  ⟨(b - a) * (e - c) % m, (e + c) * (b + a) % m, (e - c) * (e + c) % m, (b - a) * (b + a) % m⟩

/-- The number by which a secret multiplies the base point: half of the secret's digest, least
significant byte first, with its ends set. -/
def scalar (secret : List UInt8) : Nat :=
  let n := Octets.toNat ((Digest.sha512.digest secret).take 32).reverse
  n % Nat.pow 2 254 / 8 * 8 + Nat.pow 2 254

/-- The public key of a secret: one coordinate, least significant byte first, with the parity of the
other in the last bit. -/
def publicBytes (secret : List UInt8) : List UInt8 :=
  let p := multipleOnto add zero base (scalar secret)
  let inverse := Arithmetic.inverse p.z.toNat prime
  let x := p.x.toNat * inverse % prime
  let y := p.y.toNat * inverse % prime
  (Octets.ofNat 32 (y + x % 2 * Nat.pow 2 255)).reverse

end TenantOnboarding.Curve.Edwards
