import TenantOnboarding.Arithmetic.Modular
import TenantOnboarding.Curve.Multiple
import TenantOnboarding.Octets

/-!
# Curves for signatures

The curves `y² = x³ - 3x + b` over a prime field, with a base point of prime order. Points are kept in
projective coordinates, and one formula adds any two of them, equal or not.
-/

namespace TenantOnboarding.Curve

/-- A curve `y² = x³ - 3x + b` with its base point. -/
structure Weierstrass where
  /-- The prime of the field. -/
  prime : Nat
  b : Nat
  baseX : Nat
  baseY : Nat
  /-- The order of the base point. -/
  order : Nat
  /-- How many bytes a coordinate and a private key have. -/
  size : Nat
  deriving Repr, DecidableEq

namespace Weierstrass

/-- A point in projective coordinates. -/
structure Point where
  x : Int
  y : Int
  z : Int
  deriving Repr, DecidableEq

/-- The point at infinity. -/
def zero : Point := ⟨0, 1, 0⟩

/-- The sum of two points. -/
def add (c : Weierstrass) (p q : Point) : Point :=
  let m : Int := c.prime
  let a : Int := -3
  let b3 : Int := 3 * c.b
  let xx := p.x * q.x % m
  let yy := p.y * q.y % m
  let zz := p.z * q.z % m
  let xy := (p.x * q.y + q.x * p.y) % m
  let xz := (p.x * q.z + q.x * p.z) % m
  let yz := (p.y * q.z + q.y * p.z) % m
  let shift := (a * xz + b3 * zz) % m
  let cross := (a * xx + b3 * xz - a * a * zz) % m
  let slope := (3 * xx + a * zz) % m
  ⟨(xy * (yy - shift) - yz * cross) % m,
    ((yy + shift) * (yy - shift) + slope * cross) % m,
    (yz * (yy + shift) + xy * slope) % m⟩

/-- A multiple of the base point, as bytes: a mark and both coordinates. -/
def publicBytes (c : Weierstrass) (n : Nat) : List UInt8 :=
  let p := multipleOnto c.add zero ⟨c.baseX, c.baseY, 1⟩ n
  let inverse := Arithmetic.inverse p.z.toNat c.prime
  let coordinate (v : Int) : List UInt8 := Octets.ofNat c.size (v.toNat * inverse % c.prime)
  0x04 :: (coordinate p.x ++ coordinate p.y)

/-- The curve of 256 bits. -/
def p256 : Weierstrass where
  prime := Nat.pow 2 256 - Nat.pow 2 224 + Nat.pow 2 192 + Nat.pow 2 96 - 1
  b := 0x5AC635D8AA3A93E7B3EBBD55769886BC651D06B0CC53B0F63BCE3C3E27D2604B
  baseX := 0x6B17D1F2E12C4247F8BCE6E563A440F277037D812DEB33A0F4A13945D898C296
  baseY := 0x4FE342E2FE1A7F9B8EE7EB4A7C0F9E162BCE33576B315ECECBB6406837BF51F5
  order := 0xFFFFFFFF00000000FFFFFFFFFFFFFFFFBCE6FAADA7179E84F3B9CAC2FC632551
  size := 32

/-- The curve of 384 bits. -/
def p384 : Weierstrass where
  prime := Nat.pow 2 384 - Nat.pow 2 128 - Nat.pow 2 96 + Nat.pow 2 32 - 1
  b := 0xB3312FA7E23EE7E4988E056BE3F82D19181D9C6EFE8141120314088F5013875AC656398D8A2ED19D2A85C8EDD3EC2AEF
  baseX := 0xAA87CA22BE8B05378EB1C71EF320AD746E1D3B628BA79B9859F741E082542A385502F25DBF55296C3A545E3872760AB7
  baseY := 0x3617DE4A96262C6F5D9E98BF9292DC29F8F41DBD289A147CE9DA3113B5F0B8C00A60B1CE1D7E819D7A431D7C90EA0E5F
  order := 0xFFFFFFFFFFFFFFFFFFFFFFFFFFFFFFFFFFFFFFFFFFFFFFFFC7634D81F4372DDF581A0DB248B0A77AECEC196ACCC52973
  size := 48

/-- The curve of 521 bits. -/
def p521 : Weierstrass where
  prime := Nat.pow 2 521 - 1
  b := 0x0051953EB9618E1C9A1F929A21A0B68540EEA2DA725B99B315F3B8B489918EF109E156193951EC7E937B1652C0BD3BB1BF073573DF883D2C34F1EF451FD46B503F00
  baseX := 0x00C6858E06B70404E9CD9E3ECB662395B4429C648139053FB521F828AF606B4D3DBAA14B5E77EFE75928FE1DC127A2FFA8DE3348B3C1856A429BF97E7E31C2E5BD66
  baseY := 0x011839296A789A3BC0045C8A5FB42C7D1BD998F54449579B446817AFBD17273E662C97EE72995EF42640C550B9013FAD0761353C7086A272C24088BE94769FD16650
  order := 0x01FFFFFFFFFFFFFFFFFFFFFFFFFFFFFFFFFFFFFFFFFFFFFFFFFFFFFFFFFFFFFFFFFFFA51868783BF2F966B7FCC0148F709A5D03BB5C9B8899C47AEBB6FB71E91386409
  size := 66

end Weierstrass

end TenantOnboarding.Curve
