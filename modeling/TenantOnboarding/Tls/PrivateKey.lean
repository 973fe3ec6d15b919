import TenantOnboarding.Curve.Edwards
import TenantOnboarding.Curve.Weierstrass
import TenantOnboarding.Rsa.Signature
import TenantOnboarding.Tls.Der
import TenantOnboarding.Tls.Pem

/-!
# Private keys

A private key is an RSA key, a key on one of three curves, or a key of the Edwards curve, in one of the
forms that armoured files have for it. What counts of it is the public key that belongs to it, written
as certificates write it.
-/

namespace TenantOnboarding.Tls.PrivateKey

/-- The contents of a public key's value. -/
def publicValue (algorithm key : List UInt8) : List UInt8 :=
  Der.write Der.sequence algorithm ++ Der.write Der.bitString (0 :: key)

/-! ## RSA -/

/-- The numbers of an RSA key. -/
structure RsaNumbers where
  n : Nat
  e : Nat
  d : Nat
  p : Nat
  q : Nat
  dp : Nat
  dq : Nat
  inverse : Nat

/-- Whether the numbers of an RSA key fit together: the modulus has from 2048 to 4096 bits, is the
product of two numbers of half its length, and the other numbers belong to these. -/
def RsaNumbers.agree (k : RsaNumbers) : Bool :=
  let bits (n : Nat) : Nat := if n = 0 then 0 else n.log2 + 1
  let half := (bits k.n + 1) / 2
  let odd (n : Nat) : Bool := n % 2 == 1
  2048 ≤ bits k.n && bits k.n ≤ 4096 && 65537 ≤ k.e && odd k.e && k.e < Nat.pow 2 33 &&
    bits k.p == half && bits k.q == half && odd k.p && odd k.q && k.p * k.q == k.n &&
    odd k.d && half < bits k.d && k.d < k.n &&
    odd k.dp && k.dp < k.p && odd k.dq && k.dq < k.q &&
    k.inverse < k.p && k.inverse * k.q % k.p == 1

/-- The public key of an RSA key in its own form. -/
def rsa? (bytes : List UInt8) : Option (List UInt8) := do
  let contents ← Der.only? Der.sequence bytes
  let (version, rest) ← Der.readNatural? contents
  if version ≠ [0] then none
  let (n, rest) ← Der.readNatural? rest
  let (e, rest) ← Der.readNatural? rest
  let (d, rest) ← Der.readNatural? rest
  let (p, rest) ← Der.readNatural? rest
  let (q, rest) ← Der.readNatural? rest
  let (dp, rest) ← Der.readNatural? rest
  let (dq, rest) ← Der.readNatural? rest
  let (inverse, rest) ← Der.readNatural? rest
  let number := Octets.toNat
  let numbers : RsaNumbers :=
    ⟨number n, number e, number d, number p, number q, number dp, number dq, number inverse⟩
  if rest.isEmpty && numbers.agree then
    let key := Der.write Der.sequence (Der.writeNatural n ++ Der.writeNatural e)
    return publicValue Der.rsaAlgorithm key
  else none

/-! ## Curves -/

/-- The curves with their names. -/
def curves : List (List UInt8 × Curve.Weierstrass) :=
  [(Der.curve256, .p256), (Der.curve384, .p384), (Der.curve521, .p521)]

/-- The public key of a key on a curve, in the curve's own form. The key must carry its public key, and
the two must fit together. -/
def onCurve? (name : List UInt8) (curve : Curve.Weierstrass) (bytes : List UInt8) :
    Option (List UInt8) := do
  let contents ← Der.only? Der.sequence bytes
  let (version, rest) ← Der.readNatural? contents
  if version ≠ [1] then none
  let (secret, rest) ← Der.read? Der.octetString rest
  let (named, rest) ← Der.optional? (Der.context 0) rest
  if named.any (· ≠ Der.write Der.identifier name) then none
  let carried ← Der.wholeBits? (← Der.only? Der.bitString (← Der.only? (Der.context 1) rest))
  let n := Octets.toNat secret
  if secret.length = curve.size ∧ 0 < n ∧ n < curve.order ∧ curve.publicBytes n = carried then
    return publicValue (Der.curveAlgorithm name) carried
  else none

/-- The public key of a key on any of the curves, in the curve's own form. -/
def onSomeCurve? (bytes : List UInt8) : Option (List UInt8) :=
  curves.findSome? fun (name, curve) => onCurve? name curve bytes

/-! ## Wrapped keys -/

/-- The public key of a key of the Edwards curve. `carried` is the public key that it carries. -/
def edwards? (secret : List UInt8) (carried : Option (List UInt8)) : Option (List UInt8) := do
  let secret ← Der.only? Der.octetString secret
  if secret.length ≠ 32 then none
  let key := Curve.Edwards.publicBytes secret
  if carried.any (· ≠ 0 :: key) then none
  return publicValue Der.edwardsAlgorithm key

/-- The public key of a key that is wrapped together with the name of its algorithm. -/
def wrapped? (bytes : List UInt8) : Option (List UInt8) := do
  let contents ← Der.only? Der.sequence bytes
  let (version, rest) ← Der.readNatural? contents
  let (algorithm, rest) ← Der.read? Der.sequence rest
  let (secret, rest) ← Der.read? Der.octetString rest
  let (_, rest) ← Der.optional? (Der.context 0) rest
  let (carried, rest) ← Der.optional? 0x81 rest
  let plain := version = [0] ∧ carried.isNone
  if !rest.isEmpty ∨ ¬(plain ∨ version = [1]) then none
  if algorithm = Der.rsaAlgorithm then
    if plain then rsa? secret else none
  else if algorithm = Der.edwardsAlgorithm then edwards? secret carried
  else if plain then do
    let (name, curve) ← curves.find? fun (name, _) => algorithm == Der.curveAlgorithm name
    onCurve? name curve secret
  else none

/-- The public key that belongs to the private key of a section. -/
def publicKey? (s : Pem.Section) : Option (List UInt8) :=
  match s.label with
  | .rsaPrivateKey => rsa? s.bytes
  | .ecPrivateKey => onSomeCurve? s.bytes
  | .privateKey => wrapped? s.bytes
  | _ => none

end TenantOnboarding.Tls.PrivateKey
