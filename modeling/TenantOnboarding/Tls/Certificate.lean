import TenantOnboarding.Tls.Der

/-!
# Certificates

Of a certificate only the public key is used, but the certificate must be well formed: of the third
version, signed by the algorithm that it names, and without critical extensions that nobody knows.
-/

namespace TenantOnboarding.Tls.Certificate

/-- The last byte of the names of extensions that are known; the names begin with two common bytes. -/
def knownExtensions : List UInt8 := [15, 17, 19, 30, 31, 37]

/-- The extensions of a certificate whose names are those of the standard's own. -/
def standardExtension? (name : List UInt8) : Option UInt8 :=
  match name with
  | [0x55, 0x1D, last] => some last
  | _ => none

/-- Reads an extension: its known name, if it has one. An unknown one must not be critical, and the value
of a known one is a value of the right kind. -/
def extension? (contents : List UInt8) : Option (Option UInt8) := do
  let (name, rest) ← Der.read? Der.identifier contents
  let (critical, rest) ← Der.optional? Der.boolean rest
  let critical ← match critical with
    | none | some [0x00] => some false
    | some [0xFF] => some true
    | _ => none
  let value ← Der.only? Der.octetString rest
  match (standardExtension? name).filter knownExtensions.contains with
  | none => if critical then none else return none
  | some last =>
    if last = 15 then return some last
    else do
      let _ ← Der.only? Der.sequence value
      return some last

/-- The known extensions that bytes hold, each of which may come once; `fuel` bounds their number. -/
def extensions? : (fuel : Nat) → (seen : List UInt8) → List UInt8 → Option (List UInt8)
  | _, seen, [] => some seen
  | 0, _, _ => none
  | fuel + 1, seen, bytes => do
    let (contents, rest) ← Der.read? Der.sequence bytes
    match ← extension? contents with
    | none => extensions? fuel seen rest
    | some last => if seen.contains last then none else extensions? fuel (last :: seen) rest

/-- The public key of a certificate: the contents of its value. -/
def publicKey? (certificate : List UInt8) : Option (List UInt8) := do
  let signed ← Der.only? Der.sequence certificate
  let (tbs, rest) ← Der.read? Der.sequence signed
  let (algorithm, rest) ← Der.read? Der.sequence rest
  let _ ← Der.wholeBits? (← Der.only? Der.bitString rest)
  let (version, rest) ← Der.read? (Der.context 0) tbs
  if (← Der.only? Der.integer version) ≠ [2] then none
  let (_, rest) ← Der.read? Der.integer rest
  let (named, rest) ← Der.read? Der.sequence rest
  if named ≠ algorithm then none
  let (_, rest) ← Der.read? Der.sequence rest
  let (_, rest) ← Der.read? Der.sequence rest
  let (_, rest) ← Der.read? Der.sequence rest
  let (key, rest) ← Der.read? Der.sequence rest
  if rest.isEmpty then return key
  else do
    let extensions ← Der.only? Der.sequence (← Der.only? (Der.context 3) rest)
    let _ ← extensions? extensions.length [] extensions
    return key

end TenantOnboarding.Tls.Certificate
