import TenantOnboarding.Digest.Sha2

/-!
# Keyed digests

`HMAC` over SHA-256: the digest of a message under a secret. A secret longer than a block is replaced
by its digest.
-/

namespace TenantOnboarding.Digest

/-- A secret filled up with zeros to one block. -/
def blockOfSecret (secret : List UInt8) : List UInt8 :=
  let short := if secret.length ≤ blockSize 32 then secret else sha256.digest secret
  short ++ List.replicate (blockSize 32 - short.length) 0

/-- The digest of a message under a secret: 32 bytes. -/
def hmac (secret message : List UInt8) : List UInt8 :=
  let key := blockOfSecret secret
  let inner := sha256.digest (key.map (· ^^^ 0x36) ++ message)
  sha256.digest (key.map (· ^^^ 0x5C) ++ inner)

end TenantOnboarding.Digest
