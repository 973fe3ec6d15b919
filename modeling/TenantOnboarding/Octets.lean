/-!
# Numbers as bytes

A natural number as a list of bytes.
-/

namespace TenantOnboarding.Octets

/-- The number that bytes spell, most significant first. -/
def toNat (bytes : List UInt8) : Nat :=
  bytes.foldl (fun n b => n * 256 + b.toNat) 0

/-- The last `count` bytes of a number, most significant first. -/
def ofNat (count value : Nat) : List UInt8 :=
  (List.range count).map fun i => UInt8.ofNat (value >>> (8 * (count - 1 - i)))

/-- How many bytes a list of `count` bytes has: as many as were asked for. -/
theorem length_ofNat (count value : Nat) : (ofNat count value).length = count := by
  simp [ofNat]

end TenantOnboarding.Octets
