/-!
# Powers and inverses modulo a number

The arithmetic of signatures and of keys.
-/

namespace TenantOnboarding.Arithmetic

/-- `done` times the power of `base` modulo `modulus`, by repeated squaring. -/
def powerOnto (modulus done base exponent : Nat) : Nat :=
  if exponent = 0 then done % modulus
  else
    let done := if exponent % 2 = 1 then done * base % modulus else done
    powerOnto modulus done (base * base % modulus) (exponent / 2)
termination_by exponent
decreasing_by omega

/-- The power of `base` modulo `modulus`. -/
def power (base exponent modulus : Nat) : Nat :=
  powerOnto modulus 1 (base % modulus) exponent

/-- The inverse modulo a prime. Zero has none and is given zero. -/
def inverse (a prime : Nat) : Nat :=
  power a (prime - 2) prime

/-- The difference modulo `modulus` of two numbers below it. -/
def difference (a b modulus : Nat) : Nat :=
  (a + (modulus - b)) % modulus

end TenantOnboarding.Arithmetic
