/-!
# Multiples of points

The multiple of a point by a number, by doubling and adding. Points are anything that can be added.
-/

namespace TenantOnboarding.Curve

/-- `done` and `n` times `point`. -/
def multipleOnto {α : Type} (add : α → α → α) (done point : α) (n : Nat) : α :=
  if n = 0 then done
  else
    let done := if n % 2 = 1 then add done point else done
    multipleOnto add done (add point point) (n / 2)
termination_by n
decreasing_by omega

end TenantOnboarding.Curve
