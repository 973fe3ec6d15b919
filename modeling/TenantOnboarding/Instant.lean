/-!
# Instants

An instant of the calendar: seconds since the start of 1970 and nanoseconds within the second. The
calendar covers the years from -262143 to 262142. Only the last second of a minute may be longer than
one second, when a leap second follows it.
-/

namespace TenantOnboarding

/-- An instant of the calendar. -/
structure Instant where
  /-- Whole seconds since the start of 1970, negative before. -/
  seconds : Int
  /-- Nanoseconds since the last whole second. -/
  nanoseconds : Nat
  /-- The first second of the calendar. -/
  first_le : -8334601228800 ≤ seconds
  /-- The last second of the calendar. -/
  le_last : seconds ≤ 8210266876799
  /-- A second is as long as a second, or twice as long at the end of a minute. -/
  within : nanoseconds < 1000000000 ∨ (nanoseconds < 2000000000 ∧ seconds % 60 = 59)

/-- The instant of so many seconds and nanoseconds, if the calendar has it. -/
def Instant.of? (seconds : Int) (nanoseconds : Nat) : Option Instant :=
  if h : -8334601228800 ≤ seconds ∧ seconds ≤ 8210266876799 ∧
      (nanoseconds < 1000000000 ∨ (nanoseconds < 2000000000 ∧ seconds % 60 = 59)) then
    some ⟨seconds, nanoseconds, h.1, h.2.1, h.2.2⟩
  else none

end TenantOnboarding
