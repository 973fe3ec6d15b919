import TenantOnboarding.Proofs.Session.RoundTrip

/-!
# How long a session lasts

* `Instant.elapsed` is the exact time of an instant; a session is issued at its whole seconds.
* **`lasts_an_hour`**: a session token is verified as what it was issued for until an hour is over, and
  never afterwards.
-/

namespace TenantOnboarding

/-- How many nanoseconds have passed since the start of 1970. Leap seconds are not counted: in one the
count stands still at the end of the second in front of it. -/
def Instant.elapsed (t : Instant) : Int :=
  t.seconds * 1000000000 + min t.nanoseconds 999999999

/-- The seconds of an instant are those that have passed in full, before 1970 too. -/
theorem Instant.elapsed_div (t : Instant) : t.elapsed / 1000000000 = t.seconds := by
  unfold elapsed
  omega

namespace Session

/-- **A session lasts an hour.** Whatever the secret, the user and the texts are, and whatever instant of
the calendar the session starts at: no calculation overflows, and from the token that is issued an issuer
with the same secret takes back exactly what it was issued for until the hour is over. Afterwards it
refuses the token. -/
theorem lasts_an_hour (secret : String) (user : Int64) (email subject name : String) (start : Instant)
    {now : Int} (hnow : 0 ≤ now) :
    ∃ issuedAt expires : Int64,
      issuedAt.toInt = start.elapsed / 1000000000 ∧
      expires.toInt = issuedAt.toInt + 3600 ∧
      (now ≤ expires.toInt →
        Issuer.verify ⟨secret⟩ (Issuer.issueAt ⟨secret⟩ user email subject name start) now =
          .ok ⟨user, email, subject, name, "postgraphile", issuedAt, expires⟩) ∧
      (expires.toInt < now →
        Issuer.verify ⟨secret⟩ (Issuer.issueAt ⟨secret⟩ user email subject name start) now =
          .error .invalidToken) := by
  have hissued := Issuer.toInt_seconds start
  have hexpires := Issuer.expires_claimsAt user email subject name start
  have hverify := Issuer.verify_issueAt user email subject name start ⟨secret⟩ now
  refine ⟨Int64.ofInt start.seconds, (Issuer.claimsAt user email subject name start).expires,
    ?_, ?_, fun halive => ?_, fun hover => ?_⟩
  · rw [hissued, start.elapsed_div]
  · rw [hexpires, hissued]
  · rw [hverify, if_pos ⟨by omega, by omega⟩]
    rfl
  · rw [hverify, if_neg (by omega)]

/-- The last nanosecond of the second that ends half an hour before 1970. -/
def sampleEve : Instant := ⟨-1801, 999999999, by decide, by decide, .inl (by decide)⟩

/-- A session that starts before 1970 lasts into 1970. -/
theorem lasts_an_hour_sample :
    (0 : Int) ≤ 1799 ∧
      Issuer.verify ⟨"a.b"⟩ (Issuer.issueAt ⟨"a.b"⟩ (-9223372036854775808) "\x22a\\b\x22@example.org"
        "\n\x00" "😀" sampleEve) 1799 =
        .ok ⟨-9223372036854775808, "\x22a\\b\x22@example.org", "\n\x00", "😀", "postgraphile", -1801,
          1799⟩ := by
  obtain ⟨issuedAt, expires, hissued, hexpires, halive, -⟩ := lasts_an_hour "a.b"
    (-9223372036854775808) "\x22a\\b\x22@example.org" "\n\x00" "😀" sampleEve
    (by decide : (0 : Int) ≤ 1799)
  have helapsed : sampleEve.elapsed / 1000000000 = -1801 := by decide
  obtain rfl : issuedAt = -1801 := Int64.toInt_inj.mp (by rw [hissued, helapsed]; decide)
  obtain rfl : expires = 1799 := Int64.toInt_inj.mp (by rw [hexpires]; decide)
  exact ⟨by decide, halive (by decide)⟩

end Session

end TenantOnboarding
