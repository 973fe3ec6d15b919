import TenantOnboarding.Proofs.Json.RoundTrip
import TenantOnboarding.Proofs.Token.Parts
import TenantOnboarding.Session

/-!
# Session tokens read back

A token passes through JSON, bytes and base 64, and is cut at its last two points when it is verified.

* `claimsOfPart?_part` reads the claims of a part twice, as verification does.
* **`verify_sign`**: a signed token is verified by the issuer that signed it exactly if its claims name
  the audience of sessions and it has not expired, and then its claims are those that were signed.
-/

namespace TenantOnboarding

open Json Token

namespace Session

/-! ## Claims -/

/-- The claims of a session as parts of a record. -/
def Claims.parts (c : Claims) : List Part :=
  [⟨"current_user", .int64, .int64 c.user⟩, ⟨"email", .text, .text c.email⟩,
    ⟨"sub", .text, .text c.subject⟩, ⟨"name", .text, .text c.name⟩, ⟨"aud", .text, .text c.audience⟩,
    ⟨"iat", .int64, .int64 c.issuedAt⟩, ⟨"exp", .int64, .int64 c.expires⟩]

/-- The names of claims are distinct. -/
theorem Claims.nodup_names (c : Claims) : (c.parts.map Part.name).Nodup := by
  show ["current_user", "email", "sub", "name", "aud", "iat", "exp"].Nodup
  decide

/-- Claims are laid out as their parts. -/
theorem Claims.laid : Laid Claims Claims.parts where
  shape_eq _ := rfl
  value_eq _ := rfl
  distinct := nodup_names
  reads c := by
    simp only [parts, List.forall_mem_cons]
    exact ⟨reads_int64 _, reads_text _, reads_text _, reads_text _, reads_text _, reads_int64 _,
      reads_int64 _, nofun⟩
  taken c := by
    show (do
      return { user := ← (Value.int64 c.user).int64?
               email := ← some c.email
               subject := ← some c.subject
               name := ← some c.name
               audience := ← some c.audience
               issuedAt := ← (Value.int64 c.issuedAt).int64?
               expires := ← (Value.int64 c.expires).int64? } : Option Claims) = some c
    simp only [int64?_int64]
    rfl

/-- Claims are read back. -/
theorem parse_print (c : Claims) : parse Claims ((print c).toList.map some) = .ok c :=
  Claims.laid.roundTrips.read_print c

/-- What a reader reads back it reads back when it is lenient. -/
theorem reads_lenient {reader : Reader Value} {v : Value} (h : Reads reader v) :
    Reads (lenient reader) v := by
  intro depth rest hrest
  rw [lenient, h depth rest hrest]

/-- An instant is read back. -/
theorem reads_instant (i : Int64) : Reads readInstant (.int64 i) := by
  obtain ⟨hleast, hmost⟩ := int64_bounds i
  have hany : Reads readAny (.int64 i) := reads_any_int hleast (by omega)
  intro depth rest hrest
  have hread := hany depth rest hrest
  obtain ⟨c, source, hsource, hc, hspace⟩ := exists_render_int i.toInt rest
  rw [Value.int64] at hread ⊢
  rw [hsource] at hread ⊢
  rw [readInstant, skipSpace_cons hspace]
  split
  · rename_i heq
    cases heq
    exact absurd hc (by decide)
  · rename_i heq
    cases heq
    exact absurd hc (by decide)
  · exact hread

/-- The readers of registered claims pass over blanks. -/
theorem ignoresBlanks_registered : ∀ f ∈ registeredFields, IgnoresBlanks f.reader := by
  have hlenient : ∀ {reader : Reader Value}, IgnoresBlanks reader → IgnoresBlanks (lenient reader) := by
    intro reader h depth source
    rw [lenient, lenient, h]
  have hinstant : IgnoresBlanks readInstant := by
    intro depth source
    simp only [readInstant, skipSpace_skipSpace]
  intro f hf
  simp only [registeredFields, List.mem_cons, List.not_mem_nil, or_false] at hf
  rcases hf with rfl | rfl | rfl | rfl | rfl
  · exact hlenient hinstant
  · exact hlenient hinstant
  · exact hlenient (ignoresBlanks_read (.optional .text))
  · exact hlenient readAny_skipSpace
  · exact hlenient readAny_skipSpace

/-- The registered claims of a session can be read. -/
theorem registeredReadable_print (c : Claims) :
    registeredReadable ((print c).toList.map some) = true := by
  have hlegible : ∀ m ∈ c.parts.map Part.member, Legible registeredFields m := by
    intro m hm
    simp only [Claims.parts, List.map_cons, List.map_nil, List.mem_cons, List.not_mem_nil,
      or_false] at hm
    rcases hm with rfl | rfl | rfl | rfl | rfl | rfl | rfl
    · exact skipped_int _
    · exact skipped_text _
    · exact reads_lenient (reads_maybeText (some _))
    · exact skipped_text _
    · exact reads_lenient (reads_any_text _)
    · exact skipped_int _
    · exact reads_lenient (reads_instant _)
  have hnames : ((c.parts.map Part.member).map (·.1)).Nodup := by
    rw [List.map_map]
    exact c.nodup_names
  have hlack : ∀ f ∈ registeredFields, f.canLack = true := by
    simp [registeredFields]
  obtain ⟨members, hmembers⟩ := exists_arrange
    ((c.parts.map Part.member).filter (isField registeredFields)).reverse hlack
  have hread := readRecord_object (by decide : 2 ≤ depthLimit) ignoresBlanks_registered [] hlegible hnames hmembers
  rw [List.append_nil] at hread
  have hprint : (print c).toList = (Value.object (c.parts.map Part.member)).render :=
    String.toList_ofList
  rw [registeredReadable, hprint, readWhole, hread]
  rfl

/-! ## Tokens -/

namespace Issuer

/-- The claims of a signed part are taken back. -/
theorem claimsOfPart?_part (c : Claims) : claimsOfPart? (partOfText (print c)) = some c := by
  rw [claimsOfPart?, sourceOfPart?_partOfText]
  simp only [Option.bind_eq_bind, Option.bind_some, parse_print, Except.toOption,
    registeredReadable_print, if_true]
  rfl

/-- The header of session tokens names their algorithm. -/
theorem ofPart?_header : Header.ofPart? (partOfText header.compact) = some ⟨.hs256, none⟩ := by
  have hcompact : header.compact.toList = header.render := String.toList_ofList
  rw [Header.ofPart?, sourceOfPart?_partOfText, hcompact]
  decide +kernel

/-- The text of a token that is signed. -/
def messageOf (c : Claims) : List Char :=
  partOfText header.compact ++ '.' :: partOfText (print c)

/-- The parts of a signed token. -/
theorem ofToken?_sign (i : Issuer) (c : Claims) :
    Compact.ofToken? (i.sign c) = some ⟨messageOf c, partOfText header.compact,
      partOfText (print c), i.signature (messageOf c)⟩ := by
  have hsignature : '.' ∉ i.signature (messageOf c) := Text.Base64.point_not_mem_encode _
  have hclaims : '.' ∉ partOfText (print c) := Text.Base64.point_not_mem_encode _
  have hsign : (i.sign c).toList = messageOf c ++ '.' :: i.signature (messageOf c) :=
    String.toList_ofList
  have hmessage : cutLast? (messageOf c) =
      some (partOfText header.compact, partOfText (print c)) := cutLast?_append _ hclaims
  rw [Compact.ofToken?, hsign, cutLast?_append _ hsignature]
  simp only [Option.bind_eq_bind, Option.bind_some, hmessage]
  rfl

/-- A token with a header of the right algorithm and with the issuer's signature is verified by its
claims. -/
theorem verify_of_parts {i : Issuer} {token : String} {message first second : List Char}
    {keyId : Option String} {c : Claims} (now : Int)
    (hparts : Compact.ofToken? token = some ⟨message, first, second, i.signature message⟩)
    (hheader : Header.ofPart? first = some ⟨.hs256, keyId⟩)
    (hclaims : claimsOfPart? second = some c) :
    i.verify token now =
      if c.audience = audience ∧ 0 ≤ c.expires.toInt ∧ now ≤ c.expires.toInt then .ok c
      else .error .invalidToken := by
  unfold verify
  simp only [hparts, hheader, hclaims, Option.bind_eq_bind, Option.bind_some, and_self, if_true]
  by_cases haccepted : c.audience = audience ∧ 0 ≤ c.expires.toInt ∧ now ≤ c.expires.toInt
  · rw [if_pos haccepted, if_pos haccepted]
    rfl
  · rw [if_neg haccepted, if_neg haccepted]

/-- **A signed token is verified by its issuer** as long as it has not expired, if it is meant for the
audience of sessions. -/
theorem verify_sign (i : Issuer) (c : Claims) (now : Int) :
    i.verify (i.sign c) now =
      if c.audience = audience ∧ 0 ≤ c.expires.toInt ∧ now ≤ c.expires.toInt then .ok c
      else .error .invalidToken :=
  verify_of_parts now (ofToken?_sign i c) ofPart?_header (claimsOfPart?_part c)

variable (user : Int64) (email subject name : String) (start : Instant)

/-- The seconds of an instant are a 64-bit integer. -/
theorem toInt_seconds : (Int64.ofInt start.seconds).toInt = start.seconds := by
  have hfirst := start.first_le
  have hlast := start.le_last
  exact Int64.toInt_ofInt_of_le (by omega) (by omega)

/-- A session expires an hour after its start, and no calculation overflows. -/
theorem expires_claimsAt :
    (claimsAt user email subject name start).expires.toInt = start.seconds + 3600 := by
  have hfirst := start.first_le
  have hlast := start.le_last
  have hlifetime : lifetime.toInt = 3600 := by decide
  show (Int64.ofInt start.seconds + lifetime).toInt = _
  rw [Int64.toInt_add, toInt_seconds, hlifetime]
  exact Int.bmod_eq_of_le (by omega) (by omega)

/-- **The token of a session is verified for an hour**, if the hour does not end before 1970. -/
theorem verify_issueAt (i : Issuer) (now : Int) :
    i.verify (i.issueAt user email subject name start) now =
      if 0 ≤ start.seconds + 3600 ∧ now ≤ start.seconds + 3600 then
        .ok (claimsAt user email subject name start)
      else .error .invalidToken := by
  have haudience : (claimsAt user email subject name start).audience = audience := rfl
  rw [issueAt, verify_sign, expires_claimsAt]
  simp only [haudience, true_and]

end Issuer

end Session

end TenantOnboarding
