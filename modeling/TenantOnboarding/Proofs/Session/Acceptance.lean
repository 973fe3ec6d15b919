import TenantOnboarding.Proofs.Session.RoundTrip
import TenantOnboarding.Proofs.Token.Headers

/-!
# What an issuer accepts

* `Issuer.Vouches` is what stands in a token that is accepted, and `Flaw` lists what must not stand in it.
* `Claims.named_of_carries`: a payload that is an object and carries claims has each of them once.
* **`Issuer.accepts_only_signed`**: an issuer accepts nothing but what its own secret signs, for the
  audience of sessions and until it expires.
-/

namespace TenantOnboarding

open Json Token

namespace Session

/-! ## Claims -/

/-- Claims are written as the object of their parts. -/
theorem Claims.recorded (c : Claims) :
    Recorded Claims (c.parts.map fun q => (q.name, q.shape)) fun c => c.parts.map Part.member where
  shape_eq := rfl
  toValue_eq _ := rfl
  names_eq _ := by simp [parts, Part.member]
  agrees := by
    intro p hp
    simp only [parts, List.map_cons, List.map_nil, List.mem_cons, List.not_mem_nil, or_false] at hp
    rcases hp with rfl | rfl | rfl | rfl | rfl | rfl | rfl
    · exact agrees_integer _ _
    · exact agrees_text
    · exact agrees_text
    · exact agrees_text
    · exact agrees_text
    · exact agrees_integer _ _
    · exact agrees_integer _ _
  found := by
    intro v c h m hm
    obtain ⟨_, huser, h⟩ := exists_of_taken eq_int64_of_int64? h
    obtain ⟨_, hemail, h⟩ := exists_of_taken eq_text_of_text? h
    obtain ⟨_, hsubject, h⟩ := exists_of_taken eq_text_of_text? h
    obtain ⟨_, hname, h⟩ := exists_of_taken eq_text_of_text? h
    obtain ⟨_, haudience, h⟩ := exists_of_taken eq_text_of_text? h
    obtain ⟨_, hissued, h⟩ := exists_of_taken eq_int64_of_int64? h
    obtain ⟨_, hexpires, h⟩ := exists_of_taken eq_int64_of_int64? h
    obtain rfl := Option.some.inj h
    simp only [parts, List.map_cons, List.map_nil, List.mem_cons, List.not_mem_nil, or_false] at hm
    rcases hm with rfl | rfl | rfl | rfl | rfl | rfl | rfl
    · exact huser
    · exact hemail
    · exact hsubject
    · exact hname
    · exact haudience
    · exact hissued
    · exact hexpires

/-- **A payload that is an object and carries claims has each of them once.** -/
theorem Claims.named_of_carries {part : List Char} {c : Claims} {ms : List (String × Value)}
    (hcarries : Carries part c) (hobject : HoldsObject part ms) {q : Part} (hq : q ∈ c.parts) :
    PublicKey.named ms q.name = [q.value] := by
  obtain ⟨source, hparse, hany⟩ := Tells.and hcarries hobject
  obtain ⟨members, hmembers, hshows⟩ := c.recorded.shows hparse hany
  obtain rfl : c.parts.map Part.member = members := Value.object.inj hmembers
  have hfilter : ms.filter (·.1 == q.name) = [q.member] := by
    obtain hone | ⟨hnull, -⟩ := hshows q.member (List.mem_map_of_mem hq)
    · exact hone
    · -- No claim of a session is `null`.
      simp only [Claims.parts, List.mem_cons, List.not_mem_nil, or_false] at hq
      rcases hq with rfl | rfl | rfl | rfl | rfl | rfl | rfl <;> cases hnull
  rw [PublicKey.named, hfilter]
  rfl

/-! ## Flaws -/

/-- The names of the claims of a session. -/
def claimNames : List String := ["current_user", "email", "sub", "name", "aud", "iat", "exp"]

/-- What must not stand in a token at `now`, whoever signed it: in its header, or in its claims. A part
may be looked at by somebody who knows its fields, or as an object of any members. -/
inductive Flaw (now : Int) (p : Compact) : Prop where
  /-- The header names another algorithm. -/
  | algorithm {v : Value} {name : String} (header : Header.Holds p.header v)
      (named : v.member? "alg" = some (.text name)) (other : name ≠ "HS256")
  /-- The header is an object that does not name the algorithm once, in one of the two forms of a
  word. -/
  | header {ms : List (String × Value)} (object : HoldsObject p.header ms)
      (text : PublicKey.named ms "alg" ≠ [.text "HS256"])
      (word : PublicKey.named ms "alg" ≠ [.object [("HS256", .null)]])
  /-- The claims are meant for another audience. -/
  | audience {c : Claims} (claims : Carries p.claims c) (other : c.audience ≠ "postgraphile")
  /-- The claims are an object that does not name the audience once. -/
  | unaddressed {ms : List (String × Value)} (object : HoldsObject p.claims ms)
      (other : PublicKey.named ms "aud" ≠ [.text "postgraphile"])
  /-- The claims expired in the past. -/
  | expired {c : Claims} (claims : Carries p.claims c) (past : c.expires.toInt < now)
  /-- The claims are an object that does not name one second, now or later, in which they expire. -/
  | endless {ms : List (String × Value)} (object : HoldsObject p.claims ms)
      (past : ∀ second, PublicKey.named ms "exp" = [.int second] → second < now)
  /-- The claims are an object in which a claim is missing or comes more than once. -/
  | count {ms : List (String × Value)} {name : String} (object : HoldsObject p.claims ms)
      (claim : name ∈ claimNames) (count : (PublicKey.named ms name).length ≠ 1)

namespace Issuer

variable {i : Issuer} {token : String} {now : Int} {c : Claims}

/-- The issuer's secret stands behind what a token says at `now`. -/
structure Vouches (i : Issuer) (now : Int) (p : Compact) (c : Claims) : Prop where
  /-- The signature is the written digest of the message, to the letter. -/
  signature_eq : p.signature =
    Text.Base64.encode .url (Digest.hmac (Text.Utf8.ofString i.secret) (Text.Utf8.encode p.message))
  /-- The header names the algorithm. -/
  header_names : ∃ v, Header.Holds p.header v ∧ v.member? "alg" = some (.text "HS256")
  /-- The claims are what the second part says. -/
  claims_eq : Carries p.claims c
  /-- They are meant for the audience of sessions. -/
  audience_eq : c.audience = "postgraphile"
  /-- They have not expired, and no second is granted. -/
  alive : now ≤ c.expires.toInt

/-- A token is accepted, or it is refused as invalid. -/
theorem verify_cases (i : Issuer) (token : String) (now : Int) :
    i.verify token now = .error .invalidToken ∨ ∃ c, i.verify token now = .ok c := by
  unfold verify
  simp only
  split
  · rename_i c _
    exact .inr ⟨c, rfl⟩
  · exact .inl rfl

/-- The name of the algorithm of session tokens. -/
theorem lookup_hs256 : Algorithm.names.lookup "HS256" = some .hs256 := rfl

/-- What an accepted token is made of. -/
theorem exists_of_verify (h : i.verify token now = .ok c) :
    ∃ p keyId, p.Cuts token ∧ Header.ofPart? p.header = some ⟨.hs256, keyId⟩ ∧ i.Vouches now p c := by
  unfold verify at h
  simp only at h
  split at h
  · rename_i claims haccepted
    cases h
    simp only [Option.bind_eq_bind, Option.bind_eq_some_iff] at haccepted
    obtain ⟨p, hparts, ⟨algorithm, keyId⟩, hheader, haccepted⟩ := haccepted
    split at haccepted
    · rename_i hsigned
      obtain ⟨rfl, hsignature⟩ := hsigned
      obtain ⟨claims, hclaims, hrules⟩ := Option.bind_eq_some_iff.mp haccepted
      split at hrules
      · rename_i hkept
        obtain ⟨haudience, -, halive⟩ := hkept
        obtain rfl := Option.some.inj hrules
        obtain ⟨v, hholds, hname, -⟩ := Header.exists_of_ofPart? hheader lookup_hs256
        exact ⟨p, keyId, Compact.ofToken?_eq_some_iff.mp hparts, hheader, hsignature.symm,
          ⟨v, hholds, hname⟩, carries_of_read hclaims, haudience, halive⟩
      · cases hrules
    · cases haccepted
  · cases h

/-- **A flaw is never accepted**, whatever the signature is. -/
theorem verify_of_flaw (i : Issuer) {p : Compact} (hcuts : p.Cuts token) (hflaw : Flaw now p) :
    i.verify token now = .error .invalidToken := by
  obtain hrefused | ⟨c, hc⟩ := verify_cases i token now
  · exact hrefused
  exfalso
  obtain ⟨p', keyId, hcuts', hheader, hvouches⟩ := exists_of_verify hc
  obtain rfl := hcuts'.unique hcuts
  have hclaims := hvouches.claims_eq
  cases hflaw with
  | algorithm hholds hnamed hother =>
    obtain ⟨v, hholds', hnamed'⟩ := hvouches.header_names
    obtain rfl := hholds.unique hholds'
    rw [hnamed] at hnamed'
    exact hother (by simpa using hnamed')
  | header hobject htext hword =>
    obtain hone | hone := Header.named_alg hheader lookup_hs256 hobject
    · exact htext hone
    · exact hword hone
  | audience hcarries hother =>
    obtain rfl := hcarries.unique hclaims
    exact hother hvouches.audience_eq
  | unaddressed hobject hother =>
    have haudience : (⟨"aud", .text, .text c.audience⟩ : Part) ∈ c.parts := by simp [Claims.parts]
    have hone := c.named_of_carries hclaims hobject haudience
    rw [hvouches.audience_eq] at hone
    exact hother hone
  | expired hcarries hpast =>
    obtain rfl := hcarries.unique hclaims
    have halive := hvouches.alive
    omega
  | endless hobject hpast =>
    have hexpires : (⟨"exp", .int64, .int64 c.expires⟩ : Part) ∈ c.parts := by simp [Claims.parts]
    have hover := hpast c.expires.toInt (c.named_of_carries hclaims hobject hexpires)
    have halive := hvouches.alive
    omega
  | count hobject hname hcount =>
    obtain ⟨q, hq, rfl⟩ : ∃ q ∈ c.parts, q.name = _ := List.mem_map.mp hname
    rw [c.named_of_carries hclaims hobject hq] at hcount
    exact hcount rfl

/-- A text with a signature behind its last point is cut there. -/
theorem cuts_ofList {p : Compact} {message signature : List Char} (hsignature : '.' ∉ signature)
    (h : p.Cuts (String.ofList (message ++ '.' :: signature))) :
    p.message = message ∧ p.signature = signature := by
  have htoken := h.token_eq
  rw [String.toList_ofList] at htoken
  have hcut := cutLast?_append p.message h.signature_whole
  rw [← htoken, cutLast?_append message hsignature] at hcut
  simpa [eq_comm] using hcut

/-- A token that is accepted has two points. -/
theorem count_of_verify (h : i.verify token now = .ok c) : token.toList.count '.' = 2 := by
  obtain ⟨p, keyId, hcuts, -, hvouches⟩ := exists_of_verify h
  obtain ⟨v, hholds, -⟩ := hvouches.header_names
  have hheader := List.count_eq_zero.mpr (Tells.whole hholds)
  have hclaims := List.count_eq_zero.mpr hcuts.claims_whole
  have hsignature := List.count_eq_zero.mpr hcuts.signature_whole
  rw [hcuts.token_eq, hcuts.message_eq]
  simp only [List.count_append, List.count_cons_self, hheader, hclaims, hsignature]

/-- **An issuer accepts only what is signed with its secret.** Whatever a token is: it is refused as
invalid, or it consists of three parts for which the secret vouches, and its claims are what is returned.

Therefore a message has no second signature; what another secret signed is accepted only if both secrets
give the message the same digest; a text without exactly two points is refused; and so is a token with
another algorithm, another audience or an end in the past, and one in which a claim is missing or comes
twice. -/
theorem accepts_only_signed (i : Issuer) :
    (∀ (token : String) (now : Int), i.verify token now = .error .invalidToken ∨
      ∃ p c, i.verify token now = .ok c ∧ p.Cuts token ∧ i.Vouches now p c) ∧
    (∀ (message signature signature' : List Char) (now now' : Int) (c c' : Claims),
      '.' ∉ signature → '.' ∉ signature' →
      i.verify (String.ofList (message ++ '.' :: signature)) now = .ok c →
      i.verify (String.ofList (message ++ '.' :: signature')) now' = .ok c' →
      signature = signature') ∧
    (∀ (j : Issuer) (message : List Char) (now : Int) (c : Claims),
      i.verify (String.ofList (message ++ '.' :: j.signature message)) now = .ok c →
      Digest.hmac (Text.Utf8.ofString i.secret) (Text.Utf8.encode message) =
        Digest.hmac (Text.Utf8.ofString j.secret) (Text.Utf8.encode message)) ∧
    (∀ (token : String) (now : Int), token.toList.count '.' ≠ 2 →
      i.verify token now = .error .invalidToken) ∧
    ∀ (token : String) (now : Int) (p : Compact), p.Cuts token → Flaw now p →
      i.verify token now = .error .invalidToken := by
  -- The signature of an accepted token is that of its message.
  have hsigned : ∀ {message signature : List Char} {now : Int} {c : Claims}, '.' ∉ signature →
      i.verify (String.ofList (message ++ '.' :: signature)) now = .ok c →
      signature = i.signature message := by
    intro message signature now c hsignature haccepted
    obtain ⟨p, -, hcuts, -, hvouches⟩ := exists_of_verify haccepted
    obtain ⟨rfl, rfl⟩ := cuts_ofList hsignature hcuts
    exact hvouches.signature_eq
  refine ⟨?_, ?_, ?_, ?_, ?_⟩
  · intro token now
    obtain hrefused | ⟨c, haccepted⟩ := verify_cases i token now
    · exact .inl hrefused
    · obtain ⟨p, -, hcuts, -, hvouches⟩ := exists_of_verify haccepted
      exact .inr ⟨p, c, haccepted, hcuts, hvouches⟩
  · intro message signature signature' now now' c c' hwhole hwhole' haccepted haccepted'
    rw [hsigned hwhole haccepted, hsigned hwhole' haccepted']
  · intro j message now c haccepted
    have hsame := hsigned (Text.Base64.point_not_mem_encode _) haccepted
    exact (Text.Base64.encode_injective Text.Base64.Alphabet.distinct_url hsame).symm
  · intro token now hcount
    obtain hrefused | ⟨c, haccepted⟩ := verify_cases i token now
    · exact hrefused
    · exact absurd (count_of_verify haccepted) hcount
  · intro token now p hcuts hflaw
    exact verify_of_flaw i hcuts hflaw

/-- The claims of a session of an hour that starts with 1970. -/
def sampleClaims : Claims := ⟨7, "a@example.org", "s", "A", "postgraphile", 0, 3600⟩

/-- A token whose header has `none` for the algorithm, with the signature of an issuer. -/
def sampleUnsigned (i : Issuer) : Compact :=
  let header := partOfText "\x7b\x22alg\x22:\x22none\x22\x7d"
  let claims := partOfText (print sampleClaims)
  let message := header ++ '.' :: claims
  ⟨message, header, claims, i.signature message⟩

/-- A session is accepted by its issuer. With the other header it is refused, although the issuer's own
signature is behind it. -/
theorem accepts_only_signed_sample :
    (∃ p, p.Cuts (sign ⟨"secret"⟩ sampleClaims) ∧ Vouches ⟨"secret"⟩ 3600 p sampleClaims) ∧
      verify ⟨"secret"⟩ (String.ofList ((sampleUnsigned ⟨"secret"⟩).message ++
        '.' :: (sampleUnsigned ⟨"secret"⟩).signature)) 0 = .error .invalidToken := by
  obtain ⟨hcases, -, -, -, hflaws⟩ := accepts_only_signed ⟨"secret"⟩
  constructor
  · have haccepted : verify ⟨"secret"⟩ (sign ⟨"secret"⟩ sampleClaims) 3600 = .ok sampleClaims := by
      rw [verify_sign, if_pos (by decide)]
    obtain hrefused | ⟨p, c, hc, hcuts, hvouches⟩ := hcases (sign ⟨"secret"⟩ sampleClaims) 3600
    · rw [haccepted] at hrefused
      cases hrefused
    · obtain rfl : sampleClaims = c := Except.ok.inj (haccepted.symm.trans hc)
      exact ⟨p, hcuts, hvouches⟩
  · refine hflaws _ 0 (sampleUnsigned ⟨"secret"⟩) ⟨String.toList_ofList, ?_, rfl, ?_⟩ ?_
    · exact Text.Base64.point_not_mem_encode _
    · exact Text.Base64.point_not_mem_encode _
    · have hobject : HoldsObject (sampleUnsigned ⟨"secret"⟩).header [("alg", .text "none")] := by
        refine tells_iff.mpr ⟨_, sourceOfPart?_partOfText _, ?_⟩
        cbv
      exact .header hobject (by simp [PublicKey.named]) (by simp [PublicKey.named])

end Issuer

end Session

end TenantOnboarding
