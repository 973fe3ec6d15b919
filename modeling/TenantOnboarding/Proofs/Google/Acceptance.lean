import TenantOnboarding.Proofs.Google.Calls
import TenantOnboarding.Proofs.Session.Acceptance
import TenantOnboarding.Proofs.Text.Trimming

/-!
# Whom a verifier lets in

* `Key.Vouches` is what stands in a token that is accepted, `Claims.Gives` is the identity that its claims
  give, and `Verifier.Supplies` is where the key comes from.
* **`Verifier.accepts_only_genuine`**: nobody else is let in, and above all nobody with a session token.
-/

namespace TenantOnboarding.Google

open Json Token

/-! ## Claims -/

namespace Claims

/-- The fields of claims. -/
def fields : List (String × Shape) :=
  [("iss", .text), ("sub", .text), ("aud", .text), ("exp", .int64), ("iat", .int64),
    ("email", .optional .text), ("email_verified", .optional .boolean), ("name", .optional .text)]

/-- The members as which claims are written. -/
def members (c : Claims) : List (String × Value) :=
  [("iss", .text c.issuer), ("sub", .text c.subject), ("aud", .text c.audience),
    ("exp", .int64 c.expires), ("iat", .int64 c.issuedAt), ("email", .maybeText c.email),
    ("email_verified", .optional (c.emailVerified.map .boolean)), ("name", .maybeText c.name)]

/-- Claims are written as the object of their members. -/
theorem recorded : Recorded Claims fields members where
  shape_eq := rfl
  toValue_eq _ := rfl
  names_eq _ := by simp [fields, members]
  agrees := by
    intro p hp
    simp only [fields, List.mem_cons, List.not_mem_nil, or_false] at hp
    rcases hp with rfl | rfl | rfl | rfl | rfl | rfl | rfl | rfl
    · exact agrees_text
    · exact agrees_text
    · exact agrees_text
    · exact agrees_integer _ _
    · exact agrees_integer _ _
    · exact agrees_optional agrees_text rfl
    · exact agrees_optional agrees_boolean rfl
    · exact agrees_optional agrees_text rfl
  found := by
    intro v c h m hm
    obtain ⟨_, hissuer, h⟩ := exists_of_taken eq_text_of_text? h
    obtain ⟨_, hsubject, h⟩ := exists_of_taken eq_text_of_text? h
    obtain ⟨_, haudience, h⟩ := exists_of_taken eq_text_of_text? h
    obtain ⟨_, hexpires, h⟩ := exists_of_taken eq_int64_of_int64? h
    obtain ⟨_, hissued, h⟩ := exists_of_taken eq_int64_of_int64? h
    obtain ⟨_, hemail, h⟩ := exists_of_taken (eq_optional_of_optional? eq_text_of_text?) h
    obtain ⟨_, hverified, h⟩ := exists_of_taken (eq_optional_of_optional? eq_boolean_of_boolean?) h
    obtain ⟨_, hname, h⟩ := exists_of_taken (eq_optional_of_optional? eq_text_of_text?) h
    obtain rfl := Option.some.inj h
    simp only [members, List.mem_cons, List.not_mem_nil, or_false] at hm
    rcases hm with rfl | rfl | rfl | rfl | rfl | rfl | rfl | rfl
    · exact hissuer
    · exact hsubject
    · exact haudience
    · exact hexpires
    · exact hissued
    · exact hemail
    · exact hverified
    · exact hname

/-- Claims give an identity. -/
structure Gives (c : Claims) (i : Identity) : Prop where
  /-- They do not deny that the email is verified. -/
  undenied : c.emailVerified ≠ some false
  subject_eq : i.subject = c.subject
  /-- The name is empty if there is none. -/
  name_eq : i.name = c.name.getD ""
  /-- The email is the claimed one without the blanks at its ends. -/
  email_trims : ∃ email, c.email = some email ∧ Text.Trims email i.email
  email_ne : i.email ≠ ""

/-- The identity of claims is the one that they give. -/
theorem gives_of_identity {c : Claims} {i : Identity} (h : c.identity = .ok i) : c.Gives i := by
  unfold identity at h
  by_cases hdenied : c.emailVerified = some false
  · rw [if_pos hdenied] at h
    cases h
  · simp only [if_neg hdenied] at h
    by_cases hempty : (Text.trim (c.email.getD "")).isEmpty = true
    · rw [if_pos hempty] at h
      cases h
    · rw [if_neg hempty] at h
      obtain rfl := Except.ok.inj h
      refine ⟨hdenied, rfl, rfl, ?_, ?_⟩
      · cases hemail : c.email with
        | none =>
          rw [hemail] at hempty
          exact absurd (by decide) hempty
        | some email => exact ⟨email, rfl, Text.trims_trim email⟩
      · rintro heq
        simp only [String.isEmpty_iff] at hempty
        exact hempty heq

end Claims

/-! ## Tokens -/

/-- A key stands behind what a token tells a client at `now`. -/
structure Key.Vouches (k : Key) (audience : String) (now : Int) (p : Compact) (c : Claims) : Prop where
  /-- The header names the algorithm and the key. -/
  header_names : ∃ v, Header.Holds p.header v ∧ v.member? "alg" = some (.text "RS256") ∧
    v.member? "kid" = some (.text k.id)
  /-- The message was signed with the key, and the signature is written behind it. -/
  signed : ∃ key signature, k.publicKey? = some key ∧
    p.signature = Text.Base64.encode .url signature ∧
    key.verifies (Text.Utf8.encode p.message) signature = true
  /-- The claims are those of the second part. -/
  claims_eq : Carries p.claims c
  /-- If the second part is an object, it shows the claims. -/
  claims_shown : ∀ ms, HoldsObject p.claims ms → Shows ms c
  issuer_eq : c.issuer = "accounts.google.com" ∨ c.issuer = "https://accounts.google.com"
  audience_eq : c.audience = audience
  /-- They expired no more than a minute ago. -/
  alive : now - 60 ≤ c.expires.toInt

/-- A token that names a key and is accepted with it is one that the key vouches for. -/
theorem Key.vouches_of_accepted? {k : Key} {key : Rsa.PublicKey} {audience token : String} {now : Int}
    {c : Claims} (hnamed : namedKey? token = some k.id) (hkey : k.publicKey? = some key)
    (h : accepted? key audience now token = some c) :
    ∃ p : Compact, p.Cuts token ∧ k.Vouches audience now p c := by
  obtain ⟨p, hcuts, hheader⟩ := Header.ofToken?_eq_some_iff.mp (namedKey?_eq_some_iff.mp hnamed)
  have hname : Algorithm.names.lookup "RS256" = some .rs256 := rfl
  obtain ⟨v, hholds, halgorithm, hkeyId⟩ := Header.exists_of_ofPart? hheader hname
  simp only [accepted?, Option.bind_eq_bind, Option.bind_eq_some_iff] at h
  obtain ⟨p', hparts, signature, hsignature, h⟩ := h
  obtain rfl : p' = p := (Compact.ofToken?_eq_some_iff.mp hparts).unique hcuts
  split at h
  · rename_i hverifies
    obtain ⟨c', hclaims, hrules⟩ := Option.bind_eq_some_iff.mp h
    split at hrules
    · rename_i hkept
      obtain ⟨hissuer, haudience, -, halive⟩ := hkept
      obtain rfl := Option.some.inj hrules
      have hcarries := carries_of_read hclaims
      have hwritten := Text.Base64.encode_of_decode? Text.Base64.Alphabet.strict_url hsignature
      refine ⟨p', hcuts, ⟨v, hholds, halgorithm, hkeyId _ rfl⟩, ⟨key, signature, hkey, hwritten.symm,
        hverifies⟩, hcarries, ?_, ?_, haudience, halive⟩
      · intro ms hobject
        obtain ⟨source, hparse, hany⟩ := Tells.and hcarries hobject
        exact Claims.recorded.shows hparse hany
      · simpa [issuers] using hissuer
    · cases hrules
  · cases h

namespace Verifier

/-- A verifier has a key for a call, and is another one afterwards if it fetched the key. -/
inductive Supplies (v : Verifier) (now : Int) (k : Key) : Verifier → Prop where
  /-- The key was there and is still good. -/
  | known (hit : v.cache.find? now k.id = some k) : Supplies v now k v
  /-- It is one of the keys that were fetched for the call. -/
  | fetched {keys : KeySet} (miss : v.cache.find? now k.id = none) (gives : v.server.Gives keys)
      (found : keys.find? k.id = some k) : Supplies v now k (v.refreshed keys now)

/-- A key with which somebody is let in vouches for the token. -/
theorem exists_of_identityBy {v : Verifier} {k : Key} {token : String} {now : Int} {i : Identity}
    (hnamed : namedKey? token = some k.id) (h : v.identityBy k now token = .ok i) :
    ∃ p c, p.Cuts token ∧ k.Vouches v.audience now p c ∧ c.Gives i := by
  unfold identityBy at h
  cases hkey : k.publicKey? with
  | none =>
    rw [hkey] at h
    cases h
  | some key =>
    rw [hkey] at h
    simp only at h
    cases haccepted : accepted? key v.audience now token with
    | none =>
      rw [haccepted] at h
      cases h
    | some c =>
      rw [haccepted] at h
      obtain ⟨p, hcuts, hvouches⟩ := Key.vouches_of_accepted? hnamed hkey haccepted
      exact ⟨p, c, hcuts, hvouches, Claims.gives_of_identity h⟩

/-- Somebody is let in with a key that the verifier has. -/
theorem exists_of_verify {v v' : Verifier} {token : String} {now : Int} {i : Identity}
    (h : v.verify token now = (.ok i, v')) :
    ∃ k p c, v.Supplies now k v' ∧ p.Cuts token ∧ k.Vouches v.audience now p c ∧ c.Gives i := by
  have hanswers := v.verify_answers token now
  rw [h] at hanswers
  generalize houtcome : (Except.ok i, v') = outcome at hanswers
  cases hanswers with
  | unnamed => cases houtcome
  | @known id key hnamed hit =>
    obtain ⟨hidentity, rfl⟩ := Prod.mk.inj houtcome
    obtain rfl := (KeySet.mem_of_find? (KeyCache.find?_keys hit)).2
    obtain ⟨p, c, hcuts, hvouches, hgives⟩ := exists_of_identityBy hnamed hidentity.symm
    exact ⟨key, p, c, .known hit, hcuts, hvouches, hgives⟩
  | failed => cases houtcome
  | @fetched id keys key hnamed hmiss hkeys hfound =>
    obtain ⟨hidentity, rfl⟩ := Prod.mk.inj houtcome
    obtain rfl := (KeySet.mem_of_find? hfound).2
    obtain ⟨p, c, hcuts, hvouches, hgives⟩ := exists_of_identityBy hnamed hidentity.symm
    exact ⟨key, p, c, .fetched hmiss hkeys hfound, hcuts, hvouches, hgives⟩
  | absent => cases houtcome

/-- **A verifier lets in only those for whom a key vouches.** Whatever its cache holds, whatever the
server of keys answers and whatever a token is: the token is refused, or it names a key that was in the
cache or has just been fetched, the key vouches for it, and the identity is the one that the claims give.

A token that some issuer of sessions accepts is always refused, and nothing is asked for it. -/
theorem accepts_only_genuine (v : Verifier) (token : String) (now : Int) :
    ((∃ refusal, (v.verify token now).1 = .error refusal) ∨
      ∃ i k p c, (v.verify token now).1 = .ok i ∧ v.Supplies now k (v.verify token now).2 ∧
        p.Cuts token ∧ k.Vouches v.audience now p c ∧ c.Gives i) ∧
    ∀ (j : Session.Issuer) (now' : Int) (c : Session.Claims), j.verify token now' = .ok c →
      v.verify token now = (.error .invalidToken, v) := by
  constructor
  · cases hverify : v.verify token now with
    | mk outcome v' =>
      cases outcome with
      | error refusal => exact .inl ⟨refusal, rfl⟩
      | ok i =>
        obtain ⟨k, p, c, hsupplies, hcuts, hvouches, hgives⟩ := exists_of_verify hverify
        exact .inr ⟨i, k, p, c, rfl, hsupplies, hcuts, hvouches, hgives⟩
  · intro j now' c haccepted
    obtain ⟨p, keyId, hcuts, hheader, -⟩ := Session.Issuer.exists_of_verify haccepted
    have hsession : Header.ofToken? token = some ⟨.hs256, keyId⟩ :=
      Header.ofToken?_eq_some_iff.mpr ⟨p, hcuts, hheader⟩
    have hunnamed : namedKey? token = none := by
      rw [namedKey?, hsession]
      rfl
    exact verify_unnamed hunnamed

/-- A token that is signed with a known key, is meant for the client and has not expired lets its bearer
in, if its claims give an identity. -/
theorem verify_of_parts {v : Verifier} {token id : String} {now : Int} {p : Compact} {k : Key}
    {key : Rsa.PublicKey} {signature : List UInt8} {c : Claims} (hcuts : p.Cuts token)
    (hheader : Header.ofPart? p.header = some ⟨.rs256, some id⟩)
    (hfind : v.cache.find? now id = some k) (hkey : k.publicKey? = some key)
    (hsignature : p.signature = Text.Base64.encode .url signature)
    (hverifies : key.verifies (Text.Utf8.encode p.message) signature = true)
    (hclaims : claimsOfPart? p.claims = some c)
    (hrules : issuers.contains c.issuer ∧ c.audience = v.audience ∧ 0 ≤ c.expires.toInt ∧
      now - leeway ≤ c.expires.toInt) :
    v.verify token now = (c.identity, v) := by
  have hnamed : namedKey? token = some id :=
    namedKey?_eq_some_iff.mpr (Header.ofToken?_eq_some_iff.mpr ⟨p, hcuts, hheader⟩)
  have hdecode : Text.Base64.decode? .url p.signature = some signature := by
    rw [hsignature, Text.Base64.decode?_encode Text.Base64.Alphabet.distinct_url]
  have haccepted : accepted? key v.audience now token = some c := by
    simp only [accepted?, Compact.ofToken?_eq_some_iff.mpr hcuts, Option.bind_eq_bind,
      Option.bind_some, hdecode, hverifies, if_true, hclaims, if_pos hrules, Option.pure_def]
  have hidentity : v.identityBy k now token = c.identity := by
    simp only [identityBy, hkey, haccepted]
  rw [verify_known hnamed hfind, hidentity]

/-! ## A genuine token -/

/-- The header of a token that is signed with the key `k`. -/
def sampleHeader : String :=
  "\x7b\x22alg\x22:\x22RS256\x22,\x22kid\x22:\x22k\x22\x7d"

/-- The claims of a person, with blanks around the email. -/
def samplePayload : String :=
  "\x7b\x22iss\x22:\x22accounts.google.com\x22,\x22sub\x22:\x221\x22,\x22aud\x22:\x22c\x22," ++
    "\x22exp\x22:3600,\x22iat\x22:0,\x22email\x22:\x22 a@b\u00a0\x22\x7d"

/-- The message of the person's token. -/
def sampleMessage : List Char := partOfText sampleHeader ++ '.' :: partOfText samplePayload

/-- The digest of the message. -/
theorem digest_sampleMessage : Digest.sha256.digest (Text.Utf8.encode sampleMessage) =
    [0x90, 0x9D, 0xDD, 0x71, 0x4C, 0xF8, 0x90, 0x43, 0x09, 0xCC, 0xA3, 0x83, 0x2B, 0xB2, 0x30, 0xA3,
      0xD3, 0x62, 0x10, 0x1A, 0x63, 0x75, 0x13, 0xD5, 0x7C, 0xEF, 0x1B, 0x1F, 0x1C, 0xDB, 0xEA,
      0x28] := by
  decide +kernel

/-- A number whose third power has 2048 bits. -/
def sampleRoot : Nat := 3 * Nat.pow 2 681 + 1

/-- A key with which this number signs the message: the third power exceeds the modulus by the padded
digest. -/
def samplePublicKey : Rsa.PublicKey :=
  ⟨Octets.ofNat 256
    (Nat.pow sampleRoot 3 - Octets.toNat (Rsa.padded 256 (Text.Utf8.encode sampleMessage))), [3]⟩

/-- The key as it is published. -/
def sampleKey : Key :=
  ⟨"k", String.ofList (Text.Base64.encode .url samplePublicKey.modulus),
    String.ofList (Text.Base64.encode .url samplePublicKey.exponent)⟩

/-- A verifier that fetched the key in the first minute of 1970. -/
def sampleVerifier : Verifier := ⟨"c", ⟨⟨[sampleKey]⟩, some 60⟩, ⟨false, [], 0⟩⟩

/-- The person's token in its parts. -/
def sampleParts : Compact :=
  ⟨sampleMessage, partOfText sampleHeader, partOfText samplePayload,
    Text.Base64.encode .url (Octets.ofNat 256 sampleRoot)⟩

/-- The person's token. -/
def sampleToken : String := String.ofList (sampleMessage ++ '.' :: sampleParts.signature)

/-- The person is let in for an hour and a minute; a session is not let in. -/
theorem accepts_only_genuine_sample :
    (∃ k p c, sampleVerifier.Supplies 3660 k sampleVerifier ∧ p.Cuts sampleToken ∧
      k.Vouches "c" 3660 p c ∧ c.Gives ⟨"1", "a@b", ""⟩) ∧
      sampleVerifier.verify (Session.Issuer.sign ⟨"secret"⟩ Session.Issuer.sampleClaims) 0 =
        (.error .invalidToken, sampleVerifier) := by
  constructor
  · have hcuts : sampleParts.Cuts sampleToken :=
      ⟨String.toList_ofList, Text.Base64.point_not_mem_encode _, rfl,
        Text.Base64.point_not_mem_encode _⟩
    have hheader : Header.ofPart? sampleParts.header = some ⟨.rs256, some "k"⟩ := by
      show Header.ofPart? (partOfText sampleHeader) = _
      rw [Header.ofPart?, sourceOfPart?_partOfText]
      decide +kernel
    have hpublic : sampleKey.publicKey? = some samplePublicKey := by
      simp only [Key.publicKey?, sampleKey, String.toList_ofList,
        Text.Base64.decode?_encode Text.Base64.Alphabet.distinct_url, Option.bind_eq_bind,
        Option.bind_some, Option.pure_def]
    have hverifies : samplePublicKey.verifies (Text.Utf8.encode sampleParts.message)
        (Octets.ofNat 256 sampleRoot) = true := by
      show samplePublicKey.verifies (Text.Utf8.encode sampleMessage) _ = true
      simp only [Rsa.PublicKey.verifies, samplePublicKey, Rsa.padded, digest_sampleMessage]
      decide +kernel
    have hclaims : claimsOfPart? sampleParts.claims = some
        ⟨"accounts.google.com", "1", "c", 3600, 0, some " a@b\u00a0", none, none⟩ := by
      show claimsOfPart? (partOfText samplePayload) = _
      rw [claimsOfPart?, sourceOfPart?_partOfText]
      decide +kernel
    have hverify : sampleVerifier.verify sampleToken 3660 = (.ok ⟨"1", "a@b", ""⟩, sampleVerifier) :=
      verify_of_parts hcuts hheader rfl hpublic rfl hverifies hclaims
        ⟨by decide, rfl, by decide, by decide⟩
    obtain ⟨⟨refusal, hrefused⟩ | ⟨i, k, p, c, haccepted, hsupplies, hparts, hvouches, hgives⟩, -⟩ :=
      accepts_only_genuine sampleVerifier sampleToken 3660
    · rw [hverify] at hrefused
      cases hrefused
    · rw [hverify] at haccepted hsupplies
      obtain rfl := Except.ok.inj haccepted
      exact ⟨k, p, c, hsupplies, hparts, hvouches, hgives⟩
  · obtain ⟨-, hsession⟩ := accepts_only_genuine sampleVerifier
      (Session.Issuer.sign ⟨"secret"⟩ Session.Issuer.sampleClaims) 0
    exact hsession ⟨"secret"⟩ 0 Session.Issuer.sampleClaims
      (by rw [Session.Issuer.verify_sign, if_pos (by decide)])

end Verifier

end TenantOnboarding.Google
