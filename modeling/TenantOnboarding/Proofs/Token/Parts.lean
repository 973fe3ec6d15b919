import TenantOnboarding.Proofs.Text.Cutting
import TenantOnboarding.Proofs.Text.RoundTrip
import TenantOnboarding.Token.Header

/-!
# Parts of tokens

* **`Compact.ofToken?_eq_some_iff`**: the parts of a token are the texts that stand in it with points
  between them (`Compact.Cuts`).
* `sourceOfPart?_partOfText` reads a written part back, and `encode_of_sourceOfPart?` says that nothing
  else is read.
-/

namespace TenantOnboarding.Token

/-! ## Cutting -/

/-- Where a text is cut: at its last point. -/
theorem cutLast?_eq_some_iff {cs before behind : List Char} :
    cutLast? cs = some (before, behind) ↔ cs = before ++ '.' :: behind ∧ '.' ∉ behind := by
  rw [← Text.cut_reverse_iff]
  unfold cutLast?
  constructor
  · intro h
    split at h
    · cases h
    · rename_i c rest hdrop
      cases h
      rw [hdrop, Text.eq_of_dropWhile hdrop, List.reverse_reverse, List.reverse_reverse]
      exact ⟨rfl, rfl⟩
  · rintro ⟨htake, hdrop⟩
    simp only [hdrop, htake, List.reverse_reverse]

/-- A text is cut at its last point. -/
theorem cutLast?_append (before : List Char) {behind : List Char} (hbehind : '.' ∉ behind) :
    cutLast? (before ++ '.' :: behind) = some (before, behind) :=
  cutLast?_eq_some_iff.mpr ⟨rfl, hbehind⟩

/-- The parts of a token stand in it one behind another, with a point between them. Neither the claims
nor the signature have points. -/
structure Compact.Cuts (p : Compact) (token : String) : Prop where
  token_eq : token.toList = p.message ++ '.' :: p.signature
  signature_whole : '.' ∉ p.signature
  message_eq : p.message = p.header ++ '.' :: p.claims
  claims_whole : '.' ∉ p.claims

/-- A token has the parts into which it is cut, and no others. -/
theorem Compact.ofToken?_eq_some_iff {token : String} {p : Compact} :
    Compact.ofToken? token = some p ↔ p.Cuts token := by
  constructor
  · intro h
    simp only [ofToken?, Option.bind_eq_bind, Option.bind_eq_some_iff, Option.pure_def,
      Option.some.injEq] at h
    obtain ⟨⟨message, signature⟩, hfirst, ⟨header, claims⟩, hsecond, rfl⟩ := h
    obtain ⟨htoken, hsignature⟩ := cutLast?_eq_some_iff.mp hfirst
    obtain ⟨hmessage, hclaims⟩ := cutLast?_eq_some_iff.mp hsecond
    exact ⟨htoken, hsignature, hmessage, hclaims⟩
  · intro h
    rw [ofToken?, h.token_eq, cutLast?_append _ h.signature_whole]
    simp only [Option.bind_eq_bind, Option.bind_some, h.message_eq,
      cutLast?_append _ h.claims_whole, Option.pure_def]
    rw [← h.message_eq]

/-- A token is cut in one way. -/
theorem Compact.Cuts.unique {token : String} {p q : Compact} (hp : p.Cuts token) (hq : q.Cuts token) :
    p = q := by
  have hparts := ofToken?_eq_some_iff.mpr hp
  rw [ofToken?_eq_some_iff.mpr hq] at hparts
  exact (Option.some.inj hparts).symm

/-! ## Texts of parts -/

/-- The text of a part is read back. -/
theorem sourceOfPart?_partOfText (text : String) :
    sourceOfPart? (partOfText text) = some (text.toList.map some) := by
  rw [sourceOfPart?, partOfText, Text.Base64.decode?_encode Text.Base64.Alphabet.distinct_url,
    Option.map_some, Text.Utf8.ofString, Text.Utf8.decode_encode]

/-- A part that can be read is what its bytes are written as. -/
theorem encode_of_sourceOfPart? {part : List Char} {source : Json.Source}
    (h : sourceOfPart? part = some source) :
    ∃ bytes, part = Text.Base64.encode .url bytes ∧ source = Text.Utf8.decode bytes := by
  obtain ⟨bytes, hbytes, rfl⟩ := Option.map_eq_some_iff.mp h
  exact ⟨bytes, (Text.Base64.encode_of_decode? Text.Base64.Alphabet.strict_url hbytes).symm, rfl⟩

end TenantOnboarding.Token
