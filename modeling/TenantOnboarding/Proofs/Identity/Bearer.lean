import TenantOnboarding.Identity.Bearer
import TenantOnboarding.Proofs.Text.RoundTrip
import TenantOnboarding.Proofs.Text.Trimming

/-!
# What an authorization header carries

* `Carries value token` says it without reading the value: the bytes are visible, they are the scheme and
  some text, and the token is that text without the blanks around it.
* **`token_eq_ok_iff`**: this is what is read.
* `carries_self_iff`: the tokens that are read from a header that was made of them.
-/

namespace TenantOnboarding.Bearer

open Text

/-- A header value carries a token. -/
structure Carries (value : List UInt8) (token : String) : Prop where
  /-- All bytes are visible ASCII, spaces or tabs. -/
  visible : ∀ b ∈ value, (0x20 ≤ b ∧ b < 0x7F) ∨ b = 0x09
  /-- They are the word `Bearer`, a space, and a text that is trimmed to the token. -/
  scheme : ∃ rest : String, value = Utf8.ofString ("Bearer " ++ rest) ∧ Trims rest token
  /-- The text is not blank. -/
  some : token ≠ ""

variable {value : List UInt8} {text : List Char} {token : String}

/-! ## Visible text -/

/-- Whether a byte is visible, in words. -/
theorem isVisible_iff {b : UInt8} :
    isVisible b = true ↔ (0x20 ≤ b ∧ b < 0x7F) ∨ b = 0x09 := by
  simp [isVisible]

/-- Visible bytes are ASCII. -/
theorem toNat_lt_of_isVisible {b : UInt8} (h : isVisible b = true) : b.toNat < 128 := by
  obtain ⟨-, h⟩ | rfl := isVisible_iff.mp h
  · exact Nat.lt_trans (UInt8.lt_iff_toNat_lt.mp h) (by decide)
  · decide

/-- A value has a text if all its bytes are visible, and is what the text is written as. -/
theorem visible?_eq_some_iff :
    visible? value = some text ↔ (∀ b ∈ value, isVisible b = true) ∧ value = Utf8.encode text := by
  unfold visible?
  rw [← List.all_eq_true]
  by_cases hvisible : value.all isVisible = true
  · have hwritten : Utf8.encode (value.map fun b => Char.ofNat b.toNat) = value :=
      Utf8.encode_ascii fun b hb => toNat_lt_of_isVisible (List.all_eq_true.mp hvisible b hb)
    rw [if_pos hvisible, Option.some_inj]
    constructor
    · rintro rfl
      exact ⟨hvisible, hwritten.symm⟩
    · rintro ⟨-, hvalue⟩
      exact Utf8.encode_injective (hwritten.trans hvalue)
  · rw [if_neg hvisible]
    constructor
    · nofun
    · exact fun h => absurd h.1 hvisible

/-! ## The scheme -/

/-- What stands behind the scheme. -/
theorem behindScheme?_eq_some_iff :
    behindScheme? text = some token ↔
      ∃ rest : String, text = scheme ++ rest.toList ∧ Trims rest token ∧ token ≠ "" := by
  have hread (rest : String) : behindScheme? (scheme ++ rest.toList) = some token ↔
      Trims rest token ∧ token ≠ "" := by
    have hprefix : scheme.isPrefixOf (scheme ++ rest.toList) = true :=
      List.isPrefixOf_iff_prefix.mpr (List.prefix_append ..)
    have hempty : (trimEnd (trimStart rest.toList)).isEmpty = true ↔ trim rest = "" := by
      rw [trim, String.ofList_eq_empty_iff, List.isEmpty_iff]
    rw [behindScheme?, if_pos hprefix, List.drop_left, trims_iff]
    dsimp only
    constructor
    · intro h
      split at h
      · cases h
      · rename_i hsome
        cases h
        exact ⟨rfl, fun h => hsome (hempty.mpr h)⟩
    · rintro ⟨rfl, hsome⟩
      exact if_neg fun h => hsome (hempty.mp h)
  constructor
  · intro h
    have hprefix : scheme.isPrefixOf text = true := by
      by_contra hother
      rw [behindScheme?, if_neg hother] at h
      cases h
    obtain ⟨rest, rfl⟩ := List.isPrefixOf_iff_prefix.mp hprefix
    rw [← String.toList_ofList (l := rest)] at h ⊢
    exact ⟨_, rfl, (hread _).mp h⟩
  · rintro ⟨rest, rfl, h⟩
    exact (hread rest).mpr h

/-! ## Tokens -/

/-- The scheme and a text are written as the scheme and the text's bytes. -/
theorem ofString_scheme (rest : String) :
    Utf8.ofString ("Bearer " ++ rest) = Utf8.encode (scheme ++ rest.toList) :=
  congrArg Utf8.encode String.toList_append

/-- **A token is read from a value exactly if the value carries it.** -/
theorem token_eq_ok_iff : Bearer.token value = .ok token ↔ Carries value token := by
  have hread : Bearer.token value = .ok token ↔
      ∃ text, visible? value = some text ∧ behindScheme? text = some token := by
    rw [← Option.bind_eq_some_iff, Bearer.token, Option.bind_eq_bind]
    cases (visible? value).bind behindScheme? with
    | none => simp
    | some found => simp
  rw [hread]
  simp only [visible?_eq_some_iff, behindScheme?_eq_some_iff, isVisible_iff]
  constructor
  · rintro ⟨text, ⟨hvisible, hvalue⟩, rest, rfl, htrims, hsome⟩
    exact ⟨hvisible, ⟨rest, hvalue.trans (ofString_scheme rest).symm, htrims⟩, hsome⟩
  · rintro ⟨hvisible, ⟨rest, hvalue, htrims⟩, hsome⟩
    exact ⟨_, ⟨hvisible, hvalue.trans (ofString_scheme rest)⟩, rest, rfl, htrims, hsome⟩

/-- A value that carries no token is refused. -/
theorem token_eq_error_iff {refusal : Refusal} :
    Bearer.token value = .error refusal ↔
      refusal = .malformedAuthorization ∧ ∀ token, ¬Carries value token := by
  simp only [← token_eq_ok_iff]
  unfold Bearer.token
  cases visible? value >>= behindScheme? with
  | none => simp [eq_comm]
  | some found => simp

/-- A text is written in visible bytes if all its characters are visible ASCII, spaces and tabs. -/
theorem visible_ofString_iff {s : String} :
    (∀ b ∈ Utf8.ofString s, isVisible b = true) ↔
      ∀ c ∈ s.toList, (' ' ≤ c ∧ c ≤ '~') ∨ c = '\t' := by
  have hascii : ∀ n < 128, isVisible (UInt8.ofNat n) = true ↔
      (' ' ≤ Char.ofNat n ∧ Char.ofNat n ≤ '~') ∨ Char.ofNat n = '\t' := by decide
  constructor
  · intro h c hc
    have hwritten := Utf8.encode_ascii fun b hb => toNat_lt_of_isVisible (h b hb)
    rw [← Utf8.encode_injective hwritten] at hc
    obtain ⟨b, hb, rfl⟩ := List.mem_map.mp hc
    apply (hascii b.toNat (toNat_lt_of_isVisible (h b hb))).mp
    rw [UInt8.ofNat_toNat]
    exact h b hb
  · intro h b hb
    obtain ⟨c, hc, hb⟩ := List.mem_flatMap.mp hb
    have hsmall : c.toNat < 128 := by
      obtain ⟨-, hlast⟩ | rfl := h c hc
      · exact Nat.lt_of_le_of_lt hlast (by decide)
      · decide
    rw [Utf8.encodeChar_of_ascii hsmall, List.mem_singleton] at hb
    rw [hb, hascii c.toNat hsmall, Char.ofNat_toNat]
    exact h c hc

/-- A header that was made of a token carries it, if a header can be made of it at all and no blank stands
at its ends. -/
theorem carries_self_iff : Carries (Utf8.ofString ("Bearer " ++ token)) token ↔
    token ≠ "" ∧ Trims token token ∧ ∀ c ∈ token.toList, (' ' ≤ c ∧ c ≤ '~') ∨ c = '\t' := by
  have hvisible : (∀ b ∈ Utf8.ofString ("Bearer " ++ token), isVisible b = true) ↔
      ∀ c ∈ token.toList, (' ' ≤ c ∧ c ≤ '~') ∨ c = '\t' := by
    have hscheme : (Utf8.ofString "Bearer ").all isVisible = true := by decide +kernel
    rw [visible_ofString_iff, String.toList_append, List.forall_mem_append]
    exact and_iff_right (visible_ofString_iff.mp (List.all_eq_true.mp hscheme))
  simp only [isVisible_iff] at hvisible
  constructor
  · rintro ⟨hbytes, ⟨rest, hvalue, htrims⟩, hsome⟩
    obtain rfl : token = rest := by
      rw [ofString_scheme, ofString_scheme] at hvalue
      exact String.toList_injective (List.append_cancel_left (Utf8.encode_injective hvalue))
    exact ⟨hsome, htrims, hvisible.mp hbytes⟩
  · rintro ⟨hsome, htrims, hchars⟩
    exact ⟨hvisible.mpr hchars, ⟨token, rfl, htrims⟩, hsome⟩

end TenantOnboarding.Bearer
