import Mathlib.Data.List.Basic
import TenantOnboarding.Text.Base64
import TenantOnboarding.Text.Utf8

/-!
# Bytes read back

* **`Base64.decode?_encode`**: bytes that are written in base 64 are read back, in every alphabet whose
  characters are told apart. A token may be cut at its points because `Base64.encode` writes none.
* **`Base64.encode_of_decode?`**: nothing else is read, so bytes have one written form.
* **`Utf8.decode_encode`**: characters that are written as bytes are read back, whatever they are, and
  `Utf8.encode_ascii`: an ASCII character is one byte.
-/

namespace TenantOnboarding.Text

/-! ## Base 64 -/

namespace Base64

variable {a : Alphabet}

/-- The characters of an alphabet are told apart. -/
def Alphabet.Distinct (a : Alphabet) : Prop :=
  ∀ n < 64, a.value? (a.char n) = some n

/-- The alphabet of tokens tells its characters apart. -/
theorem Alphabet.distinct_url : Alphabet.url.Distinct := by
  unfold Distinct
  decide

/-- The alphabet of tokens has no point. -/
theorem Alphabet.char_url_ne (n : Nat) : Alphabet.url.char n ≠ '.' := by
  by_cases hn : n < 64
  · exact (by decide : ∀ n < 64, Alphabet.url.char n ≠ '.') n hn
  · have hlast : Alphabet.url.char n = '_' := by
      simp only [char, url]
      rw [if_neg (by omega), if_neg (by omega), if_neg (by omega), if_neg (by omega)]
    rw [hlast]
    decide

/-- A byte is determined by its number and what is added in front of it. -/
theorem ofNat_of_mod {x : UInt8} {n : Nat} (h : n % 256 = x.toNat) : UInt8.ofNat n = x := by
  apply UInt8.toNat_inj.mp
  rw [UInt8.toNat_ofNat', ← h]

/-- **Bytes are read back.** -/
theorem decode?_encode (ha : a.Distinct) (bytes : List UInt8) :
    decode? a (encode a bytes) = some bytes := by
  fun_induction encode a bytes with
  | case1 x y z rest n ih =>
    have hx := x.toNat_lt
    have hy := y.toNat_lt
    have hz := z.toNat_lt
    have hn : n / 262144 * 262144 + n / 4096 % 64 * 4096 + n / 64 % 64 * 64 + n % 64 = n := by omega
    simp only [decode?, ha (n / 262144) (by omega), ha (n / 4096 % 64) (by omega),
      ha (n / 64 % 64) (by omega), ha (n % 64) (by omega), ih, Option.bind_eq_bind,
      Option.bind_some, Option.pure_def, hn]
    rw [ofNat_of_mod (x := x) (by omega), ofNat_of_mod (x := y) (by omega),
      ofNat_of_mod (x := z) (by omega)]
  | case2 x y n =>
    have hx := x.toNat_lt
    have hy := y.toNat_lt
    have hn : n / 4096 * 4096 + n / 64 % 64 * 64 + n % 64 = n := by omega
    simp only [decode?, ha (n / 4096) (by omega), ha (n / 64 % 64) (by omega),
      ha (n % 64) (by omega), Option.bind_eq_bind, Option.bind_some, Option.pure_def, hn]
    rw [if_pos (by omega), ofNat_of_mod (x := x) (by omega), ofNat_of_mod (x := y) (by omega)]
  | case3 x n =>
    have hx := x.toNat_lt
    have hn : n / 64 * 64 + n % 64 = n := by omega
    simp only [decode?, ha (n / 64) (by omega), ha (n % 64) (by omega), Option.bind_eq_bind,
      Option.bind_some, Option.pure_def, hn]
    rw [if_pos (by omega), ofNat_of_mod (x := x) (by omega)]
  | case4 => rfl

/-- Bytes are written without points in the alphabet of tokens. -/
theorem point_not_mem_encode (bytes : List UInt8) : '.' ∉ encode .url bytes := by
  fun_induction encode .url bytes with
  | case1 x y z rest n ih => simp [ih, (Alphabet.char_url_ne _).symm]
  | case2 x y n => simp [(Alphabet.char_url_ne _).symm]
  | case3 x n => simp [(Alphabet.char_url_ne _).symm]
  | case4 => simp

/-- Every character that an alphabet reads is the one that it writes for the number. -/
def Alphabet.Strict (a : Alphabet) : Prop :=
  ∀ c n, a.value? c = some n → n < 64 ∧ a.char n = c

/-- The alphabet of tokens is strict. -/
theorem Alphabet.strict_url : Alphabet.url.Strict := by
  have hchar : ∀ {c : Char} {n : Nat}, n = c.toNat → Char.ofNat n = c := by
    rintro c n rfl
    exact Char.ofNat_toNat c
  intro c n h
  simp only [value?] at h
  split at h
  · rename_i hc
    obtain ⟨hfirst, hlast⟩ : 65 ≤ c.toNat ∧ c.toNat ≤ 90 := hc
    obtain rfl : c.toNat - 65 = n := Option.some.inj h
    rw [char, if_pos (by omega)]
    exact ⟨by omega, hchar (show 65 + (c.toNat - 65) = _ by omega)⟩
  split at h
  · rename_i hc
    obtain ⟨hfirst, hlast⟩ : 97 ≤ c.toNat ∧ c.toNat ≤ 122 := hc
    obtain rfl : c.toNat - 97 + 26 = n := Option.some.inj h
    rw [char, if_neg (by omega), if_pos (by omega)]
    exact ⟨by omega, hchar (show 97 + (c.toNat - 97 + 26 - 26) = _ by omega)⟩
  split at h
  · rename_i hc
    obtain ⟨hfirst, hlast⟩ : 48 ≤ c.toNat ∧ c.toNat ≤ 57 := hc
    obtain rfl : c.toNat - 48 + 52 = n := Option.some.inj h
    rw [char, if_neg (by omega), if_neg (by omega), if_pos (by omega)]
    exact ⟨by omega, hchar (show 48 + (c.toNat - 48 + 52 - 52) = _ by omega)⟩
  split at h
  · rename_i hc
    cases h
    exact ⟨by decide, hc.symm⟩
  split at h
  · rename_i hc
    cases h
    exact ⟨by decide, hc.symm⟩
  · cases h

/-- A number below 2²⁴ is made of three bytes. -/
theorem join_bytes {n : Nat} (h : n < 16777216) :
    n / 65536 % 256 * 65536 + n / 256 % 256 * 256 + n % 256 = n := by
  omega

/-- **Characters that are read are those that the bytes are written as.** -/
theorem encode_of_decode? (ha : a.Strict) {cs : List Char} {bytes : List UInt8}
    (h : decode? a cs = some bytes) : encode a bytes = cs := by
  fun_induction decode? a cs generalizing bytes with
  | case1 p q r s rest ih =>
    simp only [Option.bind_eq_bind, Option.bind_eq_some_iff, Option.pure_def,
      Option.some.injEq] at h
    obtain ⟨w, hw, x, hx, y, hy, z, hz, bytes, hrest, rfl⟩ := h
    obtain ⟨hw, rfl⟩ := ha _ _ hw
    obtain ⟨hx, rfl⟩ := ha _ _ hx
    obtain ⟨hy, rfl⟩ := ha _ _ hy
    obtain ⟨hz, rfl⟩ := ha _ _ hz
    generalize hn : w * 262144 + x * 4096 + y * 64 + z = n
    have hlt : n < 16777216 := by omega
    have hbytes := join_bytes hlt
    simp only [encode, UInt8.toNat_ofNat', Nat.reducePow, ih hrest, hbytes]
    rw [show n / 262144 = w by omega, show n / 4096 % 64 = x by omega,
      show n / 64 % 64 = y by omega, show n % 64 = z by omega]
  | case2 p q r =>
    simp only [Option.bind_eq_bind, Option.bind_eq_some_iff, Option.pure_def] at h
    obtain ⟨w, hw, x, hx, y, hy, h⟩ := h
    obtain ⟨hw, rfl⟩ := ha _ _ hw
    obtain ⟨hx, rfl⟩ := ha _ _ hx
    obtain ⟨hy, rfl⟩ := ha _ _ hy
    generalize hn : w * 4096 + x * 64 + y = n at h
    split at h
    · cases h
      have hbytes : (n / 1024 % 256 * 256 + n / 4 % 256) * 4 = n := by omega
      simp only [encode, UInt8.toNat_ofNat', Nat.reducePow, hbytes]
      rw [show n / 4096 = w by omega, show n / 64 % 64 = x by omega, show n % 64 = y by omega]
    · cases h
  | case3 p q =>
    simp only [Option.bind_eq_bind, Option.bind_eq_some_iff, Option.pure_def] at h
    obtain ⟨w, hw, x, hx, h⟩ := h
    obtain ⟨hw, rfl⟩ := ha _ _ hw
    obtain ⟨hx, rfl⟩ := ha _ _ hx
    generalize hn : w * 64 + x = n at h
    split at h
    · cases h
      have hbytes : n / 16 % 256 * 16 = n := by omega
      simp only [encode, UInt8.toNat_ofNat', Nat.reducePow, hbytes]
      rw [show n / 64 = w by omega, show n % 64 = x by omega]
    · cases h
  | case4 => cases h
  | case5 =>
    cases h
    rfl

/-- Different bytes are written differently. -/
theorem encode_injective (ha : a.Distinct) {bytes bytes' : List UInt8}
    (h : encode a bytes = encode a bytes') : bytes = bytes' := by
  have hread := decode?_encode ha bytes
  rw [h, decode?_encode ha bytes'] at hread
  exact (Option.some.inj hread).symm

end Base64

/-! ## Characters -/

namespace Utf8

/-- The bytes of a character start with the character. -/
theorem first?_encodeChar (c : Char) (rest : List UInt8) :
    first? (String.utf8EncodeChar c ++ rest) = some c := by
  have hshort : (String.utf8EncodeChar c).length ≤ 4 := by
    rw [String.length_utf8EncodeChar]
    exact c.utf8Size_le_four
  unfold first?
  rw [List.take_append, List.take_of_length_le hshort, List.toByteArray_append]
  exact ByteArray.utf8DecodeChar?_utf8EncodeChar_append

/-- The bytes of a character are read as the character. -/
theorem decodeOnto_encodeChar (done : List (Option Char)) (c : Char) (rest : List UInt8) :
    decodeOnto done (String.utf8EncodeChar c ++ rest) = decodeOnto (some c :: done) rest := by
  have hfirst := first?_encodeChar c rest
  have hlength := String.length_utf8EncodeChar c
  rcases hbytes : String.utf8EncodeChar c with _ | ⟨b, bytes⟩
  · rw [hbytes] at hlength
    have := c.utf8Size_pos
    simp only [List.length_nil] at hlength
    omega
  · rw [hbytes, List.cons_append] at hfirst
    rw [hbytes, List.length_cons] at hlength
    rw [List.cons_append, decodeOnto, hfirst]
    have hdrop : (bytes ++ rest).drop (c.utf8Size - 1) = rest := by
      rw [← hlength, Nat.add_sub_cancel, List.drop_left]
    simp only [hdrop]

/-- **Characters are read back.** -/
theorem decode_encode (cs : List Char) : decode (encode cs) = cs.map some := by
  have honto : ∀ done, decodeOnto done (encode cs) = done.reverse ++ cs.map some := by
    induction cs with
    | nil =>
      intro done
      simp [encode, decodeOnto]
    | cons c cs ih =>
      intro done
      have hcons : encode (c :: cs) = String.utf8EncodeChar c ++ encode cs := List.flatMap_cons
      rw [hcons, decodeOnto_encodeChar, ih, List.reverse_cons, List.append_assoc]
      rfl
  exact honto []

/-- Different characters are written differently. -/
theorem encode_injective {cs ds : List Char} (h : encode cs = encode ds) : cs = ds := by
  have hread := decode_encode cs
  rw [h, decode_encode] at hread
  exact List.map_injective_iff.mpr (fun _ _ => Option.some.inj) hread.symm

/-- Different texts are written differently. -/
theorem ofString_injective {s t : String} (h : ofString s = ofString t) : s = t :=
  String.toList_inj.mp (encode_injective h)

/-- An ASCII character is written as one byte. -/
theorem encodeChar_of_ascii {c : Char} (h : c.toNat < 128) :
    String.utf8EncodeChar c = [UInt8.ofNat c.toNat] := by
  have hsize : c.utf8Size = 1 := by
    rw [Char.utf8Size_eq_one_iff, UInt32.le_iff_toNat_le]
    exact Nat.le_of_lt_succ h
  rw [String.utf8EncodeChar_eq_singleton hsize]
  rfl

/-- An ASCII character has its number. -/
theorem toNat_ofNat_ascii {n : Nat} (h : n < 128) : (Char.ofNat n).toNat = n :=
  (by decide : ∀ n < 128, (Char.ofNat n).toNat = n) n h

/-- ASCII bytes are what the characters with their numbers are written as. -/
theorem encode_ascii {bytes : List UInt8} (h : ∀ b ∈ bytes, b.toNat < 128) :
    encode (bytes.map fun b => Char.ofNat b.toNat) = bytes := by
  induction bytes with
  | nil => rfl
  | cons b bytes ih =>
    have hb := h b List.mem_cons_self
    have hfirst : String.utf8EncodeChar (Char.ofNat b.toNat) = [b] := by
      have hnumber := toNat_ofNat_ascii hb
      rw [encodeChar_of_ascii (by rwa [hnumber]), hnumber, UInt8.ofNat_toNat]
    have hrest := ih fun b' hb' => h b' (List.mem_cons_of_mem _ hb')
    unfold encode at hrest ⊢
    rw [List.map_cons, List.flatMap_cons, hfirst, hrest]
    rfl

end Utf8

end TenantOnboarding.Text
