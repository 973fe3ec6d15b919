import Mathlib.Data.List.Basic
import Mathlib.Tactic.SplitIfs
import TenantOnboarding.Json.Quoted
import TenantOnboarding.Proofs.Json.Grammar

/-!
# Texts read in whatever way they are written

* **`readQuoted_spellsAll`**: a text is read from every way to write it.
* `skipQuoted_areChars`: the end is found of everything that has the form of a text, also where a half of a
  pair stands alone.
* `quotes_writeQuoted`: what is written for a text is one of the ways to write it.
-/

namespace TenantOnboarding.Json

variable {t : List Char} {c e : Char} {n : Nat}

/-! ## Escapes -/

/-- A letter behind a backslash stands for its character, and `u` is no such letter. -/
theorem shortEscape?_of_mem (h : (e, c) ∈ letterEscapes) : e ≠ 'u' ∧ shortEscape? e = some c :=
  (by decide : ∀ p ∈ letterEscapes, p.1 ≠ 'u' ∧ shortEscape? p.1 = some p.2) (e, c) h

/-- The numbers between the characters belong to halves of pairs. -/
theorem not_surrogate (c : Char) : isLowSurrogate c.toNat = false ∧ isHighSurrogate c.toNat = false := by
  have hvalid : c.toNat < 0xD800 ∨ 0xDFFF < c.toNat ∧ c.toNat < 0x110000 := c.valid
  simp only [isLowSurrogate, isHighSurrogate, Bool.and_eq_false_iff, decide_eq_false_iff_not]
  omega

section escapes

variable (rest : Source)

/-- Four hexadecimal digits are read. -/
theorem readHex_hexFour (h : HexFour t n) : readHex (t.map some ++ rest) = .ok (n, rest) := by
  obtain ⟨ha, hb, hc, hd⟩ := h
  simp only [List.map_cons, List.map_nil, List.cons_append, List.nil_append, readHex, ha, hb, hc, hd,
    Text.valueOfDigits, List.foldl_cons, List.foldl_nil, Nat.zero_mul, Nat.zero_add]

/-- An escape with a letter is read. -/
theorem readEscape_short (he : e ≠ 'u') (h : shortEscape? e = some c) :
    readEscape (some e :: rest) = .ok (c, rest) := by
  unfold readEscape
  split
  · rename_i heq
    cases heq
  · rename_i heq
    cases heq
    exact absurd rfl he
  · rename_i heq
    cases heq
    simp only [h]
  · rename_i heq
    cases heq

/-- An escape with a letter is passed over. -/
theorem skipEscape_short (he : e ≠ 'u') (h : shortEscape? e = some c) :
    skipEscape (some e :: rest) = .ok rest := by
  unfold skipEscape
  split
  · rename_i heq
    cases heq
  · rename_i heq
    cases heq
    exact absurd rfl he
  · rename_i heq
    cases heq
    rw [h, Option.isSome_some, if_pos rfl]
  · rename_i heq
    cases heq

/-- An escape with the number of a character is read. -/
theorem readEscape_number (h : HexFour t c.toNat) :
    readEscape (some 'u' :: (t.map some ++ rest)) = .ok (c, rest) := by
  simp only [readEscape, readHex_hexFour rest h, not_surrogate, Char.ofNat_toNat, Bool.false_eq_true,
    if_false]

/-- An escape with the number of anything is passed over. -/
theorem skipEscape_number (h : HexFour t n) :
    skipEscape (some 'u' :: (t.map some ++ rest)) = .ok rest := by
  simp only [skipEscape, readHex_hexFour rest h]

/-- An escape with both halves of a pair is read. -/
theorem readEscape_pair {t' : List Char} {high low : Nat} (h : HexFour t high) (h' : HexFour t' low)
    (hhigh : 0xD800 ≤ high ∧ high ≤ 0xDBFF) (hlow : 0xDC00 ≤ low ∧ low ≤ 0xDFFF)
    (hc : c.toNat = 0x10000 + (high - 0xD800) * 0x400 + (low - 0xDC00)) :
    readEscape (some 'u' :: ((t ++ '\\' :: 'u' :: t').map some ++ rest)) = .ok (c, rest) := by
  have hnotlow : isLowSurrogate high = false := by
    simp only [isLowSurrogate, Bool.and_eq_false_iff, decide_eq_false_iff_not]
    omega
  have hishigh : isHighSurrogate high = true := by
    simp only [isHighSurrogate, Bool.and_eq_true, decide_eq_true_eq]
    exact hhigh
  have hislow : isLowSurrogate low = true := by
    simp only [isLowSurrogate, Bool.and_eq_true, decide_eq_true_eq]
    exact hlow
  have hsecond : readLowSurrogate (some '\\' :: some 'u' :: (t'.map some ++ rest)) = .ok (low, rest) := by
    simp only [readLowSurrogate, readHex_hexFour rest h', hislow, if_true]
  have hchar : Char.ofNat ((high - 0xD800) * 0x400 + (low - 0xDC00) + 0x10000) = c := by
    rw [show (high - 0xD800) * 0x400 + (low - 0xDC00) + 0x10000 = c.toNat by omega, Char.ofNat_toNat]
  rw [List.map_append, List.append_assoc, List.map_cons, List.map_cons, List.cons_append,
    List.cons_append]
  simp only [readEscape, readHex_hexFour _ h, hnotlow, hishigh, hsecond, hchar, Bool.false_eq_true,
    if_false, if_true]

end escapes

/-! ## Texts -/

section texts

variable (rest : Source)

/-- A written escape is read and goes to the text. -/
theorem readQuotedOnto_escape {done : List Char} {source : Source}
    (h : readEscape source = .ok (c, rest)) :
    readQuotedOnto done true (some '\\' :: source) = readQuotedOnto (c :: done) true rest := by
  rw [readQuotedOnto, if_neg (by decide), if_pos rfl]
  -- The match keeps its equation for the termination of the recursion, so that `h` cannot be rewritten
  -- under it.
  split
  · rename_i heq
    cases h.symm.trans heq
  · rename_i heq
    cases h.symm.trans heq
    rfl

/-- A written escape is passed over. -/
theorem skipQuoted_escape {source : Source} (h : skipEscape source = .ok rest) :
    skipQuoted (some '\\' :: source) = skipQuoted rest := by
  rw [skipQuoted, if_neg (by decide), if_pos rfl]
  split
  · rename_i heq
    cases h.symm.trans heq
  · rename_i heq
    cases h.symm.trans heq
    rfl

/-- A character is read in whatever way it is written. -/
theorem readQuotedOnto_spells (done : List Char) (h : Spells t c) :
    readQuotedOnto done true (t.map some ++ rest) = readQuotedOnto (c :: done) true rest := by
  cases h with
  | literal hc =>
    obtain ⟨hmark, hbackslash, hcontrol⟩ := hc
    rw [List.map_singleton, List.singleton_append, readQuotedOnto, if_neg hmark, if_neg hbackslash,
      if_neg (by omega)]
  | letter h =>
    obtain ⟨he, hc⟩ := shortEscape?_of_mem h
    exact readQuotedOnto_escape rest (readEscape_short rest he hc)
  | number h => exact readQuotedOnto_escape rest (readEscape_number rest h)
  | pair h h' hhigh hlow hc =>
    exact readQuotedOnto_escape rest (readEscape_pair rest h h' hhigh hlow hc)

/-- **A text is read in whatever way it is written.** -/
theorem readQuoted_spellsAll {s : String} (h : SpellsAll t s.toList) :
    readQuoted ((t ++ ['\x22']).map some ++ rest) = .ok (s, rest) := by
  have honto : ∀ {t cs}, SpellsAll t cs → ∀ done,
      readQuotedOnto done true ((t ++ ['\x22']).map some ++ rest) = .ok (done.reverse ++ cs, rest) := by
    intro t cs h
    induction h with
    | nil =>
      intro done
      simp [readQuotedOnto]
    | cons h _ ih =>
      intro done
      rw [List.append_assoc, List.map_append, List.append_assoc, readQuotedOnto_spells _ done h, ih,
        List.reverse_cons, List.append_assoc]
      rfl
  rw [readQuoted, honto h]
  simp

/-- The end is found of what has the form of a text. -/
theorem skipQuoted_areChars (h : AreChars t) :
    skipQuoted ((t ++ ['\x22']).map some ++ rest) = .ok rest := by
  induction h with
  | nil => simp [skipQuoted]
  | literal hc _ ih =>
    obtain ⟨hmark, hbackslash, hcontrol⟩ := hc
    rw [List.cons_append, List.map_cons, List.cons_append, skipQuoted, if_neg hmark, if_neg hbackslash,
      if_neg (by omega), ih]
  | letter he _ ih =>
    obtain ⟨hu, hc⟩ := shortEscape?_of_mem he
    exact (skipQuoted_escape _ (skipEscape_short _ hu hc)).trans ih
  | number ht _ ih =>
    rw [List.cons_append, List.cons_append, List.append_assoc, List.map_cons, List.map_cons,
      List.map_append, List.cons_append, List.cons_append, List.append_assoc]
    exact (skipQuoted_escape _ (skipEscape_number _ ht)).trans ih

end texts

/-- Characters that may stand for themselves do. -/
theorem spellsAll_literal {cs : List Char} (h : AreLiteral cs) : SpellsAll cs cs := by
  induction cs with
  | nil => exact .nil
  | cons c cs ih =>
    exact .cons (.literal (h c List.mem_cons_self)) (ih fun c' hc' => h c' (List.mem_cons_of_mem _ hc'))

/-- Ways to write characters stand one behind another. -/
theorem SpellsAll.append {ts cs cs' : List Char} (h : SpellsAll t cs) (h' : SpellsAll ts cs') :
    SpellsAll (t ++ ts) (cs ++ cs') := by
  induction h with
  | nil => exact h'
  | cons h _ ih =>
    rw [List.append_assoc]
    exact .cons h ih

/-! ## What is written -/

/-- The digits of a number below sixteen are read back. -/
theorem hexDigit?_hexLetter {n : Nat} (hn : n < 16) : Text.hexDigit? (hexLetter n) = some n :=
  (by decide : ∀ n < 16, Text.hexDigit? (hexLetter n) = some n) n hn

/-- What is written for a character is one of the ways to write it. -/
theorem spells_writeChar (c : Char) : Spells (writeChar c) c := by
  have hletter : ∀ e c', c = c' → (e, c') ∈ letterEscapes → Spells ['\\', e] c := by
    rintro e c' rfl h
    exact .letter h
  unfold writeChar
  split_ifs with hmark hbackslash hbackspace hfeed hline hreturn htab hcontrol
  · exact hletter _ _ hmark (by decide)
  · exact hletter _ _ hbackslash (by decide)
  · exact hletter _ _ hbackspace (by decide)
  · exact hletter _ _ hfeed (by decide)
  · exact hletter _ _ hline (by decide)
  · exact hletter _ _ hreturn (by decide)
  · exact hletter _ _ htab (by decide)
  · have hdigits : HexFour ['0', '0', hexLetter (c.toNat / 16), hexLetter (c.toNat % 16)]
        (((0 * 16 + 0) * 16 + c.toNat / 16) * 16 + c.toNat % 16) :=
      .mk (by decide) (by decide) (hexDigit?_hexLetter (by omega)) (hexDigit?_hexLetter (by omega))
    rw [show ((0 * 16 + 0) * 16 + c.toNat / 16) * 16 + c.toNat % 16 = c.toNat by omega] at hdigits
    exact .number hdigits
  · exact .literal ⟨hmark, hbackslash, by omega⟩

/-- What is written for characters is one of the ways to write them. -/
theorem spellsAll_writeChar (cs : List Char) : SpellsAll (cs.flatMap writeChar) cs := by
  induction cs with
  | nil => exact .nil
  | cons c cs ih =>
    rw [List.flatMap_cons]
    exact .cons (spells_writeChar c) ih

/-- **What is written for a text is one of the ways to write it.** -/
theorem quotes_writeQuoted (s : String) : Quotes (writeQuoted s) s :=
  .mk (spellsAll_writeChar s.toList)

/-- Every way to write a character has the form of characters. -/
theorem areChars_spells {ts : List Char} (h : Spells t c) (hs : AreChars ts) : AreChars (t ++ ts) := by
  cases h with
  | literal hc => exact .literal hc hs
  | letter h => exact .letter h hs
  | number h => exact .number h hs
  | pair h h' =>
    rw [List.cons_append, List.cons_append, List.append_assoc]
    exact .number h (.number h' hs)

/-- Every way to write characters has the form of characters. -/
theorem areChars_spellsAll {cs : List Char} (h : SpellsAll t cs) : AreChars t := by
  induction h with
  | nil => exact .nil
  | cons h _ ih => exact areChars_spells h ih

/-- Every way to write a text has the form of a text. -/
theorem isText_quotes {s : String} (h : Quotes t s) : IsText t := by
  obtain ⟨h⟩ := h
  exact .mk (areChars_spellsAll h)

end TenantOnboarding.Json
