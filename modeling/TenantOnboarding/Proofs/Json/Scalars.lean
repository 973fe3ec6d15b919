import TenantOnboarding.Json.Shape
import TenantOnboarding.Proofs.Json.Numbers
import TenantOnboarding.Proofs.Json.Spelling

/-!
# Texts and integers read back

* **`readQuoted_inside`**: a text that is written between quotation marks is read back, whatever its
  characters are.
* `Reads` says of a reader that a written value is read back. The readers of texts and of integers do so,
  and so does the reader of any value.
-/

namespace TenantOnboarding.Json

/-- A text as it is written, from behind the opening mark to the closing one. -/
def inside (s : String) : Source :=
  (s.toList.flatMap writeChar ++ ['\x22']).map some

/-- **A text is read back.** -/
theorem readQuoted_inside (rest : Source) (s : String) : readQuoted (inside s ++ rest) = .ok (s, rest) :=
  readQuoted_spellsAll rest (spellsAll_writeChar s.toList)

/-! ## Readers -/

/-- A reader reads a written value back, whatever stands behind it. -/
def Reads (reader : Reader Value) (v : Value) : Prop :=
  ∀ depth rest, Ends rest → reader depth (v.render.map some ++ rest) = .ok (v, rest)

/-- Where there is no blank, none is passed over. -/
theorem skipSpace_cons {c : Option Char} (hc : isSpace c = false) (rest : Source) :
    skipSpace (c :: rest) = c :: rest := by
  rw [skipSpace, List.dropWhile_cons_of_neg (by simp [hc])]

/-- A mark is no blank. -/
theorem skipSpace_mark (rest : Source) : skipSpace (some '\x22' :: rest) = some '\x22' :: rest :=
  skipSpace_cons (by decide) rest

/-- What starts a number is no blank. -/
theorem isSpace_of_startsNumber {c : Char} (hc : c = '-' ∨ c.isDigit = true) :
    isSpace (some c) = false := by
  simp only [isSpace, Bool.or_eq_false_iff, beq_eq_false_iff_ne, ne_eq, Option.some.injEq]
  refine ⟨⟨⟨?_, ?_⟩, ?_⟩, ?_⟩ <;> rintro rfl <;> exact absurd hc (by decide)

/-- A reader of texts reads them back. -/
theorem reads_text (s : String) : Reads Shape.text.read (.text s) := by
  intro depth rest _
  show asValue .text (readText (some '\x22' :: (inside s ++ rest))) = _
  rw [readText, skipSpace_mark]
  simp only [readQuoted_inside]
  rfl

/-- A reader of any value reads texts back. -/
theorem reads_any_text (s : String) : Reads readAny (.text s) := by
  intro depth rest _
  show readAny depth (some '\x22' :: (inside s ++ rest)) = _
  rw [readAny, skipSpace_mark]
  simp only [readQuoted_inside]

section integers

variable {i : Int}

/-- A written integer starts with a character that is no blank and that starts numbers only. -/
theorem exists_render_int (i : Int) (rest : Source) : ∃ c source,
    (Value.int i).render.map some ++ rest = some c :: source ∧ (c = '-' ∨ c.isDigit = true) ∧
      isSpace (some c) = false := by
  obtain ⟨c, cs, hcs, hc⟩ := (isNumber_numeral i).exists_cons
  refine ⟨c, cs.map some ++ rest, ?_, hc, isSpace_of_startsNumber hc⟩
  show (Text.numeral i).map some ++ rest = _
  rw [hcs, List.map_cons, List.cons_append]

/-- What starts a number is a minus sign or a digit. -/
theorem startsNumber {c : Char} (hc : c = '-' ∨ c.isDigit = true) :
    some c = some '-' ∨ isDigit (some c) = true := by
  rcases hc with rfl | hc
  · exact .inl rfl
  · rw [isDigit, Option.bind_some, digit?_of_isDigit hc]
    exact .inr rfl

/-- A reader of integers reads those back that lie between its bounds. -/
theorem reads_integer {least most : Int} (hleast : -9223372036854775808 ≤ least)
    (hmost : most < 18446744073709551616) (hi : least ≤ i ∧ i ≤ most) :
    Reads (Shape.integer least most).read (.int i) := by
  intro depth rest hrest
  have hread : readNumber ((Value.int i).render.map some ++ rest) = .ok (.int i, rest) :=
    readNumber_numeral hrest (by omega) (by omega)
  obtain ⟨c, source, hsource, hc, hspace⟩ := exists_render_int i rest
  rw [hsource] at hread ⊢
  show asValue .int (readInteger least most (some c :: source)) = _
  unfold readInteger
  rw [skipSpace_cons hspace]
  simp only [startsNumber hc, hread, hi, and_self, if_true]
  rfl

/-- A reader of any value reads integers of 64 bits back. -/
theorem reads_any_int (hleast : -9223372036854775808 ≤ i) (hmost : i < 18446744073709551616) :
    Reads readAny (.int i) := by
  intro depth rest hrest
  have hread : readNumber ((Value.int i).render.map some ++ rest) = .ok (.int i, rest) :=
    readNumber_numeral hrest hleast hmost
  obtain ⟨c, source, hsource, hc, hspace⟩ := exists_render_int i rest
  rw [hsource] at hread ⊢
  have hvalue : readNumberValue (some c :: source) = .ok (.int i, rest) := by
    simp only [readNumberValue, hread]
  rw [readAny, skipSpace_cons hspace]
  split
  case h_1 heq => cases heq
  case h_6 heq =>
    cases heq
    exact hvalue
  case h_9 heq =>
    cases heq
    rw [if_pos ((startsNumber hc).resolve_left (by simp_all))]
    exact hvalue
  all_goals
    rename_i heq
    cases heq
    exact absurd hc (by decide)

end integers

end TenantOnboarding.Json
