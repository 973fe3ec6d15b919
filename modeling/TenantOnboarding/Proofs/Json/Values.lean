import TenantOnboarding.Proofs.Json.Skipping

/-!
# Every value can be passed over

The walk over a value asks for nothing but the form: however deep lists and objects lie one inside the
other, however long a number is and whatever the texts stand for, it ends where the value ends.

* `passes_value` takes the walk over values of every form. The induction is on the form, and the walk
  keeps the lists and objects that were open before.
* **`skipValue_value`**: a value of any form is passed over to its end.
* `Skipped` says so of a value as it is written.
-/

namespace TenantOnboarding.Json

variable {rest : Source} {b t : List Char}

/-! ## Blanks -/

/-- Blanks are passed over. -/
theorem skipSpace_blanks (hb : AreBlanks b) (rest : Source) :
    skipSpace (b.map some ++ rest) = skipSpace rest := by
  have hspace : ∀ c ∈ b.map some, isSpace c = true := by
    intro c hc
    obtain ⟨d, hd, rfl⟩ := List.mem_map.mp hc
    rcases hb d hd with rfl | rfl | rfl | rfl <;> decide
  rw [skipSpace, List.dropWhile_append_of_pos hspace]
  rfl

/-- Blanks end a number. -/
theorem ends_blanks (hb : AreBlanks b) (hrest : Ends rest) : Ends (b.map some ++ rest) := by
  cases b with
  | nil => exact hrest
  | cons c b =>
    rintro c' ⟨⟩
    rcases hb c List.mem_cons_self with rfl | rfl | rfl | rfl <;> decide

/-- While a list or an object is open, or a value has to come, the walk passes over blanks. -/
theorem skipWalk_skipSpace {stack : List Container} {place : SkipPlace}
    (h : place ≠ .afterValue ∨ stack ≠ []) (source : Source) :
    skipWalk stack place (skipSpace source) = skipWalk stack place source := by
  have hstep : skipStep stack place (skipSpace source) = skipStep stack place source := by
    unfold skipStep
    rw [skipSpace_skipSpace]
    split
    -- Only behind the end of everything does the walk leave blanks where they are.
    · simp at h
    all_goals rfl
  rw [skipWalk_eq, hstep, ← skipWalk_eq]

/-- Blanks may stand wherever the walk passes over them. -/
theorem skipWalk_blanks {stack : List Container} {place : SkipPlace}
    (h : place ≠ .afterValue ∨ stack ≠ []) (hb : AreBlanks b) (rest : Source) :
    skipWalk stack place (b.map some ++ rest) = skipWalk stack place rest := by
  rw [← skipWalk_skipSpace h, skipSpace_blanks hb, skipWalk_skipSpace h]

/-! ## Scalars -/

/-- What starts a value is neither a blank nor the bracket that ends a list. -/
theorem IsValue.exists_cons (h : IsValue t) :
    ∃ c t', t = c :: t' ∧ isSpace (some c) = false ∧ c ≠ ']' := by
  cases h with
  | word h =>
    simp only [List.mem_cons, List.not_mem_nil, or_false] at h
    rcases h with rfl | rfl | rfl
    · exact ⟨'n', _, rfl, by decide, by decide⟩
    · exact ⟨'t', _, rfl, by decide, by decide⟩
    · exact ⟨'f', _, rfl, by decide, by decide⟩
  | number h =>
    obtain ⟨c, t', rfl, hc⟩ := h.exists_cons
    refine ⟨c, t', rfl, isSpace_of_startsNumber hc, ?_⟩
    rintro rfl
    exact absurd hc (by decide)
  | text h =>
    obtain ⟨h⟩ := h
    exact ⟨'\x22', _, rfl, by decide, by decide⟩
  | emptyList => exact ⟨'[', _, rfl, by decide, by decide⟩
  | list => exact ⟨'[', _, rfl, by decide, by decide⟩
  | emptyObject => exact ⟨'\x7b', _, rfl, by decide, by decide⟩
  | object => exact ⟨'\x7b', _, rfl, by decide, by decide⟩

/-- The walk passes over words. -/
theorem passes_word (h : t ∈ ["null".toList, "true".toList, "false".toList]) (rest : Source) :
    Passes (t.map some ++ rest) rest := by
  simp only [List.mem_cons, List.not_mem_nil, or_false] at h
  rcases h with rfl | rfl | rfl
  · exact passes_of_scalar (skipSpace_cons (by decide) _) (by decide) (by decide) rfl
  · exact passes_of_scalar (skipSpace_cons (by decide) _) (by decide) (by decide) rfl
  · exact passes_of_scalar (skipSpace_cons (by decide) _) (by decide) (by decide) rfl

/-- The walk passes over numbers. -/
theorem passes_number (h : IsNumber t) (hrest : Ends rest) : Passes (t.map some ++ rest) rest := by
  have hskip := skipNumber_isNumber hrest h
  obtain ⟨c, t', rfl, hc⟩ := h.exists_cons
  have hspace : isSpace (some c) = false := isSpace_of_startsNumber hc
  have hscalar : skipScalar (some c :: (t'.map some ++ rest)) = .ok rest := by
    unfold skipScalar
    split
    case h_1 heq => cases heq
    case h_6 heq =>
      cases heq
      rw [if_pos (startsNumber hc)]
      exact hskip
    all_goals
      rename_i heq
      cases heq
      exact absurd hc (by decide)
  refine passes_of_scalar (skipSpace_cons hspace _) ?_ ?_ hscalar
  · rintro ⟨⟩
    exact absurd hc (by decide)
  · rintro ⟨⟩
    exact absurd hc (by decide)

/-- The end of a text is found. -/
theorem skipQuoted_isText (h : IsText t) (rest : Source) :
    ∃ quoted, t.map some ++ rest = some '\x22' :: quoted ∧ skipQuoted quoted = .ok rest := by
  obtain ⟨h⟩ := h
  exact ⟨_, rfl, skipQuoted_areChars rest h⟩

/-- The walk passes over texts. -/
theorem passes_text (h : IsText t) (rest : Source) : Passes (t.map some ++ rest) rest := by
  obtain ⟨quoted, hquoted, hskip⟩ := skipQuoted_isText h rest
  rw [hquoted]
  exact passes_of_scalar (skipSpace_mark _) (by decide) (by decide) hskip

/-! ## Lists and objects -/

/-- The walk passes over a value that has blanks around it, in a list or an object that is open. -/
def PassesWithin (t : List Char) : Prop :=
  ∀ c outer rest, Ends rest →
    skipWalk (c :: outer) .value (t.map some ++ rest) = skipWalk (c :: outer) .afterValue rest

/-- The walk passes over the elements of a list, up to its bracket and behind it. -/
def PassesElements (t : List Char) : Prop :=
  ∀ outer rest, skipWalk (.list :: outer) .value (t.map some ++ some ']' :: rest) =
    skipWalk outer .afterValue rest

/-- The walk passes over a member of an object. -/
def PassesMember (t : List Char) : Prop :=
  ∀ outer rest, Ends rest →
    skipWalk (.object :: outer) .member (t.map some ++ rest) =
      skipWalk (.object :: outer) .afterValue rest

/-- The walk passes over the members of an object, up to its bracket and behind it. -/
def PassesMembers (t : List Char) : Prop :=
  ∀ outer rest, skipWalk (.object :: outer) .member (t.map some ++ some '\x7d' :: rest) =
    skipWalk outer .afterValue rest

section steps

variable {b' k ts : List Char}

/-- What is passed over is passed over with blanks around it. -/
theorem passesWithin_blanks (hb : AreBlanks b)
    (h : ∀ rest, Ends rest → Passes (t.map some ++ rest) rest) (hb' : AreBlanks b') :
    PassesWithin (b ++ t ++ b') := by
  intro c outer rest hrest
  rw [List.map_append, List.map_append, List.append_assoc, List.append_assoc,
    skipWalk_blanks (.inl (by decide)) hb, h _ (ends_blanks hb' hrest),
    skipWalk_blanks (.inr (List.cons_ne_nil _ _)) hb']

/-- The last element of a list is passed over with the bracket behind it. -/
theorem passesElements_single (h : PassesWithin t) : PassesElements t := by
  intro outer rest
  rw [h .list outer _ (ends_cons (by decide) rest), skipWalk_eq]
  rfl

/-- An element of a list is passed over with the comma behind it. -/
theorem passesElements_more (h : PassesWithin t) (hs : PassesElements ts) :
    PassesElements (t ++ ',' :: ts) := by
  intro outer rest
  rw [List.map_append, List.append_assoc, List.map_cons, List.cons_append,
    h .list outer _ (ends_cons (by decide) _), ← hs outer rest, skipWalk_eq]
  rfl

/-- A member is passed over if its value is. -/
theorem passesMember_value (hb : AreBlanks b) (hk : IsText k) (hb' : AreBlanks b')
    (h : PassesWithin t) : PassesMember (b ++ k ++ b' ++ ':' :: t) := by
  intro outer rest hrest
  have hsource : (b ++ k ++ b' ++ ':' :: t).map some ++ rest =
      b.map some ++ (k.map some ++ (b'.map some ++ (some ':' :: (t.map some ++ rest)))) := by
    simp only [List.map_append, List.map_cons, List.append_assoc, List.cons_append]
  obtain ⟨quoted, hquoted, hskip⟩ :=
    skipQuoted_isText hk (b'.map some ++ (some ':' :: (t.map some ++ rest)))
  have hcolon : skipSpace (b'.map some ++ (some ':' :: (t.map some ++ rest))) =
      some ':' :: (t.map some ++ rest) := by
    rw [skipSpace_blanks hb', skipSpace_cons (by decide)]
  rw [hsource, skipWalk_blanks (.inl (by decide)) hb, hquoted, ← h .object outer rest hrest, skipWalk_eq]
  simp only [skipStep, skipSpace_mark, hskip, hcolon]

/-- The last member of an object is passed over with the bracket behind it. -/
theorem passesMembers_single (h : PassesMember t) : PassesMembers t := by
  intro outer rest
  rw [h outer _ (ends_cons (by decide) rest), skipWalk_eq]
  rfl

/-- A member of an object is passed over with the comma behind it. -/
theorem passesMembers_more (h : PassesMember t) (hs : PassesMembers ts) :
    PassesMembers (t ++ ',' :: ts) := by
  intro outer rest
  rw [List.map_append, List.append_assoc, List.map_cons, List.cons_append,
    h outer _ (ends_cons (by decide) _), ← hs outer rest, skipWalk_eq]
  rfl

/-- The walk passes over a list without elements. -/
theorem passes_emptyList (hb : AreBlanks b) (rest : Source) :
    Passes (('[' :: (b ++ [']'])).map some ++ rest) rest := by
  intro stack
  have hbracket : skipSpace (b.map some ++ some ']' :: rest) = some ']' :: rest := by
    rw [skipSpace_blanks hb, skipSpace_cons (by decide)]
  rw [List.map_cons, List.map_append, List.cons_append, List.append_assoc, skipWalk_eq]
  simp only [List.map_cons, List.map_nil, List.cons_append, List.nil_append, skipStep,
    skipSpace_cons (show isSpace (some '[') = false by decide), hbracket]

/-- The walk passes over an object without members. -/
theorem passes_emptyObject (hb : AreBlanks b) (rest : Source) :
    Passes (('\x7b' :: (b ++ ['\x7d'])).map some ++ rest) rest := by
  intro stack
  have hbracket : skipSpace (b.map some ++ some '\x7d' :: rest) = some '\x7d' :: rest := by
    rw [skipSpace_blanks hb, skipSpace_cons (by decide)]
  rw [List.map_cons, List.map_append, List.cons_append, List.append_assoc, skipWalk_eq]
  simp only [List.map_cons, List.map_nil, List.cons_append, List.nil_append, skipStep,
    skipSpace_cons (show isSpace (some '\x7b') = false by decide), hbracket]

/-- Elements start, behind blanks, with what starts a value. -/
theorem AreElements.skipSpace_eq (h : AreElements t) (rest : Source) :
    ∃ c source, skipSpace (t.map some ++ rest) = some c :: source ∧ c ≠ ']' := by
  have hstart : ∀ {t}, IsElement t → ∀ rest,
      ∃ c source, skipSpace (t.map some ++ rest) = some c :: source ∧ c ≠ ']' := by
    intro t h rest
    obtain ⟨hb, hvalue, -⟩ := h
    obtain ⟨c, t', rfl, hspace, hc⟩ := hvalue.exists_cons
    rw [List.map_append, List.map_append, List.append_assoc, List.append_assoc, skipSpace_blanks hb]
    exact ⟨c, _, skipSpace_cons hspace _, hc⟩
  cases h with
  | single h => exact hstart h rest
  | more h =>
    rw [List.map_append, List.append_assoc]
    exact hstart h _

/-- Members start, behind blanks, with the mark of a name. -/
theorem AreMembers.skipSpace_eq (h : AreMembers t) (rest : Source) :
    ∃ source, skipSpace (t.map some ++ rest) = some '\x22' :: source := by
  have hstart : ∀ {t}, IsMember t → ∀ rest,
      ∃ source, skipSpace (t.map some ++ rest) = some '\x22' :: source := by
    intro t h rest
    obtain ⟨hb, hk, -, -⟩ := h
    obtain ⟨hk⟩ := hk
    rw [List.map_append, List.map_append, List.map_append, List.append_assoc, List.append_assoc,
      List.append_assoc, skipSpace_blanks hb]
    exact ⟨_, skipSpace_mark _⟩
  cases h with
  | single h => exact hstart h rest
  | more h =>
    rw [List.map_append, List.append_assoc]
    exact hstart h _

/-- The walk passes over a list if it passes over its elements. -/
theorem passes_elements (h : AreElements t) (hpasses : PassesElements t) (rest : Source) :
    Passes (('[' :: (t ++ [']'])).map some ++ rest) rest := by
  intro stack
  obtain ⟨c, source, hspace, hc⟩ := h.skipSpace_eq (some ']' :: rest)
  have hopen : skipStep stack .value (some '[' :: (t.map some ++ some ']' :: rest)) =
      .ok (.inr (.list :: stack, .value, skipSpace (t.map some ++ some ']' :: rest))) := by
    rw [hspace]
    simp only [skipStep, skipSpace_cons (show isSpace (some '[') = false by decide), hspace]
    split
    -- A bracket would close the list at once, but no element starts with one.
    · rename_i heq
      cases heq
      exact absurd rfl hc
    · rfl
  rw [List.map_cons, List.map_append, List.cons_append, List.append_assoc]
  show skipWalk stack .value (some '[' :: (t.map some ++ some ']' :: rest)) = _
  rw [skipWalk_eq, hopen]
  simp only
  rw [skipWalk_skipSpace (.inl (by decide)), hpasses]

/-- The walk passes over an object if it passes over its members. -/
theorem passes_members (h : AreMembers t) (hpasses : PassesMembers t) (rest : Source) :
    Passes (('\x7b' :: (t ++ ['\x7d'])).map some ++ rest) rest := by
  intro stack
  obtain ⟨source, hspace⟩ := h.skipSpace_eq (some '\x7d' :: rest)
  have hopen : skipStep stack .value (some '\x7b' :: (t.map some ++ some '\x7d' :: rest)) =
      .ok (.inr (.object :: stack, .member, skipSpace (t.map some ++ some '\x7d' :: rest))) := by
    rw [hspace]
    simp only [skipStep, skipSpace_cons (show isSpace (some '\x7b') = false by decide), hspace]
    rfl
  rw [List.map_cons, List.map_append, List.cons_append, List.append_assoc]
  show skipWalk stack .value (some '\x7b' :: (t.map some ++ some '\x7d' :: rest)) = _
  rw [skipWalk_eq, hopen]
  simp only
  rw [skipWalk_skipSpace (.inl (by decide)), hpasses]

end steps

/-! ## Values -/

mutual

/-- **The walk passes over values of every form.** -/
theorem passes_value : ∀ {t : List Char}, IsValue t →
    ∀ rest, Ends rest → Passes (t.map some ++ rest) rest
  | _, .word h, rest, _ => passes_word h rest
  | _, .number h, _, hrest => passes_number h hrest
  | _, .text h, rest, _ => passes_text h rest
  | _, .emptyList hb, rest, _ => passes_emptyList hb rest
  | _, .list h, rest, _ => passes_elements h (passesElements_areElements h) rest
  | _, .emptyObject hb, rest, _ => passes_emptyObject hb rest
  | _, .object h, rest, _ => passes_members h (passesMembers_areMembers h) rest

/-- The walk passes over values with blanks around them. -/
theorem passesWithin_element : ∀ {t : List Char}, IsElement t → PassesWithin t
  | _, .mk hb h hb' => passesWithin_blanks hb (passes_value h) hb'

/-- The walk passes over the elements of lists. -/
theorem passesElements_areElements : ∀ {t : List Char}, AreElements t → PassesElements t
  | _, .single h => passesElements_single (passesWithin_element h)
  | _, .more h hs =>
    passesElements_more (passesWithin_element h) (passesElements_areElements hs)

/-- The walk passes over members. -/
theorem passesMember_isMember : ∀ {t : List Char}, IsMember t → PassesMember t
  | _, .mk hb hk hb' h => passesMember_value hb hk hb' (passesWithin_element h)

/-- The walk passes over the members of objects. -/
theorem passesMembers_areMembers : ∀ {t : List Char}, AreMembers t → PassesMembers t
  | _, .single h => passesMembers_single (passesMember_isMember h)
  | _, .more h hs => passesMembers_more (passesMember_isMember h) (passesMembers_areMembers hs)

end

/-- Blanks in front of a value are passed over with it. -/
theorem skipValue_skipSpace (source : Source) : skipValue (skipSpace source) = skipValue source :=
  skipWalk_skipSpace (.inl (by decide)) source

/-- **A value of any form is passed over to its end.** -/
theorem skipValue_value (h : IsValue t) (hrest : Ends rest) :
    skipValue (t.map some ++ rest) = .ok rest := by
  rw [skipValue, passes_value h rest hrest, skipWalk_eq]
  rfl

/-! ## Written values -/

/-- A written value is passed over, whatever stands behind it. -/
def Skipped (v : Value) : Prop :=
  ∀ rest, Ends rest → skipValue (v.render.map some ++ rest) = .ok rest

/-- A written text is passed over. -/
theorem skipped_text (s : String) : Skipped (.text s) := fun _ =>
  skipValue_value (.text (isText_quotes (quotes_writeQuoted s)))

/-- A written integer is passed over. -/
theorem skipped_int (i : Int) : Skipped (.int i) := fun _ =>
  skipValue_value (.number (isNumber_numeral i))

end TenantOnboarding.Json
