import TenantOnboarding.Proofs.Json.Records

/-!
# Values read back from their compact texts

* `Reads` for integers of 64 bits, truth values, words and values that may be missing.
* `RoundTrips` says of a type with a JSON form that a value of it is read back from its compact text, and
  that this text is what everything that is read as the value is printed as.
* **`Laid.roundTrips`**: a type whose values are written as records does so if its fields do, and
  `roundTrips_word` is the same for words.
-/

namespace TenantOnboarding.Json

/-! ## Fields -/

/-- A 64-bit integer keeps to its bounds. -/
theorem int64_bounds (i : Int64) : -9223372036854775808 ≤ i.toInt ∧ i.toInt ≤ 9223372036854775807 :=
  ⟨i.le_toInt, Int.le_of_lt_add_one i.toInt_lt⟩

/-- A 64-bit integer is taken back from its value. -/
theorem int64?_int64 (i : Int64) : (Value.int64 i).int64? = some i := by
  rw [Value.int64, Value.int64?, if_pos (int64_bounds i), Int64.ofInt_toInt]

/-- A 64-bit integer is read back. -/
theorem reads_int64 (i : Int64) : Reads Shape.int64.read (.int64 i) :=
  reads_integer (by decide) (by decide) (int64_bounds i)

/-- A truth value is read back. -/
theorem reads_boolean (b : Bool) : Reads Shape.boolean.read (.boolean b) := by
  intro depth rest _
  cases b with
  | false => rfl
  | true => rfl

/-- A word is read back. -/
theorem reads_word {names : List String} {s : String} (hs : names.contains s = true) :
    Reads (Shape.word names).read (.text s) := by
  intro depth rest _
  show asValue .text (readWordOf names depth (some '\x22' :: (inside s ++ rest))) = _
  simp only [readWordOf, skipSpace_mark, readName, readText, readQuoted_inside, hs, if_true]
  rfl

/-- A value is not taken for `null` by what it starts with. -/
def Distinct (v : Value) : Prop :=
  ∃ c t, v.render = c :: t ∧ isSpace (some c) = false ∧ c ≠ 'n'

/-- A text is not taken for `null`. -/
theorem distinct_text (s : String) : Distinct (.text s) :=
  ⟨'\x22', _, rfl, by decide, by decide⟩

/-- A 64-bit integer is not taken for `null`. -/
theorem distinct_int64 (i : Int64) : Distinct (.int64 i) := by
  obtain ⟨c, t, ht, hc⟩ := (isNumber_numeral i.toInt).exists_cons
  refine ⟨c, t, ht, isSpace_of_startsNumber hc, ?_⟩
  rintro rfl
  exact absurd hc (by decide)

/-- A truth value is not taken for `null`. -/
theorem distinct_boolean (b : Bool) : Distinct (.boolean b) := by
  cases b with
  | false => exact ⟨'f', _, rfl, by decide, by decide⟩
  | true => exact ⟨'t', _, rfl, by decide, by decide⟩

/-- A value that may be missing is read back, whether it is missing or not. -/
theorem reads_optional {α : Type} {shape : Shape} {f : α → Value} (hreads : ∀ a, Reads shape.read (f a))
    (hdistinct : ∀ a, Distinct (f a)) (a? : Option α) :
    Reads (Shape.optional shape).read (.optional (a?.map f)) := by
  cases a? with
  | none => exact fun depth => readsText_null shape
  | some a =>
    intro depth
    obtain ⟨c, t, hrender, hspace, hc⟩ := hdistinct a
    have hread : ReadsText shape.read depth (f a).render (f a) := hreads a depth
    rw [hrender] at hread
    have hoptional := readsText_optional hread hspace hc
    rw [← hrender] at hoptional
    exact hoptional

/-- A text that may be missing is read back. -/
theorem reads_maybeText (s? : Option String) :
    Reads (Shape.optional .text).read (.maybeText s?) :=
  reads_optional reads_text distinct_text s?

/-! ## Types -/

/-- A value of the type is read back from its compact text, and whatever is read as the value, the text
that the value is printed as is read as it too and printed as itself. -/
structure RoundTrips (α : Type) [Coded α] : Prop where
  read_print : ∀ a : α, parse α (Source.ofString (print a)) = .ok a
  stable : ∀ (source : Source) (a : α), parse α source = .ok a →
    parse α (Source.ofString (print a)) = .ok a ∧
      (parse α (Source.ofString (print a))).map print = .ok (print a)

section types

variable {α : Type} [Coded α]

/-- What is read back from compact texts is stable. -/
theorem roundTrips_of_parse (h : ∀ a : α, parse α (Source.ofString (print a)) = .ok a) :
    RoundTrips α where
  read_print := h
  stable _ a _ := by
    rw [h a]
    exact ⟨rfl, rfl⟩

/-- The source of a compact text. -/
theorem ofString_print (a : α) :
    Source.ofString (print a) = ((Coded.toValue a).render).map some :=
  congrArg (List.map some) String.toList_ofList

/-- Words are read back. -/
theorem roundTrips_word {names : List String} {name : α → String}
    (hshape : Coded.shape α = .word names) (hvalue : ∀ a : α, Coded.toValue a = .text (name a))
    (hnames : ∀ a, names.contains (name a) = true)
    (htaken : ∀ a : α, Coded.ofValue? (Coded.toValue a) = some a) : RoundTrips α := by
  refine roundTrips_of_parse fun a => ?_
  have hreads : Reads (Coded.shape α).read (Coded.toValue a) := by
    rw [hshape, hvalue]
    exact reads_word (hnames a)
  have hread := parse_readsText (hreads depthLimit) areBlanks_nil areBlanks_nil
  rw [List.nil_append, List.append_nil] at hread
  simp only [parse, ofString_print, hread, htaken]

variable (α) in
/-- How the values of a type are laid out as records. -/
structure Laid (parts : α → List Part) : Prop where
  shape_eq : ∀ a, Coded.shape α = .recordOf ((parts a).map fun p => (p.name, p.shape))
  value_eq : ∀ a : α, Coded.toValue a = .object ((parts a).map Part.member)
  distinct : ∀ a, ((parts a).map Part.name).Nodup
  reads : ∀ a, ∀ p ∈ parts a, Reads p.shape.read p.value
  taken : ∀ a : α, Coded.ofValue? (Coded.toValue a) = some a

/-- **Records are read back if their fields are.** -/
theorem Laid.roundTrips {parts : α → List Part} (h : Laid α parts) : RoundTrips α := by
  refine roundTrips_of_parse fun a => ?_
  have hread := parse_object (h.distinct a) (h.reads a)
  rw [← h.shape_eq a, ← h.value_eq a] at hread
  simp only [parse, ofString_print, hread, h.taken]

end types

end TenantOnboarding.Json
