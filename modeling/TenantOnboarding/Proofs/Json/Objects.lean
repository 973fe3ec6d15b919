import Mathlib.Data.List.Nodup
import TenantOnboarding.Json.Shape
import TenantOnboarding.Proofs.Json.Values

/-!
# Objects read in whatever way they are written

Members stand in any order, with blanks wherever they may stand, and some of them are no fields.

* `readFields_members` reads the members of an object one after another: the values of fields are kept,
  the others are passed over. The induction is on the members.
* `readRecord_writes` is the outcome for an object: the record of its fields, or a fault if one lacks.
* **`Readable.readsText`**: an object is read as the record whose fields have the values that its members
  were read as, whatever their order is, and a field that may lack is `null` when it does;
  `Readable.lacking` is the fault where one lacks that may not.
* `parse_readsText` takes this to whole texts.
-/

namespace TenantOnboarding.Json

/-! ## Readers of texts -/

/-- A reader reads a text as a value, whatever stands behind it. -/
def ReadsText (reader : Reader Value) (depth : Nat) (t : List Char) (v : Value) : Prop :=
  ∀ rest, Ends rest → reader depth (t.map some ++ rest) = .ok (v, rest)

/-- A text is passed over, whatever stands behind it. -/
def SkipsText (t : List Char) : Prop :=
  ∀ rest, Ends rest → skipValue (t.map some ++ rest) = .ok rest

/-- A reader passes over blanks. -/
def IgnoresBlanks (reader : Reader Value) : Prop :=
  ∀ depth source, reader depth (skipSpace source) = reader depth source

/-- A reader that passes over blanks reads a text with blanks in front of it. -/
theorem IgnoresBlanks.read_blanks {reader : Reader Value} (h : IgnoresBlanks reader) {b : List Char}
    (hb : AreBlanks b) (depth : Nat) (source : Source) :
    reader depth (b.map some ++ source) = reader depth source := by
  rw [← h, skipSpace_blanks hb, h]

/-- The reader of every shape passes over blanks. -/
theorem ignoresBlanks_read (shape : Shape) : IgnoresBlanks shape.read := by
  intro depth source
  cases shape with
  | any => exact readAny_skipSpace depth source
  | text => simp only [Shape.read, readText, skipSpace_skipSpace]
  | integer => simp only [Shape.read, readInteger, skipSpace_skipSpace]
  | boolean => simp only [Shape.read, readBoolean, skipSpace_skipSpace]
  | word => simp only [Shape.read, readWordOf, skipSpace_skipSpace]
  | «optional» => simp only [Shape.read, skipSpace_skipSpace]
  | list => simp only [Shape.read, readList, skipSpace_skipSpace]
  | record => simp only [Shape.read, readRecord, skipSpace_skipSpace]

/-! ## Punctuation -/

section punctuation

variable {rest : Source}

/-- The name of a member is read, with blanks in front of it. -/
theorem nextMember_name {b k : List Char} {name : String} (hb : AreBlanks b) (hk : Quotes k name)
    (rest : Source) :
    nextMember true (b.map some ++ (k.map some ++ rest)) = .ok (some (name, rest)) := by
  obtain ⟨hk⟩ := hk
  rename_i t
  have hspace : skipSpace (b.map some ++ (('\x22' :: (t ++ ['\x22'])).map some ++ rest)) =
      some '\x22' :: ((t ++ ['\x22']).map some ++ rest) := by
    rw [skipSpace_blanks hb]
    exact skipSpace_mark _
  simp only [nextMember, hspace, readQuoted_spellsAll rest hk, if_true]

/-- Behind a comma the name of another member is read. -/
theorem nextMember_comma {source : Source} (h : skipSpace rest = some '\x22' :: source) :
    nextMember false (some ',' :: rest) = nextMember true rest := by
  simp only [nextMember, skipSpace_cons (show isSpace (some ',') = false by decide), h,
    Bool.false_eq_true, if_false, if_true]

/-- A bracket ends an object. -/
theorem nextMember_bracket (first : Bool) {source : Source} (h : skipSpace source = some '\x7d' :: rest) :
    nextMember first source = .ok none := by
  simp only [nextMember, h]

/-- The colon behind a name is read, with blanks in front of it. -/
theorem readColon_blanks {b : List Char} (hb : AreBlanks b) (rest : Source) :
    readColon (b.map some ++ some ':' :: rest) = .ok rest := by
  simp only [readColon, skipSpace_blanks hb, skipSpace_cons (show isSpace (some ':') = false by decide)]

/-- The bracket of an object closes it. -/
theorem closeObject_bracket (rest : Source) : closeObject (some '\x7d' :: rest) = .ok rest := by
  simp only [closeObject, skipSpace_cons (show isSpace (some '\x7d') = false by decide)]

end punctuation

/-! ## Members -/

/-- Whether a name is that of a field. -/
def isKnown (fields : List Field) (name : String) : Bool :=
  (fields.find? (·.name == name)).isSome

/-- The value of a member is read if the member is a field, and passed over if it is none. -/
def LegibleText (fields : List Field) (depth : Nat) (value : String → Value)
    (m : String × List Char) : Prop :=
  match fields.find? (·.name == m.1) with
  | some field => IgnoresBlanks field.reader ∧ ReadsText field.reader depth m.2 (value m.1)
  | none => SkipsText m.2

/-- The names of the fields among members. -/
def namesRead (fields : List Field) (ms : List (String × List Char)) : List String :=
  (ms.map (·.1)).filter (isKnown fields)

/-- Names with their values. -/
def valued (value : String → Value) (names : List String) : List (String × Value) :=
  names.map fun name => (name, value name)

/-- Among names with their values a name is found with its value. -/
theorem lookup_valued (value : String → Value) (names : List String) (name : String) :
    (valued value names).lookup name = if name ∈ names then some (value name) else none := by
  induction names with
  | nil => rfl
  | cons n names ih =>
    rw [valued, List.map_cons, List.lookup_cons]
    by_cases hn : name = n
    · subst hn
      simp
    · rw [beq_eq_false_iff_ne.mpr hn]
      simp only [List.mem_cons, hn, false_or]
      exact ih

section members

variable {fields : List Field} {depth : Nat} {value : String → Value} {m : String × List Char}
  {ms : List (String × List Char)} {names : List String} {t ts : List Char} {rest : Source}

/-- Members start, behind blanks, with the mark of a name. -/
theorem WritesMembers.skipSpace_eq (h : WritesMembers ts ms) (rest : Source) :
    ∃ source, skipSpace (ts.map some ++ rest) = some '\x22' :: source := by
  have hstart : ∀ {t m}, WritesMember t m → ∀ rest,
      ∃ source, skipSpace (t.map some ++ rest) = some '\x22' :: source := by
    intro t m h rest
    obtain ⟨hb, hk, -, -, -⟩ := h
    obtain ⟨hk⟩ := hk
    rw [List.map_append, List.map_append, List.map_append, List.append_assoc, List.append_assoc,
      List.append_assoc, skipSpace_blanks hb]
    exact ⟨_, skipSpace_mark _⟩
  cases h with
  | single h => exact hstart h rest
  | more h =>
    rw [List.map_append, List.append_assoc]
    exact hstart h _

/-- Members have more characters than there are members. -/
theorem WritesMembers.length_le (h : WritesMembers ts ms) : ms.length ≤ ts.length := by
  induction h with
  | single h =>
    obtain ⟨-, -, -, -, -⟩ := h
    simp only [List.length_append, List.length_cons, List.length_nil]
    omega
  | more _ _ ih =>
    simp only [List.length_append, List.length_cons]
    omega

/-- Reading members does not depend on blanks in front of what comes next. -/
theorem readFields_blanks {b : List Char} (hb : AreBlanks b) (fuel : Nat) (first : Bool)
    (done : List (String × Value)) (rest : Source) :
    readFields fields depth (fuel + 1) first done (b.map some ++ rest) =
      readFields fields depth (fuel + 1) first done rest := by
  have hnext : nextMember first (b.map some ++ rest) = nextMember first rest := by
    simp only [nextMember, skipSpace_blanks hb]
  rw [readFields, readFields, hnext, skipSpace_blanks hb]

/-- What has been read once a member has been read or passed over. -/
theorem valued_namesRead (value : String → Value) (m : String × List Char)
    (ms : List (String × List Char)) (names : List String) :
    valued value ((namesRead fields (m :: ms)).reverse ++ names) =
      valued value ((namesRead fields ms).reverse ++
        if isKnown fields m.1 then m.1 :: names else names) := by
  by_cases hm : isKnown fields m.1 = true
  · simp [namesRead, hm]
  · simp [namesRead, hm]

/-- Fields that come once are still new after one of them was read. -/
theorem new_later (hnames : (namesRead fields (m :: ms)).Nodup)
    (hnew : ∀ name ∈ namesRead fields (m :: ms), name ∉ names) :
    (namesRead fields ms).Nodup ∧ ∀ name ∈ namesRead fields ms,
      name ∉ if isKnown fields m.1 then m.1 :: names else names := by
  by_cases hm : isKnown fields m.1 = true
  · have heq : namesRead fields (m :: ms) = m.1 :: namesRead fields ms := by simp [namesRead, hm]
    rw [heq] at hnames hnew
    rw [if_pos hm]
    refine ⟨(List.nodup_cons.mp hnames).2, fun name hname => ?_⟩
    rw [List.mem_cons, not_or]
    exact ⟨fun heq => (List.nodup_cons.mp hnames).1 (heq ▸ hname),
      hnew name (List.mem_cons_of_mem _ hname)⟩
  · have heq : namesRead fields (m :: ms) = namesRead fields ms := by simp [namesRead, hm]
    rw [heq] at hnames hnew
    rw [if_neg hm]
    exact ⟨hnames, hnew⟩

/-- **One member is read, or passed over.** -/
theorem readFields_member (h : WritesMember t m) (hlegible : LegibleText fields depth value m)
    (hnew : isKnown fields m.1 = true → m.1 ∉ names) (hrest : Ends rest) {first : Bool} {source : Source}
    (hnext : nextMember first source = nextMember true (t.map some ++ rest)) (fuel : Nat) :
    readFields fields depth (fuel + 2) first (valued value names) source =
      readFields fields depth (fuel + 1) false
        (valued value (if isKnown fields m.1 then m.1 :: names else names)) rest := by
  obtain ⟨h₁, hk, h₂, h₃, h₄⟩ := h
  rename_i b₁ b₂ b₃ b₄ k t name
  have hsource : (b₁ ++ k ++ b₂ ++ ':' :: (b₃ ++ t ++ b₄)).map some ++ rest =
      b₁.map some ++ (k.map some ++ (b₂.map some ++ some ':' ::
        (b₃.map some ++ (t.map some ++ (b₄.map some ++ rest))))) := by
    simp only [List.map_append, List.map_cons, List.append_assoc, List.cons_append]
  rw [hsource, nextMember_name h₁ hk] at hnext
  unfold LegibleText at hlegible
  rw [readFields, hnext]
  rcases hfield : fields.find? (·.name == name) with _ | field
  · rw [hfield] at hlegible
    have hskip := hlegible (b₄.map some ++ rest) (ends_blanks h₄ hrest)
    have hvalue : skipValue (b₃.map some ++ (t.map some ++ (b₄.map some ++ rest))) =
        .ok (b₄.map some ++ rest) := by
      rw [← skipValue_skipSpace, skipSpace_blanks h₃, skipValue_skipSpace, hskip]
    simp only [hfield, readColon_blanks h₂, hvalue, isKnown, Option.isSome_none, Bool.false_eq_true,
      if_false, readFields_blanks h₄]
  · rw [hfield] at hlegible
    obtain ⟨hblanks, hreads⟩ := hlegible
    have hread := hreads (b₄.map some ++ rest) (ends_blanks h₄ hrest)
    have hname : (valued value names).lookup name = none := by
      rw [lookup_valued, if_neg (hnew (by rw [isKnown, hfield, Option.isSome_some]))]
    simp only [hfield, readColon_blanks h₂, hblanks.read_blanks h₃, hread, hname, isKnown,
      Option.isSome_none, Option.isSome_some, Bool.false_eq_true, if_false, if_true,
      readFields_blanks h₄]
    rfl

/-- **Members are read one after another**, up to the bracket behind them. -/
theorem readFields_members (h : WritesMembers ts ms)
    (hlegible : ∀ m ∈ ms, LegibleText fields depth value m) (hnames : (namesRead fields ms).Nodup)
    (hnew : ∀ name ∈ namesRead fields ms, name ∉ names) {first : Bool} {source : Source}
    (hnext : nextMember first source = nextMember true (ts.map some ++ some '\x7d' :: rest)) {fuel : Nat}
    (hfuel : ms.length < fuel) :
    readFields fields depth fuel first (valued value names) source =
      .ok (valued value ((namesRead fields ms).reverse ++ names), some '\x7d' :: rest) := by
  -- The induction is on the members, for all names that were read before; what comes next is given by
  -- `nextMember`, so that the first member and those behind a comma are read alike.
  induction h generalizing names first source fuel with
  | @single t m h =>
    obtain ⟨fuel, rfl⟩ := Nat.exists_eq_add_of_lt hfuel
    have hm : isKnown fields m.1 = true → m.1 ∉ names := fun hm => hnew _ (by simp [namesRead, hm])
    rw [show [m].length + fuel + 1 = fuel + 2 by simp only [List.length_singleton]; omega,
      readFields_member h (hlegible m List.mem_cons_self) hm (ends_cons (by decide) rest) hnext,
      valued_namesRead]
    have hspace : skipSpace (some '\x7d' :: rest) = some '\x7d' :: rest := skipSpace_cons (by decide) rest
    rw [readFields, nextMember_bracket false hspace, hspace]
    rfl
  | @more t ts m ms h hs ih =>
    obtain ⟨fuel, rfl⟩ := Nat.exists_eq_add_of_lt hfuel
    have hm : isKnown fields m.1 = true → m.1 ∉ names := fun hm => hnew _ (by simp [namesRead, hm])
    have hsource : (t ++ ',' :: ts).map some ++ some '\x7d' :: rest =
        t.map some ++ some ',' :: (ts.map some ++ some '\x7d' :: rest) := by
      simp only [List.map_append, List.map_cons, List.append_assoc, List.cons_append]
    obtain ⟨source', hmark⟩ := hs.skipSpace_eq (some '\x7d' :: rest)
    rw [hsource] at hnext
    rw [show (m :: ms).length + fuel + 1 = ms.length + fuel + 2 by simp only [List.length_cons]; omega,
      readFields_member h (hlegible m List.mem_cons_self) hm (ends_cons (by decide) _) hnext,
      valued_namesRead]
    obtain ⟨hnames', hnew'⟩ := new_later hnames hnew
    exact ih (fun m' hm' => hlegible m' (List.mem_cons_of_mem _ hm')) hnames' hnew'
      (nextMember_comma hmark) (by omega)

/-- The members of an object are read from its opening bracket to its closing one. -/
theorem readFields_object (h : WritesObject t ms) (hlegible : ∀ m ∈ ms, LegibleText fields depth value m)
    (hnames : (namesRead fields ms).Nodup) (rest : Source) :
    ∃ source, t.map some ++ rest = some '\x7b' :: source ∧
      readFields fields depth (source.length + 1) true [] source =
        .ok (valued value (namesRead fields ms).reverse, some '\x7d' :: rest) := by
  cases h with
  | @empty b hb =>
    have hspace : skipSpace (b.map some ++ some '\x7d' :: rest) = some '\x7d' :: rest := by
      rw [skipSpace_blanks hb, skipSpace_cons (by decide)]
    refine ⟨b.map some ++ some '\x7d' :: rest, by simp, ?_⟩
    rw [readFields, nextMember_bracket true hspace, hspace]
    rfl
  | @members t ms h =>
    refine ⟨t.map some ++ some '\x7d' :: rest, by simp, ?_⟩
    have hlength : ms.length < (t.map some ++ some '\x7d' :: rest).length + 1 := by
      have hle := h.length_le
      simp only [List.length_append, List.length_map, List.length_cons]
      omega
    have hnext : nextMember true (t.map some ++ some '\x7d' :: rest) =
      nextMember true (t.map some ++ some '\x7d' :: rest) := rfl
    have hread := readFields_members h hlegible hnames (fun _ _ => List.not_mem_nil) hnext hlength
    rw [List.append_nil] at hread
    exact hread

end members

/-! ## Records -/

section records

variable {fields : List Field} {depth : Nat} {value : String → Value}
  {ms : List (String × List Char)} {t : List Char}

/-- What was read is arranged in declared order, with `null` for what may lack. -/
theorem arrange_valued {names : List String}
    (h : ∀ f ∈ fields, f.name ∈ names ∨ f.canLack = true ∧ value f.name = .null) :
    arrange (valued value names) fields = some (valued value (fields.map (·.name))) := by
  induction fields with
  | nil => rfl
  | cons f fields ih =>
    have hlater := ih fun f' hf' => h f' (List.mem_cons_of_mem _ hf')
    rw [arrange, lookup_valued]
    by_cases hf : f.name ∈ names
    · rw [if_pos hf]
      simp only [hlater, Option.map_some]
      rfl
    · obtain ⟨hlack, hnull⟩ := (h f List.mem_cons_self).resolve_left hf
      rw [if_neg hf]
      simp only [hlack, if_true, hlater, Option.map_some, ← hnull]
      rfl

/-- What was read is no record if a field lacks that may not. -/
theorem arrange_eq_none {names : List String} {f : Field} (hf : f ∈ fields) (hname : f.name ∉ names)
    (hlack : f.canLack = false) : arrange (valued value names) fields = none := by
  induction fields with
  | nil => cases hf
  | cons f' fields ih =>
    rw [arrange]
    rcases List.mem_cons.mp hf with rfl | hf
    · rw [lookup_valued, if_neg hname]
      simp only [hlack, Bool.false_eq_true, if_false]
    · split
      · rw [ih hf, Option.map_none]
      · split
        · rw [ih hf, Option.map_none]
        · rfl

/-- **The outcome for an object**: the record that is made of its fields, or a fault if none can be. -/
theorem readRecord_writes (hdepth : 2 ≤ depth) (h : WritesObject t ms)
    (hlegible : ∀ m ∈ ms, LegibleText fields (depth - 1) value m)
    (hnames : (namesRead fields ms).Nodup) (rest : Source) :
    readRecord fields depth (t.map some ++ rest) =
      match arrange (valued value (namesRead fields ms).reverse) fields with
      | some members => .ok (members, rest)
      | none => .error ⟨.shape, rest⟩ := by
  obtain ⟨source, hsource, hread⟩ := readFields_object h hlegible hnames rest
  rw [hsource, readRecord, skipSpace_cons (by decide)]
  simp only [if_neg (show ¬depth ≤ 1 by omega), readObjectRecord, hread]
  rcases arrange (valued value (namesRead fields ms).reverse) fields with _ | members
  · simp only [closing, closeObject_bracket]
  · simp only [closing, closeObject_bracket]

end records

/-! ## Shapes -/

/-- The field of a name and a shape, with its reader. -/
def Field.ofShape (p : String × Shape) : Field := ⟨p.1, p.2.canLack, p.2.read⟩

/-- The readers of a record are those of its fields. -/
theorem readers_ofList (fields : List (String × Shape)) :
    (Fields.ofList fields).readers = fields.map Field.ofShape := by
  induction fields with
  | nil => rfl
  | cons p fields ih =>
    rw [List.map_cons, Fields.ofList, Fields.readers, ih]
    rfl

section shapes

variable {depth : Nat} {t : List Char} {v : Value} {fields : List (String × Shape)}
  {value : String → Value} {ms : List (String × List Char)}

/-- A text is read in whatever way it is written. -/
theorem readsText_text {s : String} (h : Quotes t s) : ReadsText Shape.text.read depth t (.text s) := by
  intro rest _
  obtain ⟨h⟩ := h
  rename_i t
  have hspace : skipSpace (('\x22' :: (t ++ ['\x22'])).map some ++ rest) =
      some '\x22' :: ((t ++ ['\x22']).map some ++ rest) := skipSpace_mark _
  simp only [Shape.read, readText, hspace, readQuoted_spellsAll rest h]
  rfl

/-- `null` is read where a value may be missing. -/
theorem readsText_null (shape : Shape) :
    ReadsText (Shape.optional shape).read depth "null".toList .null := fun _ _ => rfl

/-- What is read as a value is also read where one may be missing, unless it starts like `null`. -/
theorem readsText_optional {shape : Shape} {c : Char} (h : ReadsText shape.read depth (c :: t) v)
    (hspace : isSpace (some c) = false) (hc : c ≠ 'n') :
    ReadsText (Shape.optional shape).read depth (c :: t) v := by
  intro rest hrest
  have hread := h rest hrest
  rw [List.map_cons, List.cons_append] at hread ⊢
  simp only [Shape.read, skipSpace_cons hspace]
  split
  · rename_i heq
    cases heq
    exact absurd rfl hc
  · exact hread

/-- How often a name comes. -/
theorem length_filter_name (ms : List (String × List Char)) (name : String) :
    (ms.filter (·.1 == name)).length = (ms.map (·.1)).count name := by
  rw [List.count, List.countP_map, List.countP_eq_length_filter]
  rfl

/-- The members of an object can be read for these fields: no field comes twice, the members that are
fields are read as their values, and the others are passed over. -/
structure Readable (fields : List (String × Shape)) (depth : Nat) (value : String → Value)
    (ms : List (String × List Char)) : Prop where
  once : ∀ p ∈ fields, (ms.filter (·.1 == p.1)).length ≤ 1
  reads : ∀ p ∈ fields, ∀ m ∈ ms, m.1 = p.1 → ReadsText p.2.read depth m.2 (value p.1)
  skips : ∀ m ∈ ms, m.1 ∉ fields.map (·.1) → SkipsText m.2

/-- The name of a field is known. -/
theorem isKnown_iff {name : String} :
    isKnown (fields.map Field.ofShape) name = true ↔ name ∈ fields.map (·.1) := by
  simp [isKnown, Field.ofShape]

namespace Readable

variable (h : Readable fields depth value ms)
include h

/-- Every member is legible. -/
theorem legible {m : String × List Char} (hm : m ∈ ms) :
    LegibleText (fields.map Field.ofShape) depth value m := by
  unfold LegibleText
  split
  · rename_i field hfield
    obtain ⟨p, hp, rfl⟩ := List.mem_map.mp (List.mem_of_find?_eq_some hfield)
    have hname : p.1 = m.1 := by simpa [Field.ofShape] using List.find?_some hfield
    rw [← hname]
    exact ⟨ignoresBlanks_read p.2, h.reads p hp m hm hname.symm⟩
  · rename_i hfield
    apply h.skips m hm
    rw [← isKnown_iff, isKnown, hfield]
    exact Bool.false_ne_true

/-- The fields that come come once each. -/
theorem nodup : (namesRead (fields.map Field.ofShape) ms).Nodup := by
  rw [List.nodup_iff_count_le_one]
  intro name
  by_cases hname : isKnown (fields.map Field.ofShape) name = true
  · obtain ⟨p, hp, rfl⟩ := List.mem_map.mp (isKnown_iff.mp hname)
    rw [namesRead, List.count_filter hname, ← length_filter_name]
    exact h.once p hp
  · have hzero : (namesRead (fields.map Field.ofShape) ms).count name = 0 :=
      List.count_eq_zero_of_not_mem fun hmem => hname (List.mem_filter.mp hmem).2
    omega

/-- **An object is read as a record**, in whatever way it is written, if no field lacks that may not. -/
theorem readsText (hobject : WritesObject t ms)
    (hpresent : ∀ p ∈ fields, p.1 ∈ ms.map (·.1) ∨ p.2.canLack = true ∧ value p.1 = .null)
    (hdepth : 1 ≤ depth) :
    ReadsText (Shape.recordOf fields).read (depth + 1) t
      (.object (valued value (fields.map (·.1)))) := by
  intro rest _
  have harrange : arrange (valued value (namesRead (fields.map Field.ofShape) ms).reverse)
      (fields.map Field.ofShape) = some (valued value (fields.map (·.1))) := by
    rw [arrange_valued, List.map_map]
    · rfl
    · intro f hf
      obtain ⟨p, hp, rfl⟩ := List.mem_map.mp hf
      refine (hpresent p hp).imp_left fun hmem => ?_
      rw [List.mem_reverse, namesRead, List.mem_filter]
      exact ⟨hmem, isKnown_iff.mpr (List.mem_map_of_mem hp)⟩
  have hread := readRecord_writes (show 2 ≤ depth + 1 by omega) hobject
    (fun m hm => h.legible hm) h.nodup rest
  rw [harrange] at hread
  simp only [Shape.recordOf, Shape.read, readers_ofList, hread]
  rfl

/-- An object in which a field lacks that may not has another shape. -/
theorem lacking (hobject : WritesObject t ms) {p : String × Shape} (hp : p ∈ fields)
    (hname : p.1 ∉ ms.map (·.1)) (hlack : p.2.canLack = false) (hdepth : 1 ≤ depth) (rest : Source) :
    (Shape.recordOf fields).read (depth + 1) (t.map some ++ rest) = .error ⟨.shape, rest⟩ := by
  have harrange : arrange (valued value (namesRead (fields.map Field.ofShape) ms).reverse)
      (fields.map Field.ofShape) = none := by
    apply arrange_eq_none (List.mem_map_of_mem hp) _ hlack
    rw [List.mem_reverse, namesRead, List.mem_filter]
    exact fun hmem => hname hmem.1
  have hread := readRecord_writes (show 2 ≤ depth + 1 by omega) hobject
    (fun m hm => h.legible hm) h.nodup rest
  rw [harrange] at hread
  simp only [Shape.recordOf, Shape.read, readers_ofList, hread]
  rfl

end Readable

/-- **A text that can be read is read with blanks around it.** -/
theorem parse_readsText {shape : Shape} {b b' : List Char} (h : ReadsText shape.read depthLimit t v)
    (hb : AreBlanks b) (hb' : AreBlanks b') : shape.parse ((b ++ t ++ b').map some) = .ok v := by
  have hends : Ends (b'.map some) := by
    have hnil : Ends [] := by rintro c ⟨⟩
    simpa using ends_blanks hb' hnil
  have hspace : skipSpace (b'.map some) = [] := by simpa [skipSpace] using skipSpace_blanks hb' []
  have hread : shape.read depthLimit ((b ++ t ++ b').map some) = .ok (v, b'.map some) := by
    rw [List.map_append, List.map_append, List.append_assoc, (ignoresBlanks_read shape).read_blanks hb,
      h _ hends]
  rw [Shape.parse, readWhole, hread]
  simp only [hspace, List.isEmpty_nil, if_true]

end shapes

end TenantOnboarding.Json
