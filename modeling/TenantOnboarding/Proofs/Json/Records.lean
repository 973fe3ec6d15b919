import TenantOnboarding.Json.Coded
import TenantOnboarding.Proofs.Json.Objects
import TenantOnboarding.Proofs.Json.Scalars

/-!
# Records read back

A record is written as an object, with its fields in declared order and no blanks.

* `writesObject_render`: this is one of the ways to write an object.
* `readRecord_object`: an object is read as the record that its legible members (`Legible`) make.
* **`parse_object`**: an object whose members are the fields of a shape, in declared order, is read back
  as it is.
-/

namespace TenantOnboarding.Json

/-! ## Objects -/

/-- The members of an object with the texts of their values. -/
def rendered (ms : List (String × Value)) : List (String × List Char) :=
  ms.map fun m => (m.1, m.2.render)

/-- The names of members are those of their texts. -/
theorem map_fst_rendered (ms : List (String × Value)) :
    (rendered ms).map (·.1) = ms.map (·.1) := by
  rw [rendered, List.map_map]
  rfl

/-- There are no blanks. -/
theorem areBlanks_nil : AreBlanks [] := fun _ h => absurd h List.not_mem_nil

/-- A member is written without blanks. -/
theorem writesMember_render (m : String × Value) :
    WritesMember (writeQuoted m.1 ++ ':' :: m.2.render) (m.1, m.2.render) := by
  have h := WritesMember.mk (t := m.2.render) areBlanks_nil (quotes_writeQuoted m.1) areBlanks_nil
    areBlanks_nil areBlanks_nil
  simpa using h

/-- Members are written one behind another. -/
theorem writesMembers_render (m : String × Value) (ms : List (String × Value)) :
    WritesMembers (renderMembers (m :: ms)) (rendered (m :: ms)) := by
  induction ms generalizing m with
  | nil => exact .single (writesMember_render m)
  | cons m' ms ih =>
    have h := WritesMembers.more (writesMember_render m) (ih m')
    rw [List.append_assoc, List.cons_append] at h
    exact h

/-- **An object is written as a text of an object.** -/
theorem writesObject_render (ms : List (String × Value)) :
    WritesObject (Value.object ms).render (rendered ms) := by
  cases ms with
  | nil => exact .empty areBlanks_nil
  | cons m ms => exact .members (writesMembers_render m ms)

/-! ## Records -/

/-- In a list of members with distinct names every member is found. -/
theorem lookup_of_mem {ms : List (String × Value)} (hnames : (ms.map (·.1)).Nodup)
    {m : String × Value} (hm : m ∈ ms) : ms.lookup m.1 = some m.2 := by
  induction ms with
  | nil => cases hm
  | cons m' ms ih =>
    rw [List.map_cons, List.nodup_cons] at hnames
    obtain ⟨k, v⟩ := m'
    rcases List.mem_cons.mp hm with rfl | hm
    · simp
    · have hne : m.1 ≠ k := fun heq => hnames.1 (List.mem_map.mpr ⟨m, hm, heq⟩)
      rw [List.lookup_cons, beq_eq_false_iff_ne.mpr hne]
      exact ih hnames.2 hm

/-- The value of a name among members. -/
def valueIn (ms : List (String × Value)) (name : String) : Value :=
  (ms.lookup name).getD .null

section valueIn

variable {ms : List (String × Value)} (hnames : (ms.map (·.1)).Nodup)
include hnames

/-- In a list of members with distinct names every name has the value of its member. -/
theorem valueIn_of_mem {m : String × Value} (hm : m ∈ ms) : valueIn ms m.1 = m.2 := by
  rw [valueIn, lookup_of_mem hnames hm, Option.getD_some]

/-- Members are their names with the values that these have among them. -/
theorem valued_valueIn {ms' : List (String × Value)} (hsub : ∀ m ∈ ms', m ∈ ms) :
    valued (valueIn ms) (ms'.map (·.1)) = ms' := by
  rw [valued, List.map_map]
  apply (List.map_congr_left fun m hm => ?_).trans (List.map_id ms')
  show (m.1, valueIn ms m.1) = m
  rw [valueIn_of_mem hnames (hsub m hm)]

end valueIn

/-- Whether a member is a field. -/
def isField (fields : List Field) (m : String × Value) : Bool :=
  (fields.find? (·.name == m.1)).isSome

/-- The value of a member is read back if the member is a field, and passed over if it is none. -/
def Legible (fields : List Field) (m : String × Value) : Prop :=
  match fields.find? (·.name == m.1) with
  | some field => Reads field.reader m.2
  | none => Skipped m.2

/-- If every field may be lacking, what was read is a record. -/
theorem exists_arrange (done : List (String × Value)) {fields : List Field}
    (hlack : ∀ f ∈ fields, f.canLack = true) : ∃ ms, arrange done fields = some ms := by
  induction fields with
  | nil => exact ⟨[], rfl⟩
  | cons f fields ih =>
    obtain ⟨ms, hms⟩ := ih fun f' hf' => hlack f' (List.mem_cons_of_mem _ hf')
    rw [arrange]
    split
    · exact ⟨_, by rw [hms, Option.map_some]⟩
    · exact ⟨_, by rw [if_pos (hlack f List.mem_cons_self), hms, Option.map_some]⟩

/-- **An object is read as the record that its legible members make.** -/
theorem readRecord_object {fields : List Field} {depth : Nat} (hdepth : 2 ≤ depth)
    (hblanks : ∀ f ∈ fields, IgnoresBlanks f.reader) {ms members : List (String × Value)} (rest : Source)
    (hlegible : ∀ m ∈ ms, Legible fields m) (hnames : (ms.map (·.1)).Nodup)
    (harrange : arrange (ms.filter (isField fields)).reverse fields = some members) :
    readRecord fields depth ((Value.object ms).render.map some ++ rest) = .ok (members, rest) := by
  have htexts : ∀ m ∈ rendered ms, LegibleText fields (depth - 1) (valueIn ms) m := by
    intro m hm
    obtain ⟨m, hmem, rfl⟩ := List.mem_map.mp hm
    have hm' := hlegible m hmem
    rcases hfield : fields.find? (·.name == m.1) with _ | field
    · simp only [Legible, LegibleText, hfield] at hm' ⊢
      exact hm'
    · simp only [Legible, LegibleText, hfield, valueIn_of_mem hnames hmem] at hm' ⊢
      exact ⟨hblanks field (List.mem_of_find?_eq_some hfield), hm' (depth - 1)⟩
  have hread : namesRead fields (rendered ms) = (ms.filter (isField fields)).map (·.1) := by
    rw [namesRead, map_fst_rendered, List.filter_map]
    rfl
  have hnodup : (namesRead fields (rendered ms)).Nodup := by
    rw [hread]
    exact hnames.sublist (List.Sublist.map _ List.filter_sublist)
  have hvalued : valued (valueIn ms) (namesRead fields (rendered ms)).reverse =
      (ms.filter (isField fields)).reverse := by
    rw [hread, ← List.map_reverse]
    exact valued_valueIn hnames fun m hm => (List.mem_filter.mp (List.mem_reverse.mp hm)).1
  rw [readRecord_writes hdepth (writesObject_render ms) htexts hnodup rest, hvalued, harrange]

/-- A field of a shape, with the value that is written there. -/
structure Part where
  name : String
  shape : Shape
  value : Value

/-- The member that a part is written as. -/
def Part.member (p : Part) : String × Value := (p.name, p.value)

/-- Among members the field of a part comes once at most, and its value is read as that of the part. -/
structure Part.Comes (p : Part) (depth : Nat) (ms : List (String × List Char)) : Prop where
  once : (ms.filter (·.1 == p.name)).length ≤ 1
  reads : ∀ m ∈ ms, m.1 = p.name → ReadsText p.shape.read depth m.2 p.value

/-- If it does not come, it may lack, and the part has no value. -/
structure Part.Given (p : Part) (depth : Nat) (ms : List (String × List Char)) : Prop
    extends p.Comes depth ms where
  present : p.name ∈ ms.map (·.1) ∨ p.shape.canLack = true ∧ p.value = .null

section parts

variable {parts : List Part} {depth : Nat} {ms : List (String × List Char)} {t : List Char}

/-- The names of parts are those of their members. -/
theorem map_fst_member (parts : List Part) :
    (parts.map Part.member).map (·.1) = parts.map Part.name := by
  rw [List.map_map]
  rfl

/-- The names of parts are those of their fields. -/
theorem map_fst_field (parts : List Part) :
    (parts.map fun p => (p.name, p.shape)).map (·.1) = parts.map Part.name := by
  rw [List.map_map]
  rfl

section reading

variable (hnames : (parts.map Part.name).Nodup)
  (hother : ∀ m ∈ ms, m.1 ∉ parts.map Part.name → SkipsText m.2)
include hnames hother

/-- Members among which the fields of parts come can be read for these fields. -/
theorem readable_parts (hparts : ∀ p ∈ parts, p.Comes depth ms) :
    Readable (parts.map fun p => (p.name, p.shape)) depth (valueIn (parts.map Part.member)) ms := by
  refine ⟨fun q hq => ?_, fun q hq m hm hname => ?_, fun m hm hname => ?_⟩
  · obtain ⟨p, hp, rfl⟩ := List.mem_map.mp hq
    exact (hparts p hp).once
  · obtain ⟨p, hp, rfl⟩ := List.mem_map.mp hq
    have hvalue : valueIn (parts.map Part.member) p.name = p.value := by
      refine valueIn_of_mem ?_ (m := p.member) (List.mem_map_of_mem hp)
      rw [map_fst_member]
      exact hnames
    rw [hvalue]
    exact (hparts p hp).reads m hm hname
  · rw [map_fst_field] at hname
    exact hother m hm hname

variable (parts) in
/-- **An object is read as the record of the parts that its members give.** -/
theorem readsText_record (hobject : WritesObject t ms) (hdepth : 1 ≤ depth)
    (hgiven : ∀ p ∈ parts, p.Given depth ms) :
    ReadsText (Shape.recordOf (parts.map fun p => (p.name, p.shape))).read (depth + 1) t
      (.object (parts.map Part.member)) := by
  have hnames' : ((parts.map Part.member).map (·.1)).Nodup := by
    rw [map_fst_member]
    exact hnames
  have hreadable := readable_parts hnames hother fun p hp => (hgiven p hp).toComes
  have hread := hreadable.readsText hobject ?_ hdepth
  · rw [map_fst_field, ← map_fst_member, valued_valueIn hnames' fun _ h => h] at hread
    exact hread
  · intro q hq
    obtain ⟨p, hp, rfl⟩ := List.mem_map.mp hq
    have hvalue := valueIn_of_mem hnames' (List.mem_map_of_mem (f := Part.member) hp)
    exact (hgiven p hp).present.imp_right fun hlack => ⟨hlack.1, hvalue.trans hlack.2⟩

end reading

section optional

variable {α : Type} {writes : List Char → α → Prop} {shape : Shape} {f : α → Value} {name : String}
  {a? : Option α}

/-- The only member of a name is found by it. -/
theorem eq_of_filter_name {m : String × List Char} (h : ms.filter (·.1 == name) = [(name, t)])
    (hm : m ∈ ms) (hname : m.1 = name) : m.2 = t := by
  have hmem : m ∈ ms.filter (·.1 == name) := List.mem_filter.mpr ⟨hm, beq_iff_eq.mpr hname⟩
  rw [h, List.mem_singleton] at hmem
  rw [hmem]

/-- A part is given by the only member of its name. -/
theorem given_of_filter_name {shape : Shape} {v : Value} (h : ms.filter (·.1 == name) = [(name, t)])
    (hread : ReadsText shape.read depth t v) : (⟨name, shape, v⟩ : Part).Given depth ms where
  once := by
    rw [h]
    exact Nat.le_refl 1
  reads m hm hname := by
    rw [eq_of_filter_name h hm hname]
    exact hread
  present := by
    have hmem : (name, t) ∈ ms.filter (·.1 == name) := by
      rw [h]
      exact List.mem_singleton_self _
    exact .inl (List.mem_map_of_mem (List.mem_filter.mp hmem).1)

/-- A field that may be missing is given as the value that is written for it, and else as `null`. -/
theorem given_of_writesField (h : WritesField writes ms name a?)
    (hread : ∀ t a, writes t a → ReadsText (Shape.optional shape).read depth t (f a)) :
    (⟨name, .optional shape, .optional (a?.map f)⟩ : Part).Given depth ms := by
  cases h with
  | value h ha => exact given_of_filter_name h (hread _ _ ha)
  | null h => exact given_of_filter_name h (readsText_null shape)
  | missing h =>
    refine ⟨⟨by rw [h]; exact Nat.zero_le 1, fun m hm hname => ?_⟩, .inr ⟨rfl, rfl⟩⟩
    have hmem : m ∈ ms.filter (·.1 == name) := List.mem_filter.mpr ⟨hm, beq_iff_eq.mpr hname⟩
    rw [h] at hmem
    exact absurd hmem List.not_mem_nil

end optional

/-- The field of a part comes among parts as they are written. -/
theorem comes_rendered (hnames : (parts.map Part.name).Nodup) {p : Part} (hp : p ∈ parts)
    (hread : ReadsText p.shape.read depth p.value.render p.value) :
    p.Comes depth (rendered (parts.map Part.member)) := by
  refine ⟨?_, fun m hm hname => ?_⟩
  · rw [length_filter_name, map_fst_rendered, map_fst_member]
    exact List.nodup_iff_count_le_one.mp hnames p.name
  · obtain ⟨m', hm', rfl⟩ := List.mem_map.mp hm
    obtain ⟨p', hp', rfl⟩ := List.mem_map.mp hm'
    obtain rfl : p' = p := List.inj_on_of_nodup_map hnames hp' hp hname
    exact hread

/-- **An object with all fields of a shape is read back.** -/
theorem readsText_parts (hnames : (parts.map Part.name).Nodup) (hdepth : 1 ≤ depth)
    (hreads : ∀ p ∈ parts, ReadsText p.shape.read depth p.value.render p.value) :
    ReadsText (Shape.recordOf (parts.map fun p => (p.name, p.shape))).read (depth + 1)
      (Value.object (parts.map Part.member)).render (.object (parts.map Part.member)) := by
  have hmap : (rendered (parts.map Part.member)).map (·.1) = parts.map Part.name := by
    rw [map_fst_rendered, map_fst_member]
  refine readsText_record parts hnames (fun m hm hother => ?_) (writesObject_render _) hdepth
    fun p hp => ⟨comes_rendered hnames hp (hreads p hp), .inl ?_⟩
  · exact absurd (hmap ▸ List.mem_map_of_mem hm) hother
  · rw [hmap]
    exact List.mem_map_of_mem hp

/-- **A whole text that is an object with all fields of a shape is read back.** -/
theorem parse_object (hnames : (parts.map Part.name).Nodup)
    (hreads : ∀ p ∈ parts, Reads p.shape.read p.value) :
    (Shape.recordOf (parts.map fun p => (p.name, p.shape))).parse
        ((Value.object (parts.map Part.member)).render.map some) =
      .ok (.object (parts.map Part.member)) := by
  have hread := parse_readsText
    (readsText_parts hnames (by decide : 1 ≤ 127) fun p hp => hreads p hp 127) areBlanks_nil areBlanks_nil
  rw [List.nil_append, List.append_nil] at hread
  exact hread

end parts

/-! ## What is taken from values -/

/-- A value that may be missing is taken back. -/
theorem optional?_optional {α : Type} {f : Value → Option α} {g : α → Value}
    (h : ∀ a, f (g a) = some a) (hnull : ∀ a, g a ≠ .null) (a? : Option α) :
    (Value.optional (a?.map g)).optional? f = some a? := by
  cases a? with
  | none => rfl
  | some a =>
    show (g a).optional? f = some (some a)
    unfold Value.optional?
    split
    · rename_i heq
      exact absurd heq (hnull a)
    · rw [h, Option.map_some]

/-- A text that may be missing is taken back. -/
theorem optional?_maybeText (s? : Option String) : (Value.maybeText s?).optional? Value.text? = some s? :=
  optional?_optional (g := Value.text) (fun _ => rfl) (fun _ h => by cases h) s?

end TenantOnboarding.Json
