import TenantOnboarding.Proofs.Json.Records
import TenantOnboarding.Proofs.Json.Skipping

/-!
# Records read twice

A text can be read as a record, whose fields are known beforehand, and as any value. The two readings are
of one text, so they agree.

* `Agrees` is this for the reader of a field: `agrees_text`, `agrees_integer`, `agrees_word` and others.
* `known_of_readFields` goes through the members of an object, where the members that are no fields are
  passed over by one reading and kept by the other.
* **`known_of_parse`**: if a text is read as a record and also as an object, then the object has each field
  of the record once, with the value that the record has there; only a field that may be missing can be
  lacking.
* **`Recorded.shows`**: if a value of a type is taken from the text of an object, then the object has the
  members with which the value is written.
-/

namespace TenantOnboarding.Json

/-! ## Readers of shapes -/

/-- A reader agrees with the reader of any value: where both read something, they stop at the same place,
and what they read belongs together. -/
def Agrees (reader : Reader Value) (R : Value → Value → Prop) : Prop :=
  ∀ {depth source v w rest rest'}, reader depth source = .ok (v, rest) →
    readAny depth source = .ok (w, rest') → rest' = rest ∧ R v w

section shapes

variable {depth : Nat} {source rest : Source}

/-- What was read was put into a value. -/
theorem exists_of_asValue {α : Type} {f : α → Value} {outcome : Outcome α} {v : Value}
    (h : asValue f outcome = .ok (v, rest)) : ∃ a, outcome = .ok (a, rest) ∧ v = f a := by
  unfold asValue at h
  split at h
  · cases h
  · cases h
    exact ⟨_, rfl, rfl⟩

/-- A text is read behind a quotation mark. -/
theorem exists_of_readText {s : String} (h : readText source = .ok (s, rest)) :
    ∃ quoted, skipSpace source = some '\x22' :: quoted ∧ readQuoted quoted = .ok (s, rest) := by
  unfold readText at h
  split at h
  · rename_i quoted hspace
    exact ⟨quoted, hspace, h⟩
  · cases h

/-- A text is read as a text. -/
theorem readAny_of_readText {s : String} (h : readText source = .ok (s, rest)) :
    readAny depth source = .ok (.text s, rest) := by
  obtain ⟨quoted, hspace, hquoted⟩ := exists_of_readText h
  rw [readAny, hspace]
  simp only [hquoted]

/-- A number is read as a number. -/
theorem readAny_number {c : Option Char} {behind : Source} (hspace : skipSpace source = c :: behind)
    (hc : c = some '-' ∨ isDigit c = true) : readAny depth source = readNumberValue (c :: behind) := by
  rw [readAny, hspace]
  split
  case h_1 heq => cases heq
  case h_6 heq =>
    cases heq
    rfl
  case h_9 heq =>
    cases heq
    rw [if_pos (hc.resolve_left (by simp_all))]
  all_goals
    rename_i heq
    cases heq
    exact absurd hc (by decide)

/-- The word `null` is read as such. -/
theorem readAny_null {behind : Source} (hspace : skipSpace source = some 'n' :: behind) :
    readAny depth source = readWord ['u', 'l', 'l'] .null behind := by
  rw [readAny, hspace]
  rfl

/-- The reader of texts agrees. -/
theorem agrees_text : Agrees Shape.text.read Eq := by
  intro depth source v w rest rest' h h'
  obtain ⟨s, hs, rfl⟩ := exists_of_asValue h
  rw [readAny_of_readText hs] at h'
  cases h'
  exact ⟨rfl, rfl⟩

/-- The reader of integers agrees. -/
theorem agrees_integer (least most : Int) : Agrees (Shape.integer least most).read Eq := by
  intro depth source v w rest rest' h h'
  obtain ⟨i, hi, rfl⟩ := exists_of_asValue h
  unfold readInteger at hi
  split at hi
  · rename_i c behind hspace
    split at hi
    · rename_i hc
      rw [readAny_number hspace hc, readNumberValue] at h'
      split at hi
      · cases hi
      · rename_i hnumber
        split at hi
        · cases hi
          rw [hnumber] at h'
          cases h'
          exact ⟨rfl, rfl⟩
        · cases hi
      · cases hi
    · cases hi
  · cases hi

/-- The reader of any value agrees with itself. -/
theorem agrees_any : Agrees Shape.any.read Eq := by
  intro depth source v w rest rest' h h'
  rw [Shape.read] at h
  cases h.symm.trans h'
  exact ⟨rfl, rfl⟩

/-- The words for the truth values are read as such. -/
theorem readAny_of_readBoolean {b : Bool} (h : readBoolean source = .ok (b, rest)) :
    readAny depth source = .ok (.boolean b, rest) := by
  unfold readBoolean at h
  split at h
  · rename_i hspace
    split at h
    · cases h
    · rename_i hword
      cases h
      rw [readAny, hspace]
      simp only [readWord, hword]
  · rename_i hspace
    split at h
    · cases h
    · rename_i hword
      cases h
      rw [readAny, hspace]
      simp only [readWord, hword]
  · cases h

/-- The reader of truth values agrees. -/
theorem agrees_boolean : Agrees Shape.boolean.read Eq := by
  intro depth source v w rest rest' h h'
  obtain ⟨b, hb, rfl⟩ := exists_of_asValue h
  rw [readAny_of_readBoolean hb] at h'
  cases h'
  exact ⟨rfl, rfl⟩

/-- A reader that agrees does so when its value may be missing. -/
theorem agrees_optional {shape : Shape} {R : Value → Value → Prop} (hshape : Agrees shape.read R)
    (hnull : R .null .null) : Agrees (Shape.optional shape).read R := by
  intro depth source v w rest rest' h h'
  simp only [Shape.read] at h
  split at h
  · rename_i hspace
    rw [readAny_null hspace] at h'
    cases h.symm.trans h'
    unfold readWord at h
    split at h
    · cases h
    · cases h
      exact ⟨rfl, hnull⟩
  · rw [← readAny_skipSpace] at h'
    exact hshape h h'

/-- A word that is written as the only member of an object is read as this object. -/
theorem readAny_of_wordObject {behind named value behind' : Source} {s : String}
    (hspace : skipSpace source = some '\x7b' :: behind) (hname : readText behind = .ok (s, named))
    (hcolon : readColon named = .ok value) (hnull : readNull value = .ok behind')
    (hclose : closeObject behind' = .ok rest) (hdepth : 2 ≤ depth) :
    readAny depth source = .ok (.object [(s, .null)], rest) := by
  obtain ⟨depth, rfl⟩ := Nat.exists_eq_add_of_le' hdepth
  obtain ⟨quoted, hquoted, hread⟩ := exists_of_readText hname
  have hfirst : nextMember true behind = .ok (some (s, named)) := by
    simp only [nextMember, hquoted, hread, if_true]
  have hvalue : readAny (depth + 1) value = .ok (.null, behind') := by
    unfold readNull at hnull
    split at hnull
    · rename_i hspace'
      rw [readAny_null hspace', readWord, hnull]
    · cases hnull
  have hbracket := skipSpace_of_closeObject hclose
  have hlast : nextMember false behind' = .ok none := by
    simp only [nextMember, hbracket]
  have hend : closeObject (skipSpace behind') = .ok rest := by
    rw [closeObject, skipSpace_skipSpace, hbracket]
    rfl
  obtain ⟨c, behind, rfl⟩ : ∃ c tail, behind = c :: tail := by
    cases behind with
    | nil => cases hquoted
    | cons c tail => exact ⟨c, tail, rfl⟩
  have hmembers : readMembers (fun s => readAny (depth + 1) s) ((c :: behind).length + 1) []
      (c :: behind) = .ok ([(s, .null)], skipSpace behind') := by
    rw [List.length_cons, readMembers, List.isEmpty_nil, hfirst]
    simp only [hcolon, hvalue]
    rw [readMembers, List.isEmpty_cons, hlast]
    rfl
  rw [readAny, hspace]
  simp only [hmembers, closing, hend]

/-- A name is read as a text. -/
theorem readText_of_readName {names : List String} {s : String}
    (h : readName names source = .ok (s, rest)) : readText source = .ok (s, rest) := by
  unfold readName at h
  split at h
  · cases h
  · rename_i hread
    split at h
    · cases h
      exact hread
    · cases h

/-- The reader of words agrees: a word is read as a text or as an object. -/
theorem agrees_word (names : List String) : Agrees (Shape.word names).read fun v w =>
    ∃ s, v = .text s ∧ (w = .text s ∨ w = .object [(s, .null)]) := by
  intro depth source v w rest rest' h h'
  obtain ⟨s, hs, rfl⟩ := exists_of_asValue h
  unfold readWordOf at hs
  split at hs
  · cases hs
  · rename_i quoted hspace
    rw [← hspace] at hs
    have hread : readAny depth (skipSpace source) = .ok (.text s, rest) :=
      readAny_of_readText (readText_of_readName hs)
    rw [readAny_skipSpace, h'] at hread
    cases hread
    exact ⟨rfl, s, rfl, .inl rfl⟩
  · rename_i behind hspace
    split at hs
    · cases hs
    rename_i hdepth
    split at hs
    · cases hs
    rename_i hname
    split at hs
    · cases hs
    rename_i hcolon
    split at hs
    · cases hs
    rename_i hnull
    split at hs
    · cases hs
    rename_i hclose
    cases hs
    have hread := readAny_of_wordObject hspace (readText_of_readName hname) hcolon hnull hclose
      (show 2 ≤ depth by omega)
    cases h'.symm.trans hread
    exact ⟨rfl, s, rfl, .inr rfl⟩
  · cases hs

/-- Readers of elements that stop at the same places read lists that end at the same place. -/
theorem rest_of_readElements {α β : Type} {reader : Source → Outcome α} {reader' : Source → Outcome β}
    (hreaders : ∀ {source a b rest rest'}, reader source = .ok (a, rest) →
      reader' source = .ok (b, rest') → rest' = rest)
    {fuel fuel' : Nat} {done as : List α} {done' bs : List β} {rest' : Source}
    (hdone : done'.isEmpty = done.isEmpty)
    (h : readElements reader fuel done source = .ok (as, rest))
    (h' : readElements reader' fuel' done' source = .ok (bs, rest')) : rest' = rest := by
  induction fuel generalizing fuel' done done' source with
  | zero => cases h
  | succ fuel ih =>
    cases fuel' with
    | zero => cases h'
    | succ fuel' =>
      rw [readElements] at h h'
      rw [hdone] at h'
      split at h
      · cases h
      · rename_i hnext
        rw [hnext] at h'
        cases h
        cases h'
        rfl
      · rename_i source' hnext
        simp only [hnext] at h'
        split at h
        · cases h
        rename_i hread
        split at h'
        · cases h'
        rename_i hread'
        obtain rfl := hreaders hread hread'
        exact ih rfl h h'

/-- A reader that agrees does so for the elements of lists: the lists end at the same place. -/
theorem agrees_list {shape : Shape} {R : Value → Value → Prop} (hshape : Agrees shape.read R) :
    Agrees (Shape.list shape).read fun _ _ => True := by
  intro depth source v w rest rest' h h'
  refine ⟨?_, trivial⟩
  obtain ⟨vs, hvs, rfl⟩ := exists_of_asValue h
  unfold readList at hvs
  split at hvs
  · rename_i behind hspace
    split at hvs
    · cases hvs
    rename_i hdepth
    obtain ⟨depth, rfl⟩ := Nat.exists_eq_add_of_le' (show 2 ≤ depth by omega)
    obtain ⟨before, helements, hclose⟩ := exists_of_closing hvs
    rw [readAny, hspace] at h'
    simp only at h'
    split at h'
    · cases h'
    rename_i hclosing
    cases h'
    obtain ⟨before', helements', hclose'⟩ := exists_of_closing hclosing
    have hreaders : ∀ {source a b rest rest'}, shape.read (depth + 1) source = .ok (a, rest) →
        readAny (depth + 1) source = .ok (b, rest') → rest' = rest :=
      fun h h' => (hshape h h').1
    obtain rfl := rest_of_readElements hreaders rfl helements helements'
    cases hclose.symm.trans hclose'
    rfl
  · cases hvs

end shapes

/-! ## Records -/

section known

variable {R : Value → Value → Prop} {name k : String} {v w : Value} {done ms : List (String × Value)}

/-- What was read of a name as a field and among all members: nothing either way, or one value each, and
the two belong together. -/
def Known (R : Value → Value → Prop) (name : String) (done ms : List (String × Value)) : Prop :=
  (done.lookup name = none ∧ ms.filter (·.1 == name) = []) ∨
    ∃ v w, done.lookup name = some v ∧ ms.filter (·.1 == name) = [(name, w)] ∧ R v w

/-- A member that is no field changes nothing for the fields. -/
theorem Known.skip (hk : k ≠ name) (h : Known R name done ms) : Known R name done ((k, w) :: ms) := by
  unfold Known at h ⊢
  rw [List.filter_cons_of_neg (by simpa using hk)]
  exact h

/-- A field changes nothing for fields of other names. -/
theorem Known.other (hk : k ≠ name) (h : Known R name done ms) :
    Known R name ((k, v) :: done) ((k, w) :: ms) := by
  have hlookup : ((k, v) :: done).lookup name = done.lookup name := by
    rw [List.lookup_cons, beq_eq_false_iff_ne.mpr (Ne.symm hk)]
  unfold Known
  rw [hlookup]
  exact h.skip hk

/-- A field whose name is new is known by its value. -/
theorem Known.new (hnew : done.lookup name = none) (hR : R v w) (h : Known R name done ms) :
    Known R name ((name, v) :: done) ((name, w) :: ms) := by
  obtain ⟨-, hnone⟩ | ⟨v', -, hsome, -⟩ := h
  · refine .inr ⟨v, w, by simp, ?_, hR⟩
    rw [List.filter_cons_of_pos (by simp), hnone]
  · rw [hnew] at hsome
    cases hsome

/-- The order of the members does not matter. -/
theorem Known.reverse (h : Known R name done ms) : Known R name done ms.reverse := by
  unfold Known at h ⊢
  rw [List.filter_reverse]
  obtain ⟨hlookup, hnone⟩ | ⟨v, w, hlookup, hone, hR⟩ := h
  · exact .inl ⟨hlookup, by rw [hnone, List.reverse_nil]⟩
  · exact .inr ⟨v, w, hlookup, by rw [hone, List.reverse_singleton], hR⟩

end known

section records

variable {fields : List Field} {R : String → Value → Value → Prop}
  (hagrees : ∀ f ∈ fields, Agrees f.reader (R f.name))
  {depth : Nat} {source rest rest' : Source}
include hagrees

/-- **The fields of an object are read like its members.** -/
theorem known_of_readFields {fuel fuel' : Nat} {first : Bool}
    {done done' ms ms' : List (String × Value)} (hfirst : ms.isEmpty = first)
    (h : readFields fields depth fuel first done source = .ok (done', rest))
    (h' : readMembers (fun s => readAny depth s) fuel' ms source = .ok (ms', rest'))
    (hknown : ∀ f ∈ fields, Known (R f.name) f.name done ms) :
    rest' = rest ∧ ∀ f ∈ fields, Known (R f.name) f.name done' ms' := by
  induction fuel generalizing fuel' first done ms source with
  | zero => cases h
  | succ fuel ih =>
    cases fuel' with
    | zero => cases h'
    | succ fuel' =>
      rw [readFields] at h
      rw [readMembers, hfirst] at h'
      split at h
      · cases h
      · rename_i hnext
        rw [hnext] at h'
        cases h
        cases h'
        exact ⟨rfl, fun f hf => (hknown f hf).reverse⟩
      · rename_i name named hnext
        simp only [hnext] at h'
        split at h'
        · cases h'
        rename_i value hcolon
        split at h'
        · cases h'
        rename_i w behind' hany
        split at h
        · rename_i field hfield
          obtain rfl : field.name = name := by simpa using List.find?_some hfield
          split at h
          · cases h
          rename_i hnew
          simp only [hcolon] at h
          split at h
          · cases h
          rename_i v behind hread
          obtain ⟨rfl, hR⟩ := hagrees field (List.mem_of_find?_eq_some hfield) hread hany
          refine ih List.isEmpty_cons h h' fun f hf => ?_
          by_cases hname : field.name = f.name
          · rw [hname] at hR hnew ⊢
            exact (hknown f hf).new (Option.not_isSome_iff_eq_none.mp hnew) hR
          · exact (hknown f hf).other hname
        · rename_i hnone
          simp only [hcolon] at h
          split at h
          · cases h
          rename_i behind hskip
          cases (skipValue_of_readAny hany).symm.trans hskip
          refine ih List.isEmpty_cons h h' fun f hf => (hknown f hf).skip ?_
          rintro rfl
          simpa using List.find?_eq_none.mp hnone f hf

omit hagrees in
/-- A record has each field: as it was read, or as `null` if it was lacking. -/
theorem lookup_arrange {done members : List (String × Value)} (h : arrange done fields = some members)
    {f : Field} (hf : f ∈ fields) :
    members.lookup f.name = some ((done.lookup f.name).getD .null) ∧
      (done.lookup f.name = none → f.canLack = true) := by
  induction fields generalizing members with
  | nil => cases hf
  | cons g fields ih =>
    -- The field at the head is read or lacking; either way the others are arranged behind it.
    have hhead : ∃ behind, arrange done fields = some behind ∧
        members = (g.name, (done.lookup g.name).getD .null) :: behind ∧
        (done.lookup g.name = none → g.canLack = true) := by
      rw [arrange] at h
      split at h
      · rename_i v hv
        obtain ⟨behind, hbehind, rfl⟩ := Option.map_eq_some_iff.mp h
        exact ⟨behind, hbehind, by rw [hv, Option.getD_some], by rw [hv]; rintro ⟨⟩⟩
      · rename_i hnone
        split at h
        · rename_i hlack
          obtain ⟨behind, hbehind, rfl⟩ := Option.map_eq_some_iff.mp h
          exact ⟨behind, hbehind, by rw [hnone, Option.getD_none], fun _ => hlack⟩
        · cases h
    obtain ⟨behind, hbehind, rfl, hlack⟩ := hhead
    rcases List.mem_cons.mp hf with rfl | hf
    · exact ⟨by simp, hlack⟩
    · obtain ⟨hlookup, hlack'⟩ := ih hbehind hf
      refine ⟨?_, hlack'⟩
      by_cases hname : f.name = g.name
      · rw [hname]
        simp
      · rw [List.lookup_cons, beq_eq_false_iff_ne.mpr hname]
        exact hlookup

omit hagrees in
/-- An object is read from its opening bracket to its closing one. -/
theorem exists_of_readAny_object {ms : List (String × Value)}
    (h : readAny depth source = .ok (.object ms, rest)) :
    ∃ depth' members behind, depth = depth' + 2 ∧ skipSpace source = some '\x7b' :: members ∧
      readMembers (fun s => readAny (depth' + 1) s) (members.length + 1) [] members =
        .ok (ms, behind) ∧ closeObject behind = .ok rest := by
  have hword : ∀ {word v source}, readWord word v source = .ok (.object ms, rest) →
      v = .object ms := by
    intro word v source h
    unfold readWord at h
    split at h <;> cases h
    rfl
  have hnumber : ∀ {source}, readNumberValue source ≠ .ok (.object ms, rest) := by
    intro source h
    unfold readNumberValue at h
    split at h <;> cases h
  unfold readAny at h
  split at h
  · cases h
  · cases hword h
  · cases hword h
  · cases hword h
  · split at h <;> cases h
  · exact absurd h hnumber
  · split at h
    · split at h <;> cases h
    · cases h
  · rename_i members hspace
    split at h
    · rename_i depth'
      split at h
      · cases h
      · rename_i hclosing
        cases h
        obtain ⟨behind, hmembers, hclose⟩ := exists_of_closing hclosing
        exact ⟨depth', members, behind, rfl, hspace, hmembers, hclose⟩
    · cases h
  · split at h
    · exact absurd h hnumber
    · cases h

/-- **A record that is written as an object has the members of the object.** -/
theorem known_of_readRecord {members ms : List (String × Value)}
    (h : readRecord fields depth source = .ok (members, rest))
    (h' : readAny depth source = .ok (.object ms, rest')) {f : Field} (hf : f ∈ fields) :
    (f.canLack = true ∧ members.lookup f.name = some .null ∧ ms.filter (·.1 == f.name) = []) ∨
      ∃ v w, members.lookup f.name = some v ∧ ms.filter (·.1 == f.name) = [(f.name, w)] ∧
        R f.name v w := by
  obtain ⟨depth, written, behind, rfl, hspace, hmembers, -⟩ := exists_of_readAny_object h'
  unfold readRecord at h
  rw [hspace] at h
  simp only at h
  split at h
  · cases h
  obtain ⟨behind', hobject, -⟩ := exists_of_closing h
  unfold readObjectRecord at hobject
  split at hobject
  · cases hobject
  rename_i done rest'' hfields
  split at hobject
  · rename_i harrange
    cases hobject
    have hempty : ∀ f ∈ fields, Known (R f.name) f.name [] [] := fun f _ => .inl ⟨rfl, rfl⟩
    obtain ⟨-, hknown⟩ := known_of_readFields hagrees List.isEmpty_nil hfields hmembers hempty
    obtain ⟨hlookup, hlack⟩ := lookup_arrange harrange hf
    obtain ⟨hnone, hfilter⟩ | ⟨v, w, hsome, hfilter, hR⟩ := hknown f hf
    · exact .inl ⟨hlack hnone, by rw [hlookup, hnone, Option.getD_none], hfilter⟩
    · exact .inr ⟨v, w, by rw [hlookup, hsome, Option.getD_some], hfilter, hR⟩
  · cases hobject

end records

/-! ## Whole texts -/

/-- What is read of a whole text is read of its beginning. -/
theorem exists_of_readWhole {α : Type} {reader : Reader α} {source : Source} {a : α}
    (h : readWhole reader source = .ok a) : ∃ rest, reader depthLimit source = .ok (a, rest) := by
  unfold readWhole at h
  split at h
  · cases h
  · rename_i a' rest hread
    split at h
    · cases h
      exact ⟨rest, hread⟩
    · cases h

/-- **A text that is read as a record and as an object.** -/
theorem known_of_parse {fields : List (String × Shape)} {R : String → Value → Value → Prop}
    (hagrees : ∀ p ∈ fields, Agrees p.2.read (R p.1)) {source : Source} {v : Value}
    {ms : List (String × Value)} (h : (Shape.recordOf fields).parse source = .ok v)
    (h' : Shape.any.parse source = .ok (.object ms)) {p : String × Shape} (hp : p ∈ fields) :
    (p.2.canLack = true ∧ v.member? p.1 = some .null ∧ ms.filter (·.1 == p.1) = []) ∨
      ∃ a b, v.member? p.1 = some a ∧ ms.filter (·.1 == p.1) = [(p.1, b)] ∧ R p.1 a b := by
  obtain ⟨rest, hrecord⟩ := exists_of_readWhole h
  obtain ⟨rest', hany⟩ := exists_of_readWhole h'
  simp only [Shape.recordOf, Shape.read, readers_ofList] at hrecord
  obtain ⟨members, hmembers, rfl⟩ := exists_of_asValue hrecord
  have hreaders : ∀ f ∈ fields.map Field.ofShape, Agrees f.reader (R f.name) := by
    intro f hf
    obtain ⟨q, hq, rfl⟩ := List.mem_map.mp hf
    exact hagrees q hq
  rw [Shape.read] at hany
  exact known_of_readRecord hreaders hmembers hany (List.mem_map_of_mem hp)

/-! ## Values that are taken -/

section values

variable {v : Value}

/-- An outcome that is kept as a value was a success. -/
theorem eq_ok_of_toOption {ε α : Type} {outcome : Except ε α} {a : α} (h : outcome.toOption = some a) :
    outcome = .ok a := by
  cases outcome with
  | error e => cases h
  | ok b =>
    cases h
    rfl

/-- A value that gives a text is the text. -/
theorem eq_text_of_text? {s : String} (h : v.text? = some s) : v = .text s := by
  cases v with
  | text t =>
    cases h
    rfl
  | _ => cases h

/-- A value that gives a truth value is the truth value. -/
theorem eq_boolean_of_boolean? {b : Bool} (h : v.boolean? = some b) : v = .boolean b := by
  cases v with
  | boolean b' =>
    cases h
    rfl
  | _ => cases h

/-- A value that gives a 64-bit integer is the integer. -/
theorem eq_int64_of_int64? {i : Int64} (h : v.int64? = some i) : v = .int64 i := by
  cases v with
  | int n =>
    rw [Value.int64?] at h
    split at h
    · rename_i hbounds
      obtain rfl := Option.some.inj h
      rw [Value.int64, Int64.toInt_ofInt_of_le (by omega) (by omega)]
    · cases h
  | _ => cases h

/-- A value that may be missing is `null` or what it gives. -/
theorem eq_optional_of_optional? {α : Type} {f : Value → Option α} {g : α → Value} {a : Option α}
    (hf : ∀ {v a}, f v = some a → v = g a) (h : v.optional? f = some a) :
    v = .optional (a.map g) := by
  unfold Value.optional? at h
  split at h
  · cases h
    rfl
  · obtain ⟨b, hb, rfl⟩ := Option.map_eq_some_iff.mp h
    exact hf hb

/-- What is taken from a member first is in the member, if it is taken in one way. -/
theorem exists_of_taken {α β : Type} {name : String} {f : Value → Option α} {g : α → Value}
    {more : α → Option β} {b : β} (hf : ∀ {w a}, f w = some a → w = g a)
    (h : ((v.member? name).bind fun w => (f w).bind more) = some b) :
    ∃ a, v.member? name = some (g a) ∧ more a = some b := by
  obtain ⟨w, hw, h⟩ := Option.bind_eq_some_iff.mp h
  obtain ⟨a, ha, h⟩ := Option.bind_eq_some_iff.mp h
  rw [hw, hf ha]
  exact ⟨a, rfl, h⟩

end values

/-! ## Types that are written as records -/

/-- What is taken from a text is taken from a value of its shape. -/
theorem exists_of_parse {α : Type} [Coded α] {source : Source} {a : α} (h : parse α source = .ok a) :
    ∃ v, (Coded.shape α).parse source = .ok v ∧ Coded.ofValue? v = some a := by
  unfold parse at h
  split at h
  · cases h
  · rename_i v hv
    split at h
    · rename_i a' ha
      cases h
      exact ⟨v, hv, ha⟩
    · cases h

/-- The values of a type are written as objects, and they are taken from records in which they find the
same members. -/
structure Recorded (α : Type) [Coded α] (fields : List (String × Shape))
    (members : α → List (String × Value)) : Prop where
  shape_eq : Coded.shape α = Shape.recordOf fields
  toValue_eq : ∀ a, Coded.toValue a = .object (members a)
  names_eq : ∀ a, (members a).map (·.1) = fields.map (·.1)
  agrees : ∀ p ∈ fields, Agrees p.2.read Eq
  found : ∀ {v a}, Coded.ofValue? v = some a → ∀ m ∈ members a, v.member? m.1 = some m.2

/-- Members show a value: each member with which it is written is among them, once, and is lacking only
if it is `null`. -/
def Shows {α : Type} [Coded α] (ms : List (String × Value)) (a : α) : Prop :=
  ∃ members, Coded.toValue a = .object members ∧
    ∀ m ∈ members, ms.filter (·.1 == m.1) = [m] ∨ (m.2 = .null ∧ ms.filter (·.1 == m.1) = [])

/-- **An object from which a value is taken shows the value.** -/
theorem Recorded.shows {α : Type} [Coded α] {fields : List (String × Shape)}
    {members : α → List (String × Value)} (h : Recorded α fields members) {source : Source} {a : α}
    {ms : List (String × Value)} (hparse : parse α source = .ok a)
    (hany : Shape.any.parse source = .ok (.object ms)) : Shows ms a := by
  obtain ⟨v, hv, hvalue⟩ := exists_of_parse hparse
  rw [h.shape_eq] at hv
  refine ⟨members a, h.toValue_eq a, ?_⟩
  rintro ⟨name, value⟩ hm
  have hmember : v.member? name = some value := h.found hvalue _ hm
  have hname : name ∈ fields.map (·.1) := by
    rw [← h.names_eq a]
    exact List.mem_map_of_mem hm
  obtain ⟨p, hp, rfl⟩ := List.mem_map.mp hname
  obtain ⟨-, hnull, hlack⟩ | ⟨b, b', hb, hone, hsame⟩ :=
    known_of_parse (R := fun _ => Eq) h.agrees hv hany hp
  · rw [hmember] at hnull
    exact .inr ⟨Option.some.inj hnull, hlack⟩
  · rw [hmember] at hb
    obtain rfl : value = b := Option.some.inj hb
    obtain rfl : value = b' := hsame
    exact .inl hone

end TenantOnboarding.Json
