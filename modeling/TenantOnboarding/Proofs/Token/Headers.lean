import TenantOnboarding.Json.Coded
import TenantOnboarding.Proofs.Json.Agreement
import TenantOnboarding.Proofs.Token.Parts

/-!
# What the parts of a token say

A part is base 64 of a text, and tells what holds of the text (`Tells`). `Header.Holds` and `Carries` say
what the text is read as by those who know its fields beforehand, and `HoldsObject` what it is read as by
anybody.

* `carries_of_read`: a part carries what verification reads of it.
* `Header.exists_of_ofPart?` is what a part must hold to be read as a header.
* **`Header.named_alg`**: a header that is written as an object names its algorithm once, as a text or as
  the only member of an object, and it is this algorithm that counts.
-/

namespace TenantOnboarding.Token

open TenantOnboarding.Json

/-- A part is base 64 of a text of which `P` holds. -/
def Tells (part : List Char) (P : Source → Prop) : Prop :=
  ∃ bytes, part = Text.Base64.encode .url bytes ∧ P (Text.Utf8.decode bytes)

/-- A part carries a value: its text is read as the value. -/
def Carries {α : Type} [Coded α] (part : List Char) (a : α) : Prop :=
  Tells part fun source => parse α source = .ok a

/-- A part holds an object: its text is one of an object with these members. -/
def HoldsObject (part : List Char) (ms : List (String × Value)) : Prop :=
  Tells part fun source => Shape.any.parse source = .ok (.object ms)

section telling

variable {part : List Char} {P Q : Source → Prop}

/-- What a part tells is what verification reads of it. -/
theorem tells_iff : Tells part P ↔ ∃ source, sourceOfPart? part = some source ∧ P source := by
  constructor
  · rintro ⟨bytes, rfl, hP⟩
    refine ⟨_, ?_, hP⟩
    rw [sourceOfPart?, Text.Base64.decode?_encode Text.Base64.Alphabet.distinct_url, Option.map_some]
  · rintro ⟨source, hsource, hP⟩
    obtain ⟨bytes, hpart, rfl⟩ := encode_of_sourceOfPart? hsource
    exact ⟨bytes, hpart, hP⟩

/-- A part has one text, and everything that it tells is told of this text. -/
theorem Tells.and (h : Tells part P) (h' : Tells part Q) : ∃ source, P source ∧ Q source := by
  obtain ⟨source, hsource, hP⟩ := tells_iff.mp h
  obtain ⟨source', hsource', hQ⟩ := tells_iff.mp h'
  obtain rfl := Option.some.inj (hsource.symm.trans hsource')
  exact ⟨source, hP, hQ⟩

/-- A part that tells anything has no points. -/
theorem Tells.whole (h : Tells part P) : '.' ∉ part := by
  obtain ⟨bytes, rfl, -⟩ := h
  exact Text.Base64.point_not_mem_encode bytes

/-- What is read of a part, with whatever else its text must be, is carried by it. -/
theorem carries_of_read {α : Type} [Coded α] {readable : Source → Bool} {a : α}
    (h : ((sourceOfPart? part).bind fun source => (parse α source).toOption.bind fun b =>
      if readable source then some b else none) = some a) : Carries part a := by
  obtain ⟨source, hsource, h⟩ := Option.bind_eq_some_iff.mp h
  obtain ⟨b, hb, h⟩ := Option.bind_eq_some_iff.mp h
  split at h
  · obtain rfl := Option.some.inj h
    exact tells_iff.mpr ⟨source, hsource, eq_ok_of_toOption hb⟩
  · cases h

/-- A part carries one value. -/
theorem Carries.unique {α : Type} [Coded α] {a b : α} (h : Carries part a) (h' : Carries part b) :
    a = b := by
  obtain ⟨source, ha, hb⟩ := Tells.and h h'
  rw [ha] at hb
  exact Except.ok.inj hb

end telling

/-! ## Headers -/

/-- An algorithm has one name. -/
theorem Algorithm.eq_of_lookup {name name' : String} {a : Algorithm} (h : names.lookup name = some a)
    (h' : names.lookup name' = some a) : name = name' := by
  have hmem : ∀ {name : String}, names.lookup name = some a → (name, a) ∈ names := by
    intro name h
    obtain ⟨before, behind, hnames, -⟩ := List.lookup_eq_some_iff.mp h
    rw [hnames]
    simp
  have hnames : ∀ p ∈ names, ∀ q ∈ names, p.2 = q.2 → p.1 = q.1 := by decide
  exact hnames _ (hmem h) _ (hmem h') rfl

namespace Header

/-- A part holds a header with these fields. -/
def Holds (part : List Char) (v : Value) : Prop :=
  Tells part fun source => shape.parse source = .ok v

/-- A part holds one header. -/
theorem Holds.unique {part : List Char} {v w : Value} (h : Holds part v) (h' : Holds part w) :
    v = w := by
  obtain ⟨source, hv, hw⟩ := Tells.and h h'
  rw [hv] at hw
  exact Except.ok.inj hw

variable {part : List Char} {h : Header} {name : String}

/-- What is read as a header holds one, which names the algorithm and the key. -/
theorem exists_of_ofPart? (hpart : ofPart? part = some h)
    (hname : Algorithm.names.lookup name = some h.algorithm) :
    ∃ v, Holds part v ∧ v.member? "alg" = some (.text name) ∧
      ∀ k, h.keyId = some k → v.member? "kid" = some (.text k) := by
  simp only [ofPart?, Option.bind_eq_bind, Option.bind_eq_some_iff] at hpart
  obtain ⟨source, hsource, v, hv, hpart⟩ := hpart
  simp only [ofValue?, Option.bind_eq_bind, Option.bind_eq_some_iff] at hpart
  obtain ⟨alg, halg, written, hwritten, algorithm, hlookup, _, -, _, -, kid, hkid, keyId, hkeyId,
    hpart⟩ := hpart
  split at hpart
  · cases hpart
    refine ⟨v, tells_iff.mpr ⟨source, hsource, eq_ok_of_toOption hv⟩, ?_, ?_⟩
    · rw [halg, eq_text_of_text? hwritten, Algorithm.eq_of_lookup hlookup hname]
    · rintro k rfl
      rw [hkid, eq_optional_of_optional? eq_text_of_text? hkeyId]
      rfl
  · cases hpart

/-- The header of a token is that of its first part. -/
theorem ofToken?_eq_some_iff {token : String} :
    ofToken? token = some h ↔ ∃ p : Compact, p.Cuts token ∧ ofPart? p.header = some h := by
  simp only [ofToken?, Option.bind_eq_bind, Option.bind_eq_some_iff, Compact.ofToken?_eq_some_iff]

/-- The fields of a header. -/
def fields : List (String × Shape) :=
  [("typ", .optional .text), ("alg", .word (Algorithm.names.map (·.1))),
    ("cty", .optional .text), ("jku", .optional .text), ("jwk", .optional .any),
    ("kid", .optional .text), ("x5u", .optional .text), ("x5c", .optional (.list .text)),
    ("x5t", .optional .text), ("x5t#S256", .optional .text)]

/-- A header is the record of these fields. -/
theorem shape_eq : shape = .recordOf fields := rfl

/-- How a field of a header is read: the algorithm is a text, which may be written as an object. -/
def Reads (name : String) (v w : Value) : Prop :=
  name = "alg" → ∃ s, v = .text s ∧ (w = .text s ∨ w = .object [(s, .null)])

/-- The fields of a header are read like the members of an object. -/
theorem agrees_fields : ∀ p ∈ fields, Agrees p.2.read (Reads p.1) := by
  have hother : ∀ {name : String} {shape : Shape} {R : Value → Value → Prop}, name ≠ "alg" →
      Agrees shape.read R → Agrees shape.read (Reads name) := by
    intro name shape R hname hshape depth source v w rest rest' hread hany
    exact ⟨(hshape hread hany).1, fun heq => absurd heq hname⟩
  intro p hp
  simp only [fields, List.mem_cons, List.not_mem_nil, or_false] at hp
  rcases hp with rfl | rfl | rfl | rfl | rfl | rfl | rfl | rfl | rfl | rfl
  · exact hother (by decide) (agrees_optional agrees_text rfl)
  · intro depth source v w rest rest' hread hany
    obtain ⟨hrest, hword⟩ := agrees_word _ hread hany
    exact ⟨hrest, fun _ => hword⟩
  · exact hother (by decide) (agrees_optional agrees_text rfl)
  · exact hother (by decide) (agrees_optional agrees_text rfl)
  · exact hother (by decide) (agrees_optional agrees_any rfl)
  · exact hother (by decide) (agrees_optional agrees_text rfl)
  · exact hother (by decide) (agrees_optional agrees_text rfl)
  · exact hother (by decide) (agrees_optional (agrees_list agrees_text) trivial)
  · exact hother (by decide) (agrees_optional agrees_text rfl)
  · exact hother (by decide) (agrees_optional agrees_text rfl)

/-- **A header that is an object names its algorithm once**, and it is the algorithm that is read. -/
theorem named_alg {ms : List (String × Value)} (hpart : ofPart? part = some h)
    (hname : Algorithm.names.lookup name = some h.algorithm) (hobject : HoldsObject part ms) :
    PublicKey.named ms "alg" = [.text name] ∨
      PublicKey.named ms "alg" = [.object [(name, .null)]] := by
  obtain ⟨v, hholds, halg, -⟩ := exists_of_ofPart? hpart hname
  obtain ⟨source, hparse, hany⟩ := Tells.and hholds hobject
  have hmem : ("alg", Shape.word (Algorithm.names.map (·.1))) ∈ fields := by simp [fields]
  rw [shape_eq] at hparse
  obtain ⟨hlack, -⟩ | ⟨a, b, hmember, hfilter, hword⟩ :=
    known_of_parse agrees_fields hparse hany hmem
  · cases hlack
  · obtain rfl : Value.text name = a := Option.some.inj (halg.symm.trans hmember)
    obtain ⟨s, hs, hb⟩ := hword rfl
    obtain rfl : name = s := by simpa using hs
    have hone : PublicKey.named ms "alg" = [b] := by
      rw [PublicKey.named, hfilter]
      rfl
    rcases hb with rfl | rfl
    · exact .inl hone
    · exact .inr hone

end Header

end TenantOnboarding.Token
