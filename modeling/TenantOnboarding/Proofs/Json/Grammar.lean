import TenantOnboarding.Text.Numeral

/-!
# The grammar of JSON

What a JSON text is, said without reading anything. A text is a list of characters.

* `Quotes` is the relation between a text in quotation marks and what it stands for: each character may
  stand for itself, as a letter or a number behind a backslash, or, beyond the numbers of four digits, as
  a pair of such numbers.
* `IsValue` says which texts are values. Between quotation marks it asks for the form only, so that a half
  of a pair may stand alone there, and it knows no bound on depth and size.
* `WritesObject` is the relation between the text of an object and its members, each a name and the text
  of a value, in the order in which they stand; `WritesField` says what becomes of a field that may be
  missing.
-/

namespace TenantOnboarding.Json

/-- Blanks, as many as there may be. -/
def AreBlanks (cs : List Char) : Prop :=
  ∀ c ∈ cs, c = ' ' ∨ c = '\t' ∨ c = '\n' ∨ c = '\r'

instance {cs : List Char} : Decidable (AreBlanks cs) :=
  List.decidableBAll _ cs

/-! ## Texts -/

/-- Four hexadecimal digits, and their number. -/
inductive HexFour : List Char → Nat → Prop where
  | mk {a b c d : Char} {w x y z : Nat} (ha : Text.hexDigit? a = some w)
      (hb : Text.hexDigit? b = some x) (hc : Text.hexDigit? c = some y)
      (hd : Text.hexDigit? d = some z) : HexFour [a, b, c, d] (((w * 16 + x) * 16 + y) * 16 + z)

/-- The letters that may stand behind a backslash, each with what it stands for. -/
def letterEscapes : List (Char × Char) :=
  [('\x22', '\x22'), ('\\', '\\'), ('/', '/'), ('b', '\x08'), ('f', '\x0c'), ('n', '\n'),
    ('r', '\r'), ('t', '\t')]

/-- A character may stand for itself. -/
def IsLiteral (c : Char) : Prop :=
  c ≠ '\x22' ∧ c ≠ '\\' ∧ 0x20 ≤ c.toNat

instance {c : Char} : Decidable (IsLiteral c) :=
  inferInstanceAs (Decidable (_ ∧ _ ∧ _))

/-- Characters that may stand for themselves. -/
def AreLiteral (cs : List Char) : Prop :=
  ∀ c ∈ cs, IsLiteral c

instance {cs : List Char} : Decidable (AreLiteral cs) :=
  List.decidableBAll _ cs

/-- The ways to write a character between quotation marks. -/
inductive Spells : List Char → Char → Prop where
  | literal {c : Char} (hc : IsLiteral c) : Spells [c] c
  | letter {e c : Char} (h : (e, c) ∈ letterEscapes) : Spells ['\\', e] c
  | number {t : List Char} {c : Char} (h : HexFour t c.toNat) : Spells ('\\' :: 'u' :: t) c
  | pair {t t' : List Char} {high low : Nat} {c : Char} (h : HexFour t high) (h' : HexFour t' low)
      (hhigh : 0xD800 ≤ high ∧ high ≤ 0xDBFF) (hlow : 0xDC00 ≤ low ∧ low ≤ 0xDFFF)
      (hc : c.toNat = 0x10000 + (high - 0xD800) * 0x400 + (low - 0xDC00)) :
      Spells ('\\' :: 'u' :: (t ++ '\\' :: 'u' :: t')) c

/-- The ways to write several characters. -/
inductive SpellsAll : List Char → List Char → Prop where
  | nil : SpellsAll [] []
  | cons {t ts cs : List Char} {c : Char} (h : Spells t c) (hs : SpellsAll ts cs) :
      SpellsAll (t ++ ts) (c :: cs)

/-- The ways to write a text, with its quotation marks. -/
inductive Quotes : List Char → String → Prop where
  | mk {t : List Char} {s : String} (h : SpellsAll t s.toList) :
      Quotes ('\x22' :: (t ++ ['\x22'])) s

/-- What has the form of characters between quotation marks. -/
inductive AreChars : List Char → Prop where
  | nil : AreChars []
  | literal {c : Char} {cs : List Char} (hc : IsLiteral c) (h : AreChars cs) : AreChars (c :: cs)
  | letter {e c : Char} {cs : List Char} (he : (e, c) ∈ letterEscapes) (h : AreChars cs) :
      AreChars ('\\' :: e :: cs)
  | number {t cs : List Char} {n : Nat} (ht : HexFour t n) (h : AreChars cs) :
      AreChars ('\\' :: 'u' :: (t ++ cs))

/-- What has the form of a text, with its quotation marks. -/
inductive IsText : List Char → Prop where
  | mk {t : List Char} (h : AreChars t) : IsText ('\x22' :: (t ++ ['\x22']))

/-! ## Numbers -/

/-- One or more digits. -/
def AreDigits (cs : List Char) : Prop :=
  cs ≠ [] ∧ ∀ c ∈ cs, c.isDigit = true

instance {cs : List Char} : Decidable (AreDigits cs) :=
  have := List.decidableBAll (fun c : Char => c.isDigit = true) cs
  inferInstanceAs (Decidable (_ ∧ _))

/-- The digits in front of the point: a zero stands alone or not in front. -/
inductive IsWhole : List Char → Prop where
  | zero : IsWhole ['0']
  | digits {cs : List Char} (h : AreDigits cs) (hfirst : cs.head? ≠ some '0') : IsWhole cs

/-- The digits behind the point, if there are any. -/
inductive IsFraction : List Char → Prop where
  | none : IsFraction []
  | digits {cs : List Char} (h : AreDigits cs) : IsFraction ('.' :: cs)

/-- The exponent, if there is one. -/
inductive IsExponent : List Char → Prop where
  | none : IsExponent []
  | digits {e : Char} {sign cs : List Char} (he : e = 'e' ∨ e = 'E')
      (hsign : sign = [] ∨ sign = ['+'] ∨ sign = ['-']) (h : AreDigits cs) :
      IsExponent (e :: (sign ++ cs))

/-- A number. -/
inductive IsNumber : List Char → Prop where
  | mk {sign whole fraction exponent : List Char} (hsign : sign = [] ∨ sign = ['-'])
      (hwhole : IsWhole whole) (hfraction : IsFraction fraction) (hexponent : IsExponent exponent) :
      IsNumber (sign ++ whole ++ fraction ++ exponent)

/-! ## Values -/

mutual

/-- A value. -/
inductive IsValue : List Char → Prop where
  | word {t : List Char} (h : t ∈ ["null".toList, "true".toList, "false".toList]) : IsValue t
  | number {t : List Char} (h : IsNumber t) : IsValue t
  | text {t : List Char} (h : IsText t) : IsValue t
  | emptyList {b : List Char} (hb : AreBlanks b) : IsValue ('[' :: (b ++ [']']))
  | list {t : List Char} (h : AreElements t) : IsValue ('[' :: (t ++ [']']))
  | emptyObject {b : List Char} (hb : AreBlanks b) : IsValue ('\x7b' :: (b ++ ['\x7d']))
  | object {t : List Char} (h : AreMembers t) : IsValue ('\x7b' :: (t ++ ['\x7d']))

/-- A value with blanks around it. -/
inductive IsElement : List Char → Prop where
  | mk {b t b' : List Char} (hb : AreBlanks b) (h : IsValue t) (hb' : AreBlanks b') :
      IsElement (b ++ t ++ b')

/-- Values with commas between them. -/
inductive AreElements : List Char → Prop where
  | single {t : List Char} (h : IsElement t) : AreElements t
  | more {t ts : List Char} (h : IsElement t) (hs : AreElements ts) : AreElements (t ++ ',' :: ts)

/-- A name and a value with a colon between them. -/
inductive IsMember : List Char → Prop where
  | mk {b k b' t : List Char} (hb : AreBlanks b) (hk : IsText k) (hb' : AreBlanks b')
      (h : IsElement t) : IsMember (b ++ k ++ b' ++ ':' :: t)

/-- Members with commas between them. -/
inductive AreMembers : List Char → Prop where
  | single {t : List Char} (h : IsMember t) : AreMembers t
  | more {t ts : List Char} (h : IsMember t) (hs : AreMembers ts) : AreMembers (t ++ ',' :: ts)

end

/-! ## Objects and their members -/

/-- The text of a member with this name and this text of a value. The name is a string, so half a pair in
the text of a name, which has the form of a text (`IsText`), is not written by any member. -/
inductive WritesMember : List Char → String × List Char → Prop where
  | mk {b₁ b₂ b₃ b₄ k t : List Char} {name : String} (h₁ : AreBlanks b₁) (hk : Quotes k name)
      (h₂ : AreBlanks b₂) (h₃ : AreBlanks b₃) (h₄ : AreBlanks b₄) :
      WritesMember (b₁ ++ k ++ b₂ ++ ':' :: (b₃ ++ t ++ b₄)) (name, t)

/-- The text of members with commas between them. -/
inductive WritesMembers : List Char → List (String × List Char) → Prop where
  | single {t : List Char} {m : String × List Char} (h : WritesMember t m) : WritesMembers t [m]
  | more {t ts : List Char} {m : String × List Char} {ms : List (String × List Char)}
      (h : WritesMember t m) (hs : WritesMembers ts ms) : WritesMembers (t ++ ',' :: ts) (m :: ms)

/-- The text of an object. -/
inductive WritesObject : List Char → List (String × List Char) → Prop where
  | empty {b : List Char} (hb : AreBlanks b) : WritesObject ('\x7b' :: (b ++ ['\x7d'])) []
  | members {t : List Char} {ms : List (String × List Char)} (h : WritesMembers t ms) :
      WritesObject ('\x7b' :: (t ++ ['\x7d'])) ms

/-- How a field that may be missing is written among the members of an object: as the only member of its
name, or else, if it is missing, as `null` or not at all. -/
inductive WritesField {α : Type} (writes : List Char → α → Prop) (ms : List (String × List Char))
    (name : String) : Option α → Prop where
  | value {t : List Char} {a : α} (h : ms.filter (·.1 == name) = [(name, t)]) (ha : writes t a) :
      WritesField writes ms name (some a)
  | null (h : ms.filter (·.1 == name) = [(name, "null".toList)]) : WritesField writes ms name none
  | missing (h : ms.filter (·.1 == name) = []) : WritesField writes ms name none

/-- Members of other names have values of any form. -/
def OthersAreValues (names : List String) (ms : List (String × List Char)) : Prop :=
  ∀ m ∈ ms, m.1 ∉ names → IsValue m.2

end TenantOnboarding.Json
