import Mathlib.Data.List.Basic
import TenantOnboarding.Json.Number
import TenantOnboarding.Proofs.Json.Grammar
import TenantOnboarding.Proofs.Text.Numerals

/-!
# Numbers read and passed over

A number ends where none can go on (`Ends`).

* **`skipNumber_isNumber`**: everything that has the form of a number is passed over.
* **`readNumber_numeral`**: an integer of 64 bits is read from its numeral, which has the form of a number
  (`isNumber_numeral`).
-/

namespace TenantOnboarding.Json

variable {rest : Source} {cs : List Char}

/-! ## Where a number ends -/

/-- No number goes on here: neither a digit follows nor what may stand behind digits. -/
def Ends (rest : Source) : Prop :=
  ∀ c ∈ rest.head?, isDigit c = false ∧ c ≠ some '.' ∧ c ≠ some 'e' ∧ c ≠ some 'E'

/-- A comma or a closing bracket ends a number. -/
theorem ends_cons {c : Char} (hc : c ∈ [',', ']', '\x7d']) (rest : Source) : Ends (some c :: rest) := by
  rintro c' ⟨⟩
  simp only [List.mem_cons, List.not_mem_nil, or_false] at hc
  rcases hc with rfl | rfl | rfl <;> decide

/-- No digit follows. -/
def NoDigit (rest : Source) : Prop :=
  ∀ c ∈ rest.head?, isDigit c = false

/-- Where no number goes on, no digit follows. -/
theorem Ends.noDigit (h : Ends rest) : NoDigit rest := fun c hc => (h c hc).1

/-! ## Digits -/

/-- The value of an ASCII digit. -/
theorem digit?_of_isDigit {c : Char} (hc : c.isDigit = true) :
    Text.digit? c = some (c.toNat - '0'.toNat) :=
  Text.digit?_eq_some_iff.mpr ⟨hc, rfl⟩

/-- The values of digits. -/
def digitsOf (cs : List Char) : List Nat :=
  cs.map fun c => c.toNat - '0'.toNat

/-- Digits are taken from the source, and no more. -/
theorem spanDigits_digits (hcs : ∀ c ∈ cs, c.isDigit = true) (hrest : NoDigit rest) :
    spanDigits (cs.map some ++ rest) = (digitsOf cs, rest) := by
  have hdigits : ∀ c ∈ cs.map some, isDigit c = true := by
    intro c hc
    obtain ⟨d, hd, rfl⟩ := List.mem_map.mp hc
    rw [isDigit, Option.bind_some, digit?_of_isDigit (hcs d hd), Option.isSome_some]
  have hstop : rest.takeWhile isDigit = [] ∧ rest.dropWhile isDigit = rest := by
    cases rest with
    | nil => exact ⟨rfl, rfl⟩
    | cons c rest =>
      have hc := hrest c rfl
      simp [hc]
  rw [spanDigits, List.takeWhile_append_of_pos hdigits, List.dropWhile_append_of_pos hdigits,
    hstop.1, hstop.2, List.append_nil, digitsOf, List.filterMap_map]
  congr 1
  rw [← List.filterMap_eq_map]
  apply List.filterMap_congr
  intro c hc
  exact digit?_of_isDigit (hcs c hc)

/-- Where there are digits, there is one in front. -/
theorem AreDigits.exists_cons (h : AreDigits cs) : ∃ c cs', cs = c :: cs' ∧ c.isDigit = true := by
  obtain ⟨hne, hcs⟩ := h
  cases cs with
  | nil => exact absurd rfl hne
  | cons c cs => exact ⟨c, cs, rfl, hcs c List.mem_cons_self⟩

/-- Digits have values. -/
theorem AreDigits.isEmpty_digitsOf (h : AreDigits cs) : (digitsOf cs).isEmpty = false := by
  obtain ⟨c, cs', rfl, -⟩ := h.exists_cons
  rfl

/-- The digits in front of the point start with a digit. -/
theorem IsWhole.exists_cons (h : IsWhole cs) : ∃ c cs', cs = c :: cs' ∧ c.isDigit = true := by
  cases h with
  | zero => exact ⟨'0', [], rfl, by decide⟩
  | digits h => exact h.exists_cons

/-- A number starts with a minus sign or a digit. -/
theorem IsNumber.exists_cons (h : IsNumber cs) :
    ∃ c cs', cs = c :: cs' ∧ (c = '-' ∨ c.isDigit = true) := by
  obtain ⟨rfl | rfl, hwhole, -, -⟩ := h
  · obtain ⟨c, cs', rfl, hc⟩ := hwhole.exists_cons
    exact ⟨c, _, rfl, .inr hc⟩
  · exact ⟨'-', _, rfl, .inl rfl⟩

/-! ## Passing over numbers -/

section passing

variable {sign fraction exponent : List Char}

/-- Behind the sign of an exponent stand its digits. -/
theorem behindSign_digits (hsign : sign = [] ∨ sign = ['+'] ∨ sign = ['-']) (hcs : AreDigits cs) :
    behindSign ((sign ++ cs).map some ++ rest) = cs.map some ++ rest := by
  rcases hsign with rfl | rfl | rfl
  · obtain ⟨c, cs', rfl, hc⟩ := hcs.exists_cons
    rw [List.nil_append, List.map_cons, List.cons_append]
    unfold behindSign
    split
    · rename_i heq
      cases heq
      exact absurd hc (by decide)
    · rename_i heq
      cases heq
      exact absurd hc (by decide)
    · rfl
  · rfl
  · rfl

/-- An exponent is passed over. -/
theorem skipExponent_digits (hsign : sign = [] ∨ sign = ['+'] ∨ sign = ['-']) (hcs : AreDigits cs)
    (hrest : NoDigit rest) : skipExponent ((sign ++ cs).map some ++ rest) = .ok rest := by
  simp only [skipExponent, behindSign_digits hsign hcs, spanDigits_digits hcs.2 hrest,
    hcs.isEmpty_digitsOf, Bool.false_eq_true, if_false]

variable (hrest : Ends rest)
include hrest

/-- No digit stands where an exponent may. -/
theorem noDigit_exponent (hexponent : IsExponent exponent) : NoDigit (exponent.map some ++ rest) := by
  cases hexponent with
  | none => exact hrest.noDigit
  | digits he =>
    rintro c ⟨⟩
    rcases he with rfl | rfl <;> decide

/-- No digit stands where a point may. -/
theorem noDigit_fraction (hfraction : IsFraction fraction) (hexponent : IsExponent exponent) :
    NoDigit ((fraction ++ exponent).map some ++ rest) := by
  cases hfraction with
  | none => exact noDigit_exponent hrest hexponent
  | digits =>
    rintro c ⟨⟩
    decide

/-- A fraction is passed over, and an exponent behind it. -/
theorem skipFraction_digits (hcs : AreDigits cs) (hexponent : IsExponent exponent) :
    skipFraction ((cs ++ exponent).map some ++ rest) = .ok rest := by
  have hspan := spanDigits_digits hcs.2 (noDigit_exponent hrest hexponent)
  rw [List.map_append, List.append_assoc]
  simp only [skipFraction, hspan, hcs.isEmpty_digitsOf, Bool.false_eq_true, if_false]
  cases hexponent with
  | none =>
    rw [List.map_nil, List.nil_append]
    split
    · exact absurd rfl (hrest _ rfl).2.2.1
    · exact absurd rfl (hrest _ rfl).2.2.2
    · rfl
  | digits he hsign hcs' =>
    rcases he with rfl | rfl
    · exact skipExponent_digits hsign hcs' hrest.noDigit
    · exact skipExponent_digits hsign hcs' hrest.noDigit

/-- Where no number goes on, nothing is passed over. -/
theorem skipTail_ends : skipTail rest = .ok rest := by
  unfold skipTail
  split
  · exact absurd rfl (hrest _ rfl).2.1
  · exact absurd rfl (hrest _ rfl).2.2.1
  · exact absurd rfl (hrest _ rfl).2.2.2
  · rfl

/-- What may stand behind the digits in front of the point is passed over. -/
theorem skipTail_fraction (hfraction : IsFraction fraction) (hexponent : IsExponent exponent) :
    skipTail ((fraction ++ exponent).map some ++ rest) = .ok rest := by
  cases hfraction with
  | none =>
    cases hexponent with
    | none => exact skipTail_ends hrest
    | digits he hsign hcs =>
      rcases he with rfl | rfl
      · exact skipExponent_digits hsign hcs hrest.noDigit
      · exact skipExponent_digits hsign hcs hrest.noDigit
  | digits hcs => exact skipFraction_digits hrest hcs hexponent

/-- A number without its sign is passed over. -/
theorem skipUnsigned_whole (hwhole : IsWhole cs) (hfraction : IsFraction fraction)
    (hexponent : IsExponent exponent) :
    skipUnsigned ((cs ++ (fraction ++ exponent)).map some ++ rest) = .ok rest := by
  have htail := skipTail_fraction hrest hfraction hexponent
  have hdigit := noDigit_fraction hrest hfraction hexponent
  rw [List.map_append, List.append_assoc]
  generalize (fraction ++ exponent).map some ++ rest = tail at htail hdigit
  cases hwhole with
  | zero =>
    -- Behind a zero another digit would be a fault; `hdigit` says that none is there.
    rw [List.map_singleton, List.singleton_append]
    cases tail with
    | nil => exact htail
    | cons c tail =>
      simp only [skipUnsigned, hdigit c rfl, Bool.false_eq_true, if_false]
      exact htail
  | digits hcs hfirst =>
    have hspan := spanDigits_digits hcs.2 hdigit
    unfold skipUnsigned
    split
    · rename_i heq
      obtain ⟨c, cs', rfl, -⟩ := hcs.exists_cons
      cases heq
      exact absurd rfl hfirst
    · simp only [hspan, hcs.isEmpty_digitsOf, Bool.false_eq_true, if_false]
      exact htail

/-- **A number is passed over.** -/
theorem skipNumber_isNumber (h : IsNumber cs) : skipNumber (cs.map some ++ rest) = .ok rest := by
  obtain ⟨hsign, hwhole, hfraction, hexponent⟩ := h
  rename_i sign whole fraction exponent
  have hskip := skipUnsigned_whole hrest hwhole hfraction hexponent
  rw [List.append_assoc, List.append_assoc]
  rcases hsign with rfl | rfl
  · rw [List.nil_append]
    unfold skipNumber
    split
    · rename_i heq
      obtain ⟨c, whole', rfl, hc⟩ := hwhole.exists_cons
      cases heq
      exact absurd hc (by decide)
    · exact hskip
  · exact hskip

end passing

/-! ## Numerals -/

/-- The digits of a number have its value. -/
theorem valueOfDigits_toDigits (n : Nat) :
    Text.valueOfDigits 10 0 (digitsOf (Nat.toDigits 10 n)) = n := by
  have hvalue := Nat.ofDigitChars_ten_toDigits (n := n)
  rw [Nat.ofDigitChars_eq_foldl] at hvalue
  rw [Text.valueOfDigits, digitsOf, List.foldl_map]
  simpa [Nat.mul_comm] using hvalue

/-- More digits never make a value smaller. -/
theorem le_valueOfDigits (high : Nat) (ds : List Nat) : high ≤ Text.valueOfDigits 10 high ds := by
  induction ds generalizing high with
  | nil => exact Nat.le_refl high
  | cons d ds ih => exact Nat.le_trans (by omega) (ih (high * 10 + d))

/-- Digits whose value stays below the bound are all used. -/
theorem absorb_eq {bound high : Nat} {ds : List Nat} (h : Text.valueOfDigits 10 high ds < bound) :
    absorb bound high ds = (Text.valueOfDigits 10 high ds, ds.length) := by
  induction ds generalizing high with
  | nil => rfl
  | cons d ds ih =>
    have hmore : Text.valueOfDigits 10 high (d :: ds) =
      Text.valueOfDigits 10 (high * 10 + d) ds := rfl
    rw [hmore] at h ⊢
    have hd : high * 10 + d < bound := Nat.lt_of_le_of_lt (le_valueOfDigits _ ds) h
    simp only [absorb, hd, if_true, ih h, List.length_cons]

/-- The numeral of a positive number does not start with zero. -/
theorem head?_toDigits {n : Nat} (hn : 0 < n) : (Nat.toDigits 10 n).head? ≠ some '0' := by
  induction n using Nat.strongRecOn with
  | _ n ih =>
    by_cases hlt : n < 10
    · rw [Nat.toDigits_of_lt_base hlt]
      exact (by decide : ∀ n < 10, 0 < n → [n.digitChar].head? ≠ some '0') n hlt hn
    · rw [Nat.toDigits_of_base_le (by decide) (by omega), List.head?_append_of_ne_nil _
        Nat.toDigits_ne_nil]
      exact ih (n / 10) (by omega) (by omega)

/-- A natural number is written in digits. -/
theorem areDigits_toDigits (n : Nat) : AreDigits (Nat.toDigits 10 n) :=
  ⟨Nat.toDigits_ne_nil, fun _ hc => Nat.isDigit_of_mem_toDigits (by decide) (by decide) hc⟩

/-- A natural number is written as the digits in front of a point are. -/
theorem isWhole_toDigits (n : Nat) : IsWhole (Nat.toDigits 10 n) := by
  rcases Nat.eq_zero_or_pos n with rfl | hpos
  · exact .zero
  · exact .digits (areDigits_toDigits n) (head?_toDigits hpos)

/-- **The numeral of an integer has the form of a number.** -/
theorem isNumber_numeral (i : Int) : IsNumber (Text.numeral i) := by
  rcases i with n | n
  · have h := IsNumber.mk (.inl rfl) (isWhole_toDigits n) .none .none
    rw [List.append_nil, List.append_nil] at h
    exact h
  · have h := IsNumber.mk (.inr rfl) (isWhole_toDigits (n + 1)) .none .none
    rw [List.append_nil, List.append_nil] at h
    exact h

section reading

variable (hrest : Ends rest)
include hrest

/-- Behind the digits of an integer nothing is read. -/
theorem readTail_ends (negative : Bool) (n : Nat) :
    readTail negative n 0 rest =
      if negative then
        if 1 ≤ n ∧ n ≤ 9223372036854775808 then .ok (.int (-(n : Int)), rest)
        else .ok (.real, rest)
      else .ok (.int n, rest) := by
  unfold readTail
  split
  · exact absurd rfl (hrest _ rfl).2.1
  · exact absurd rfl (hrest _ rfl).2.2.1
  · exact absurd rfl (hrest _ rfl).2.2.2
  · rfl

/-- The numeral of a natural number that fits 64 bits is read. -/
theorem readUnsigned_toDigits (negative : Bool) {n : Nat} (hn : n < UInt64.size) :
    readUnsigned negative ((Nat.toDigits 10 n).map some ++ rest) = readTail negative n 0 rest := by
  have hspan := spanDigits_digits (areDigits_toDigits n).2 hrest.noDigit
  have habsorb : absorb UInt64.size 0 (digitsOf (Nat.toDigits 10 n)) =
      (n, (digitsOf (Nat.toDigits 10 n)).length) := by
    rw [absorb_eq (by rw [valueOfDigits_toDigits]; exact hn), valueOfDigits_toDigits]
  rcases Nat.eq_zero_or_pos n with rfl | hpos
  · rw [Nat.toDigits_zero, List.map_singleton, List.singleton_append]
    cases rest with
    | nil => rfl
    | cons c rest =>
      have hc := (hrest c rfl).1
      simp only [readUnsigned, hc]
      rfl
  · have hne := (areDigits_toDigits n).isEmpty_digitsOf
    obtain ⟨c, cs, hdigits, -⟩ := (areDigits_toDigits n).exists_cons
    have hfirst := head?_toDigits hpos
    rw [hdigits] at hspan habsorb hne hfirst
    rw [hdigits, List.map_cons, List.cons_append] at *
    unfold readUnsigned
    split
    · rename_i heq
      cases heq
    · rename_i heq
      cases heq
      exact absurd rfl hfirst
    · simp only [hspan, hne, habsorb, Nat.sub_self]
      rfl

/-- **An integer of 64 bits is read from its numeral.** -/
theorem readNumber_numeral {i : Int} (hleast : -9223372036854775808 ≤ i)
    (hmost : i < 18446744073709551616) :
    readNumber ((Text.numeral i).map some ++ rest) = .ok (.int i, rest) := by
  rcases i with n | n
  · have hn : n < UInt64.size := by
      simp only [UInt64.size, Int.ofNat_eq_natCast] at hmost ⊢
      omega
    have hread := readUnsigned_toDigits hrest false hn
    rw [readTail_ends hrest, if_neg (by decide)] at hread
    show readNumber ((Nat.toDigits 10 n).map some ++ rest) = .ok (.int n, rest)
    unfold readNumber
    split
    · rename_i heq
      obtain ⟨c, cs, hdigits, hc⟩ := (areDigits_toDigits n).exists_cons
      rw [hdigits] at heq
      cases heq
      exact absurd hc (by decide)
    · exact hread
  · have hn : n + 1 < UInt64.size := by
      simp only [UInt64.size]
      omega
    have hread := readUnsigned_toDigits hrest true hn
    rw [readTail_ends hrest, if_pos rfl, if_pos (by omega)] at hread
    exact hread

end reading

end TenantOnboarding.Json
