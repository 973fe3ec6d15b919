import Mathlib.Data.List.Induction
import TenantOnboarding.Text.Numeral

/-!
# Unsigned numerals

* `Denotes` says which number digits stand for, and `IsUnsigned` allows a plus sign in front of them.
* `denotes_iff`: the digits are read one by one, and their value is that number.
* **`unsigned?_eq_some_iff`**: an unsigned numeral is read exactly if its number is within the bound, however
  many digits it has.
-/

namespace TenantOnboarding.Text

/-- The number that digits stand for, at least one of them. Zeros may stand in front. -/
inductive Denotes : List Char → Nat → Prop where
  | digit {c : Char} (hc : c.isDigit = true) : Denotes [c] (c.toNat - '0'.toNat)
  | more {cs : List Char} {n : Nat} {c : Char} (h : Denotes cs n) (hc : c.isDigit = true) :
      Denotes (cs ++ [c]) (n * 10 + (c.toNat - '0'.toNat))

/-- The text is an unsigned numeral of the number: its digits, or a plus sign and its digits. -/
def IsUnsigned (s : String) (n : Nat) : Prop :=
  Denotes s.toList n ∨ ∃ cs, s.toList = '+' :: cs ∧ Denotes cs n

variable {c : Char} {cs : List Char} {d n most : Nat} {s : String}

/-! ## Digits -/

/-- A digit has a value, and no other character has one. -/
theorem digit?_eq_some_iff : digit? c = some d ↔ c.isDigit = true ∧ c.toNat - '0'.toNat = d := by
  simp only [digit?, Option.ite_none_right_eq_some, Option.some.injEq, Char.isDigit, Bool.and_eq_true,
    decide_eq_true_eq]
  rfl

/-- The value of the digits of a text, if there is nothing else in it. -/
def digitsValue? (cs : List Char) : Option Nat :=
  (cs.mapM digit?).map (valueOfDigits 10 0)

/-- A further digit counts for itself, and makes those before it count ten times as much. -/
theorem digitsValue?_snoc (cs : List Char) (c : Char) :
    digitsValue? (cs ++ [c]) = (digitsValue? cs).bind fun n => (digit? c).map (n * 10 + ·) := by
  rw [digitsValue?, digitsValue?, List.mapM_append]
  rcases cs.mapM digit? with _ | ds
  · rfl
  · rcases hc : digit? c with _ | d <;> simp [hc, valueOfDigits]

/-- **Digits stand for the number that is their value.** -/
theorem denotes_iff : Denotes cs n ↔ cs ≠ [] ∧ digitsValue? cs = some n := by
  constructor
  · intro h
    induction h with
    | @digit c hc =>
      have hdigit := digit?_eq_some_iff.mpr ⟨hc, rfl⟩
      exact ⟨List.cons_ne_nil _ _, by simp [digitsValue?, hdigit, valueOfDigits]⟩
    | more h hc ih =>
      have hdigit := digit?_eq_some_iff.mpr ⟨hc, rfl⟩
      rw [digitsValue?_snoc, ih.2, Option.bind_some, hdigit]
      exact ⟨List.append_ne_nil_of_right_ne_nil _ (List.cons_ne_nil _ _), rfl⟩
  · induction cs using List.reverseRecOn generalizing n with
    | nil => exact fun h => absurd rfl h.1
    | append_singleton cs c ih =>
      rintro ⟨-, hvalue⟩
      rw [digitsValue?_snoc, Option.bind_eq_some_iff] at hvalue
      obtain ⟨m, hm, hvalue⟩ := hvalue
      obtain ⟨d, hd, rfl⟩ := Option.map_eq_some_iff.mp hvalue
      obtain ⟨hc, rfl⟩ := digit?_eq_some_iff.mp hd
      by_cases hcs : cs = []
      · obtain rfl : m = 0 := by
          rw [hcs] at hm
          exact (Option.some.inj hm).symm
        rw [hcs, List.nil_append, Nat.zero_mul, Nat.zero_add]
        exact .digit hc
      · exact .more (ih ⟨hcs, hm⟩) hc

/-- Digits begin with no sign. -/
theorem not_denotes_plus : ¬Denotes ('+' :: cs) n := by
  rw [denotes_iff, digitsValue?, List.mapM_cons]
  rintro ⟨-, hvalue⟩
  cases hvalue

/-! ## Numerals -/

/-- What stands behind a plus sign in front, or everything. -/
def behindPlus : List Char → List Char
  | '+' :: rest => rest
  | cs => cs

/-- An unsigned numeral has its digits behind the plus sign. -/
theorem isUnsigned_iff : IsUnsigned s n ↔ Denotes (behindPlus s.toList) n := by
  unfold IsUnsigned
  generalize s.toList = cs
  fun_cases behindPlus cs with
  | case1 rest =>
    rw [or_iff_right not_denotes_plus]
    constructor
    · rintro ⟨cs, hcs, h⟩
      cases hcs
      exact h
    · intro h
      exact ⟨rest, rfl, h⟩
  | case2 _ hplus =>
    apply or_iff_left
    rintro ⟨rest, hcs, -⟩
    exact hplus rest hcs

/-- Reading takes the digits behind the plus sign, and their value. -/
theorem unsigned?_eq (most : Nat) (s : String) :
    unsigned? most s = if (behindPlus s.toList).isEmpty then none
      else (digitsValue? (behindPlus s.toList)).bind fun n => if n ≤ most then some n else none := by
  rw [digitsValue?, Option.bind_map]
  rfl

/-- **An unsigned numeral is read exactly if its number is within the bound.** -/
theorem unsigned?_eq_some_iff : unsigned? most s = some n ↔ IsUnsigned s n ∧ n ≤ most := by
  rw [unsigned?_eq, isUnsigned_iff, denotes_iff, Option.ite_none_left_eq_some, List.isEmpty_iff,
    Option.bind_eq_some_iff, and_assoc]
  refine and_congr_right fun _ => ?_
  constructor
  · rintro ⟨m, hm, hle⟩
    obtain ⟨hle, hmn⟩ := Option.ite_none_right_eq_some.mp hle
    cases hmn
    exact ⟨hm, hle⟩
  · rintro ⟨hn, hle⟩
    exact ⟨n, hn, if_pos hle⟩

end TenantOnboarding.Text
