import Mathlib.Data.List.TakeWhile

/-!
# Texts that are cut

* **`cut_iff`**: a text is cut at the first occurrence of a character; from the other side, with
  `cut_reverse_iff`, at the last one.
* `cutFirst?` and `cutLast?` give what stands on the two sides of such a cut.
-/

namespace TenantOnboarding.Text

variable {c : Char} {cs before behind : List Char}

/-- A text is cut at the first occurrence of a character. -/
theorem cut_iff :
    cs.takeWhile (· ≠ c) = before ∧ cs.dropWhile (· ≠ c) = c :: behind ↔
      cs = before ++ c :: behind ∧ c ∉ before := by
  constructor
  · rintro ⟨rfl, hbehind⟩
    constructor
    · rw [← hbehind, List.takeWhile_append_dropWhile]
    · intro hmem
      have hne := List.mem_takeWhile_imp hmem
      simp at hne
  · rintro ⟨rfl, hbefore⟩
    have hother : ∀ x ∈ before, decide (x ≠ c) = true := by
      intro x hx
      rw [decide_eq_true_eq]
      rintro rfl
      exact hbefore hx
    rw [List.takeWhile_append_of_pos hother, List.dropWhile_append_of_pos hother,
      List.takeWhile_cons_of_neg (by simp), List.dropWhile_cons_of_neg (by simp), List.append_nil]
    exact ⟨rfl, rfl⟩

/-- Where something is left when the characters before an occurrence are dropped, that occurrence comes
first. -/
theorem eq_of_dropWhile {x : Char} (h : cs.dropWhile (· ≠ c) = x :: behind) : x = c := by
  have hhead := List.head?_dropWhile_not (· ≠ c) cs
  rw [h] at hhead
  simpa using hhead

/-- Read backwards, a text is cut at the last occurrence of a character. -/
theorem cut_reverse_iff :
    cs.reverse.takeWhile (· ≠ c) = behind.reverse ∧
        cs.reverse.dropWhile (· ≠ c) = c :: before.reverse ↔
      cs = before ++ c :: behind ∧ c ∉ behind := by
  have hreverse : (before ++ c :: behind).reverse = behind.reverse ++ c :: before.reverse := by
    simp
  rw [cut_iff, ← hreverse, List.reverse_inj, List.mem_reverse]

/-- What stands before the first occurrence of a character, and what stands behind it. -/
def cutFirst? (c : Char) (cs : List Char) : Option (List Char × List Char) :=
  match cs.dropWhile (· ≠ c) with
  | [] => none
  | _ :: behind => some (cs.takeWhile (· ≠ c), behind)

/-- What stands before the last occurrence of a character, and what stands behind it. -/
def cutLast? (c : Char) (cs : List Char) : Option (List Char × List Char) :=
  (cutFirst? c cs.reverse).map fun (behind, before) => (before.reverse, behind.reverse)

/-- At the first occurrence nothing else is cut. -/
theorem cutFirst?_eq_some_iff :
    cutFirst? c cs = some (before, behind) ↔ cs = before ++ c :: behind ∧ c ∉ before := by
  rw [← cut_iff]
  unfold cutFirst?
  constructor
  · intro h
    split at h
    · cases h
    · rename_i x rest hdrop
      cases h
      rw [hdrop, eq_of_dropWhile hdrop]
      exact ⟨rfl, rfl⟩
  · rintro ⟨htake, hdrop⟩
    simp only [hdrop, htake]

/-- At the last occurrence nothing else is cut. -/
theorem cutLast?_eq_some_iff :
    cutLast? c cs = some (before, behind) ↔ cs = before ++ c :: behind ∧ c ∉ behind := by
  rw [← cut_reverse_iff, cut_iff, ← cutFirst?_eq_some_iff, cutLast?, Option.map_eq_some_iff]
  constructor
  · rintro ⟨⟨front, back⟩, hcut, heq⟩
    cases heq
    rwa [List.reverse_reverse, List.reverse_reverse]
  · intro hcut
    exact ⟨_, hcut, by simp only [List.reverse_reverse]⟩

end TenantOnboarding.Text
