import Mathlib.Data.List.TakeWhile
import TenantOnboarding.Text.Blank

/-!
# Trimmed texts

* `Trims s t` is what trimming is meant to do: `t` stands in `s` between blanks and neither starts nor ends
  with one.
* **`trims_trim`**: `trim` does it, and `Trims.eq_trim` says that there is no other way to do it.
* `AllBlank s` says that nothing is left (`trim_eq_empty_iff`).
-/

namespace TenantOnboarding.Text

/-- The second text is the first one without the blanks at its two ends. -/
structure Trims (s t : String) : Prop where
  /-- It stands in the first text with nothing but blanks around it. -/
  between : ∃ before behind, s.toList = before ++ t.toList ++ behind ∧
    (∀ c ∈ before, isBlank c = true) ∧ ∀ c ∈ behind, isBlank c = true
  /-- It starts with no blank. -/
  first : ∀ c, t.toList.head? = some c → isBlank c = false
  /-- It ends with no blank. -/
  last : ∀ c, t.toList.getLast? = some c → isBlank c = false

/-- What is left when blanks are dropped does not start with one. -/
theorem isBlank_of_head?_dropWhile {cs : List Char} {c : Char}
    (h : (cs.dropWhile isBlank).head? = some c) : isBlank c = false := by
  have hhead := List.head?_dropWhile_not isBlank cs
  rw [h] at hhead
  simpa using hhead

/-- The characters that are trimmed at the end stand behind the others. -/
theorem trimEnd_append (cs : List Char) :
    trimEnd cs ++ (cs.reverse.takeWhile isBlank).reverse = cs := by
  rw [trimEnd, ← List.reverse_append, List.takeWhile_append_dropWhile, List.reverse_reverse]

/-- **A text is trimmed.** -/
theorem trims_trim (s : String) : Trims s (trim s) := by
  have htrim : (trim s).toList = trimEnd (trimStart s.toList) := String.toList_ofList
  have hend := trimEnd_append (trimStart s.toList)
  refine ⟨⟨s.toList.takeWhile isBlank, ((trimStart s.toList).reverse.takeWhile isBlank).reverse,
    ?_, ?_, ?_⟩, ?_, ?_⟩
  · rw [htrim, List.append_assoc, hend]
    exact List.takeWhile_append_dropWhile.symm
  · intro c hc
    exact List.mem_takeWhile_imp hc
  · intro c hc
    exact List.mem_takeWhile_imp (List.mem_reverse.mp hc)
  · intro c hc
    have hstart : (trimStart s.toList).head? = some c := by
      rw [← hend, List.head?_append, ← htrim, hc]
      rfl
    exact isBlank_of_head?_dropWhile hstart
  · intro c hc
    rw [htrim, trimEnd, List.getLast?_reverse] at hc
    exact isBlank_of_head?_dropWhile hc

/-! ## One way to trim -/

/-- Where the first character is not blank, nothing is dropped. -/
theorem dropWhile_of_head? {cs : List Char} (h : ∀ c, cs.head? = some c → isBlank c = false) :
    cs.dropWhile isBlank = cs := by
  cases cs with
  | nil => rfl
  | cons c cs => rw [List.dropWhile_cons_of_neg (Bool.eq_false_iff.mp (h c rfl))]

/-- Where all characters are blank, all are dropped. -/
theorem dropWhile_of_blank {cs : List Char} (h : ∀ c ∈ cs, isBlank c = true) :
    cs.dropWhile isBlank = [] :=
  List.dropWhile_eq_nil_iff.mpr h

variable {s t : String}

/-- **There is one way to trim a text.** -/
theorem Trims.eq_trim (h : Trims s t) : t = trim s := by
  obtain ⟨⟨before, behind, hs, hbefore, hbehind⟩, hfirst, hlast⟩ := h
  have hbehind' : ∀ c ∈ behind.reverse, isBlank c = true :=
    fun c hc => hbehind c (List.mem_reverse.mp hc)
  rw [trim, trimStart, trimEnd, hs, List.append_assoc, List.dropWhile_append_of_pos hbefore]
  rcases hempty : t.toList with _ | ⟨c, cs⟩
  · rw [List.nil_append, dropWhile_of_blank hbehind]
    exact String.toList_injective hempty
  · have hstart : ((c :: cs) ++ behind).dropWhile isBlank = (c :: cs) ++ behind :=
      dropWhile_of_head? fun c' hc' => hfirst c' (hempty ▸ hc')
    have hend : (c :: cs).reverse.dropWhile isBlank = (c :: cs).reverse := by
      apply dropWhile_of_head?
      intro c' hc'
      rw [List.head?_reverse, ← hempty] at hc'
      exact hlast c' hc'
    rw [hstart, List.reverse_append, List.dropWhile_append_of_pos hbehind', hend,
      List.reverse_reverse, ← hempty, String.ofList_toList]

/-- A text is trimmed to another one exactly if the other one is what is left. -/
theorem trims_iff : Trims s t ↔ t = trim s := by
  constructor
  · exact Trims.eq_trim
  · rintro rfl
    exact trims_trim s

/-- A text without blanks at its ends is left as it is. -/
theorem Trims.self (h : Trims s t) : Trims t t :=
  ⟨⟨[], [], (List.append_nil _).symm, nofun, nofun⟩, h.first, h.last⟩

/-- All characters of a text are blank. -/
def AllBlank (s : String) : Prop :=
  ∀ c ∈ s.toList, isBlank c = true

/-- Nothing is left of a blank text, and of no other. -/
theorem trim_eq_empty_iff : trim s = "" ↔ AllBlank s := by
  rw [eq_comm, ← trims_iff]
  constructor
  · rintro ⟨⟨before, behind, hs, hbefore, hbehind⟩, -, -⟩ c hc
    rw [hs, List.append_assoc] at hc
    rcases List.mem_append.mp hc with hc | hc
    · exact hbefore c hc
    · exact hbehind c hc
  · intro h
    exact ⟨⟨s.toList, [], by simp, h, nofun⟩, nofun, nofun⟩

/-- A character that is not blank is not trimmed. -/
theorem Trims.mem_iff (h : Trims s t) {c : Char} (hc : isBlank c = false) :
    c ∈ t.toList ↔ c ∈ s.toList := by
  obtain ⟨⟨before, behind, hs, hbefore, hbehind⟩, -, -⟩ := h
  have hnot {cs : List Char} (hblank : ∀ c ∈ cs, isBlank c = true) : c ∉ cs := by
    intro hmem
    rw [hblank c hmem] at hc
    cases hc
  rw [hs, List.mem_append, List.mem_append, or_iff_left (hnot hbehind), or_iff_right (hnot hbefore)]

end TenantOnboarding.Text
