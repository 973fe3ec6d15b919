import TenantOnboarding.Email.Basic
import TenantOnboarding.Proofs.Text.Cutting

/-!
# The rule for emails

What an email is, said without looking for anything in a text.

* `Label` and `AsciiDomain` are the forms of a domain in ASCII: labels with points between them, or
  anything that ends with the address of a host in brackets.
* `Follows` is the whole rule: a user and a domain with an `@` between them.
* **`isValid_iff`**: `isValid` finds out whether a text follows the rule.
-/

namespace TenantOnboarding.Email

variable {cs : List Char}

/-! ## Labels -/

/-- A label is a letter or digit, or two of them with at most 61 letters, digits and hyphens between
them. -/
inductive Label : List Char → Prop where
  | single {c : Char} (hc : isAlphanumeric c = true) : Label [c]
  | longer {first last : Char} {middle : List Char} (hfirst : isAlphanumeric first = true)
      (hlast : isAlphanumeric last = true) (hlength : middle.length ≤ 61)
      (hmiddle : ∀ c ∈ middle, isAlphanumeric c = true ∨ c = '-') :
      Label (first :: (middle ++ [last]))

/-- A character is a label if it is a letter or digit. -/
theorem isLabel_singleton {c : Char} : isLabel [c] = true ↔ isAlphanumeric c = true := by
  simp only [isLabel, List.all_cons, List.all_nil, List.length_singleton, List.head?_cons,
    List.getLast?_singleton, Option.any_some, Bool.and_eq_true, Bool.or_eq_true]
  constructor
  · rintro ⟨-, hc⟩
    exact hc
  · intro hc
    exact ⟨⟨⟨⟨.inl hc, trivial⟩, rfl⟩, hc⟩, hc⟩

/-- A longer text is a label by its two ends and what stands between them. -/
theorem isLabel_ends {first last : Char} {middle : List Char} :
    isLabel (first :: (middle ++ [last])) = true ↔
      isAlphanumeric first = true ∧ isAlphanumeric last = true ∧ middle.length ≤ 61 ∧
        ∀ c ∈ middle, isAlphanumeric c = true ∨ c = '-' := by
  have hlast : (first :: (middle ++ [last])).getLast? = some last := by
    rw [← List.cons_append, List.getLast?_append, List.getLast?_singleton, Option.some_or]
  unfold isLabel
  rw [hlast]
  simp only [List.all_cons, List.all_append, List.all_nil, List.length_cons, List.length_append,
    List.length_nil, List.head?_cons, Option.any_some, Bool.and_eq_true, Bool.or_eq_true,
    beq_iff_eq, decide_eq_true_eq, List.all_eq_true]
  constructor
  · rintro ⟨⟨⟨⟨-, hmiddle, -⟩, hlength⟩, hfirst⟩, hlast⟩
    exact ⟨hfirst, hlast, by omega, hmiddle⟩
  · rintro ⟨hfirst, hlast, hlength, hmiddle⟩
    exact ⟨⟨⟨⟨.inl hfirst, hmiddle, .inl hlast, trivial⟩, by omega⟩, hfirst⟩, hlast⟩

/-- Labels are recognised. -/
theorem isLabel_iff : isLabel cs = true ↔ Label cs := by
  constructor
  · intro h
    cases cs with
    | nil => cases h
    | cons first rest =>
      rcases List.eq_nil_or_concat rest with rfl | ⟨middle, last, rfl⟩
      · exact .single (isLabel_singleton.mp h)
      · rw [List.concat_eq_append] at h ⊢
        obtain ⟨hfirst, hlast, hlength, hmiddle⟩ := isLabel_ends.mp h
        exact .longer hfirst hlast hlength hmiddle
  · intro h
    cases h with
    | single hc => exact isLabel_singleton.mpr hc
    | longer hfirst hlast hlength hmiddle =>
      exact isLabel_ends.mpr ⟨hfirst, hlast, hlength, hmiddle⟩

/-- There is no point in a label. -/
theorem Label.no_point (h : Label cs) : '.' ∉ cs := by
  have hpoint : ¬isAlphanumeric '.' = true := by decide
  cases h with
  | single hc =>
    intro hmem
    exact hpoint (List.mem_singleton.mp hmem ▸ hc)
  | longer hfirst hlast hlength hmiddle =>
    intro hmem
    rcases List.mem_cons.mp hmem with rfl | hmem
    · exact hpoint hfirst
    rcases List.mem_append.mp hmem with hmem | hmem
    · rcases hmiddle '.' hmem with hc | hc
      · exact hpoint hc
      · exact absurd hc (by decide)
    · exact hpoint (List.mem_singleton.mp hmem ▸ hlast)

/-! ## Domains -/

/-- What stands in the brackets is what a text ends with. -/
theorem inBrackets?_eq_some_iff {host : List Char} :
    inBrackets? cs = some host ↔ ∃ front, cs = front ++ '[' :: (host ++ [']']) ∧ '[' ∉ host := by
  unfold inBrackets?
  constructor
  · intro h
    split at h
    · rename_i rest hreverse
      split at h
      · rename_i hopen
        obtain ⟨before, behind, rfl, hno⟩ :=
          List.eq_append_cons_of_mem (List.contains_iff_mem.mp hopen)
        rw [(Text.cut_iff.mpr ⟨rfl, hno⟩).1] at h
        cases h
        refine ⟨behind.reverse, ?_, fun hmem => hno (List.mem_reverse.mp hmem)⟩
        rw [← List.reverse_reverse cs, hreverse]
        simp
      · cases h
    · cases h
  · rintro ⟨front, rfl, hhost⟩
    have hreverse : (front ++ '[' :: (host ++ [']'])).reverse =
        ']' :: (host.reverse ++ '[' :: front.reverse) := by
      simp
    have hno : '[' ∉ host.reverse := fun hmem => hhost (List.mem_reverse.mp hmem)
    have hopen : (host.reverse ++ '[' :: front.reverse).contains '[' = true := by simp
    simp only [hreverse, hopen, if_true, (Text.cut_iff.mpr ⟨rfl, hno⟩).1, List.reverse_reverse]

/-- A domain in ASCII is one or more labels with points between them, or ends with the address of a host in
brackets, whatever stands in front. -/
inductive AsciiDomain : List Char → Prop where
  | labels {labels : List (List Char)} (hsome : labels ≠ []) (hlabels : ∀ l ∈ labels, Label l) :
      AsciiDomain (['.'].intercalate labels)
  | address {front host : List Char} (hopen : '[' ∉ host) (hhost : isHostAddress host = true) :
      AsciiDomain (front ++ '[' :: (host ++ [']']))

/-- Domains in ASCII are recognised. -/
theorem isAsciiDomain_iff : isAsciiDomain cs = true ↔ AsciiDomain cs := by
  unfold isAsciiDomain
  rw [Bool.or_eq_true, List.all_eq_true, Option.any_eq_true]
  constructor
  · rintro (hlabels | ⟨host, hhost, haddress⟩)
    · have hjoin : ['.'].intercalate (cs.splitOn '.') = cs := List.intercalate_splitOn '.'
      rw [← hjoin]
      exact .labels (List.splitOn_ne_nil '.' cs) fun l hl => isLabel_iff.mp (hlabels l hl)
    · obtain ⟨front, rfl, hopen⟩ := inBrackets?_eq_some_iff.mp hhost
      exact .address hopen haddress
  · intro h
    cases h with
    | @labels labels hsome hlabels =>
      left
      rw [List.splitOn_intercalate '.' (fun l hl => (hlabels l hl).no_point) hsome]
      exact fun l hl => isLabel_iff.mpr (hlabels l hl)
    | @address front host hopen haddress =>
      exact .inr ⟨host, inBrackets?_eq_some_iff.mpr ⟨front, rfl, hopen⟩, haddress⟩

/-! ## Emails -/

/-- An email is split at its last `@`. -/
theorem split?_eq_some_iff {user domain : List Char} :
    split? cs = some (user, domain) ↔ cs = user ++ '@' :: domain ∧ '@' ∉ domain := by
  rw [← Text.cut_reverse_iff]
  unfold split?
  constructor
  · intro h
    split at h
    · cases h
    · rename_i x rest hdrop
      cases h
      rw [hdrop, Text.eq_of_dropWhile hdrop, List.reverse_reverse, List.reverse_reverse]
      exact ⟨rfl, rfl⟩
  · rintro ⟨htake, hdrop⟩
    simp only [hdrop, htake, List.reverse_reverse]

/-- A text follows the rule for emails with this user and this domain: they have an `@` between them, and
the domain is one in ASCII or has one as its ASCII form. -/
structure Follows (s : String) (user domain : List Char) : Prop where
  text_eq : s.toList = user ++ '@' :: domain
  /-- The `@` between them is the last one. -/
  whole : '@' ∉ domain
  user_some : user ≠ []
  user_length : user.length ≤ 64
  user_chars : ∀ c ∈ user, isUserChar c = true
  domain_length : domain.length ≤ 255
  domain_form : AsciiDomain domain ∨ ∃ ascii, Idna.toAscii? domain = some ascii ∧ AsciiDomain ascii

/-- **A text is an email if it follows the rule.** -/
theorem isValid_iff {s : String} : isValid s = true ↔ ∃ user domain, Follows s user domain := by
  have hform (domain : List Char) : isDomain domain = true ↔
      AsciiDomain domain ∨ ∃ ascii, Idna.toAscii? domain = some ascii ∧ AsciiDomain ascii := by
    simp only [isDomain, Bool.or_eq_true, Option.any_eq_true, isAsciiDomain_iff]
  unfold isValid
  constructor
  · intro h
    split at h
    · cases h
    · rename_i user domain hsplit
      obtain ⟨htext, hwhole⟩ := split?_eq_some_iff.mp hsplit
      simp only [Bool.and_eq_true, decide_eq_true_eq, Bool.not_eq_true', List.all_eq_true] at h
      obtain ⟨⟨⟨⟨huser, hdomain⟩, hsome⟩, hchars⟩, hisDomain⟩ := h
      refine ⟨user, domain, htext, hwhole, ?_, huser, hchars, hdomain, (hform domain).mp hisDomain⟩
      rintro rfl
      cases hsome
  · rintro ⟨user, domain, h⟩
    have hsome : user.isEmpty = false := List.isEmpty_eq_false_iff.mpr h.user_some
    rw [split?_eq_some_iff.mpr ⟨h.text_eq, h.whole⟩]
    simp only [Bool.and_eq_true, decide_eq_true_eq, Bool.not_eq_true', List.all_eq_true]
    exact ⟨⟨⟨⟨h.user_length, h.domain_length⟩, hsome⟩, h.user_chars⟩,
      (hform domain).mpr h.domain_form⟩

end TenantOnboarding.Email
