import TenantOnboarding.Proofs.Email.Rule
import TenantOnboarding.Proofs.Text.Trimming
import TenantOnboarding.Provisioning.Request

/-!
# What is accepted

The examination of a request, told by what the visitor wrote and not by the order in which it is looked
at.

* `Request.Misnames`, `Request.Lacks` and `Request.Exceeds` are the three things that may be wrong with a
  request. The first that applies is the one that the visitor is told.
* `Tidied` is a text of the request as it is kept: without the blanks around it, or not at all if nothing
  is left. `Request.Yields` says what an accepted request asks to be stored.
* **`judged_in_order`**: which request is rejected with which message, which one is accepted, and as what;
  what was accepted is accepted again as it is.
-/

namespace TenantOnboarding.Provisioning

open Text

/-! ## Texts of a request -/

/-- A text that may be missing is kept like this. -/
inductive Tidied : Option String → Option String → Prop where
  /-- What is missing stays so. -/
  | missing : Tidied none none
  /-- What is blank counts as missing. -/
  | blank {given : String} (hblank : AllBlank given) : Tidied (some given) none
  /-- Everything else is kept without the blanks around it. -/
  | kept {given t : String} (htrims : Trims given t) (hsome : t ≠ "") : Tidied (some given) (some t)

variable {s t : String} {given kept : Option String}

/-- A text is dropped if all of it is blank. -/
theorem trimmed?_eq_none_iff : trimmed? s = none ↔ AllBlank s := by
  rw [← trim_eq_empty_iff, ← String.isEmpty_iff]
  simp [trimmed?]

/-- A text is kept without the blanks around it. -/
theorem trimmed?_eq_some_iff : trimmed? s = some t ↔ Trims s t ∧ t ≠ "" := by
  rw [trims_iff, ne_eq, ← String.isEmpty_iff]
  unfold trimmed?
  dsimp only
  constructor
  · intro h
    split at h
    · cases h
    · rename_i hsome
      cases h
      exact ⟨rfl, hsome⟩
  · rintro ⟨rfl, hsome⟩
    exact if_neg hsome

/-- Texts are kept in one way. -/
theorem tidied_iff : Tidied given kept ↔ given.bind trimmed? = kept := by
  cases given with
  | none =>
    rw [Option.bind_none]
    constructor
    · intro h
      cases h
      rfl
    · rintro rfl
      exact .missing
  | some s =>
    rw [Option.bind_some]
    constructor
    · intro h
      cases h with
      | blank hblank => exact trimmed?_eq_none_iff.mpr hblank
      | kept htrims hsome => exact trimmed?_eq_some_iff.mpr ⟨htrims, hsome⟩
    · intro h
      cases kept with
      | none => exact .blank (trimmed?_eq_none_iff.mp h)
      | some t =>
        obtain ⟨htrims, hsome⟩ := trimmed?_eq_some_iff.mp h
        exact .kept htrims hsome

/-- What is kept is kept again as it is. -/
theorem Tidied.again (h : Tidied given kept) : Tidied kept kept := by
  cases h with
  | missing | blank => exact .missing
  | kept htrims hsome => exact .kept htrims.self hsome

/-- Something is left of what is kept. -/
theorem Tidied.ne_empty (h : Tidied given (some t)) : t ≠ "" := by
  cases h with
  | kept _ hsome => exact hsome

/-- Nothing is kept of what is missing or blank. -/
theorem tidied_none_iff : Tidied given none ↔ ∀ s, given = some s → AllBlank s := by
  constructor
  · rintro (_ | hblank) s hs
    · cases hs
    · cases hs
      exact hblank
  · intro h
    cases given with
    | none => exact .missing
    | some s => exact .blank (h s rfl)

/-- What is kept of a text is too long if the text without the blanks around it is. -/
theorem Tidied.long_iff (h : Tidied given kept) (most : Nat) :
    (∃ s t, given = some s ∧ Trims s t ∧ most < t.length) ↔ ∃ t, kept = some t ∧ most < t.length := by
  constructor
  · rintro ⟨s, t, rfl, htrims, hlong⟩
    have hsome : t ≠ "" := by
      rintro rfl
      exact Nat.not_lt_zero most hlong
    have hkept := tidied_iff.mp (Tidied.kept htrims hsome)
    exact ⟨t, (tidied_iff.mp h).symm.trans hkept, hlong⟩
  · rintro ⟨t, rfl, hlong⟩
    cases h with
    | @kept s t htrims hsome => exact ⟨s, t, rfl, htrims, hlong⟩

/-- What is kept of a text has the same characters, but for blanks. -/
theorem Tidied.mem_iff (h : Tidied given kept) {c : Char} (hc : isBlank c = false) :
    (∃ t, kept = some t ∧ c ∈ t.toList) ↔ ∃ s, given = some s ∧ c ∈ s.toList := by
  cases h with
  | missing => simp
  | @blank given hblank =>
    have hnot : c ∉ given.toList := fun hmem => Bool.eq_false_iff.mp hc (hblank c hmem)
    simp [hnot]
  | kept htrims hsome => simp [htrims.mem_iff hc]

/-! ## What may be wrong -/

namespace Request

variable (r : Request) (verified : String)

/-- The email that a request names. -/
def email? : Option String := r.owner.bind (·.email)

/-- The name that a request asks for. -/
def name? : Option String := r.organization.bind (·.name)

/-- The description that a request asks for. -/
def description? : Option String := r.organization.bind (·.description)

/-- The request names an email that is not the visitor's own, even if only a blank or a letter's case
differs. -/
def Misnames : Prop :=
  ∃ email, r.email? = some email ∧ email ≠ verified

/-- The request names no email, or no name but blanks. -/
def Lacks : Prop :=
  r.email? = none ∨ ∀ name, r.name? = some name → AllBlank name

/-- The name or the description is too long when the blanks around it are dropped, or the visitor's email
does not follow the rule. -/
def Exceeds : Prop :=
  (∃ given name, r.name? = some given ∧ Trims given name ∧ 255 < name.length) ∨
  (∃ given text, r.description? = some given ∧ Trims given text ∧ 2000 < text.length) ∨
  ¬∃ user domain, Email.Follows verified user domain

/-- What is to be stored for an accepted request. -/
structure Yields (n : NewOrganization) : Prop where
  name : Tidied r.name? (some n.name)
  description : Tidied r.description? n.description
  owner : n.ownerEmail = verified

end Request

/-! ## What is found wrong -/

/-- Nothing is wrong with what keeps to the limits and has an email that follows the rule. -/
theorem NewOrganization.faults_eq_nil_iff {n : NewOrganization} :
    n.faults = [] ↔ (1 ≤ n.name.length ∧ n.name.length ≤ 255) ∧
      (∀ text, n.description = some text → text.length ≤ 2000) ∧
      ∃ user domain, Email.Follows n.ownerEmail user domain := by
  have hite {p : Prop} [Decidable p] {α : Type} {a : α} :
      (if p then [a] else []) = [] ↔ ¬p := by
    by_cases hp : p <;> simp [hp]
  have hvalid {p : Prop} [Decidable p] {α : Type} {a : α} :
      (if p then [] else [a]) = [] ↔ p := by
    by_cases hp : p <;> simp [hp]
  have hdescription : (¬n.description.any (fun d => longestDescription < d.length) = true) ↔
      ∀ text, n.description = some text → text.length ≤ 2000 := by
    rw [Option.any_eq_true, not_exists]
    simp only [decide_eq_true_eq, not_and, Nat.not_lt]
    rfl
  unfold NewOrganization.faults
  rw [List.append_eq_nil_iff, List.append_eq_nil_iff, hite, hite, hvalid, hdescription,
    Email.isValid_iff, and_assoc, and_left_comm]
  have hname : (¬(n.name.length < 1 ∨ longestName < n.name.length)) ↔
      1 ≤ n.name.length ∧ n.name.length ≤ 255 := by
    unfold longestName
    omega
  rw [hname]

namespace Request

variable {r : Request} {verified : String} {n : NewOrganization}

/-- A request that lacks nothing asks for something to be stored, and names the visitor's own email if it
names no other. -/
theorem exists_yields (hown : ¬r.Misnames verified) (hwhole : ¬r.Lacks) :
    r.email? = some verified ∧ ∃ n, r.Yields verified n := by
  obtain ⟨hemail, hname⟩ := not_or.mp hwhole
  obtain ⟨name, hname⟩ := not_forall.mp hname
  obtain ⟨hgiven, hsome⟩ := Classical.not_imp.mp hname
  obtain ⟨email, hemail⟩ := Option.ne_none_iff_exists'.mp hemail
  have hsame : email = verified := by
    by_contra hother
    exact hown ⟨email, hemail, hother⟩
  refine ⟨hsame ▸ hemail, ⟨trim name, r.description?.bind trimmed?, verified⟩, ?_, ?_, rfl⟩
  · rw [hgiven]
    exact .kept (trims_trim name) fun hempty => hsome (trim_eq_empty_iff.mp hempty)
  · exact tidied_iff.mpr rfl

/-- Nothing is found wrong with what is to be stored if the request exceeds no limit and the email follows
the rule. -/
theorem Yields.faults_iff (h : r.Yields verified n) : n.faults = [] ↔ ¬r.Exceeds verified := by
  have hsome : 1 ≤ n.name.length :=
    Nat.pos_of_ne_zero fun hzero => h.name.ne_empty (String.length_eq_zero_iff.mp hzero)
  have hname : (¬∃ t, some n.name = some t ∧ 255 < t.length) ↔ n.name.length ≤ 255 := by simp
  have hdescription : (¬∃ t, n.description = some t ∧ 2000 < t.length) ↔
      ∀ t, n.description = some t → t.length ≤ 2000 := by simp
  unfold Exceeds
  rw [h.name.long_iff 255, h.description.long_iff 2000, NewOrganization.faults_eq_nil_iff, h.owner,
    not_or, not_or, not_not, hname, hdescription, and_iff_right hsome]

/-- A request that lacks nothing is judged by what it asks to be stored. -/
theorem Yields.examine_eq (h : r.Yields verified n) (hemail : r.email? = some verified) :
    r.examine verified = if n.faults.isEmpty then .ok n else .error (.faulty n) := by
  have hname : (r.organization.bind (·.name)).bind trimmed? = some n.name := tidied_iff.mp h.name
  have hdescription : (r.organization.bind (·.description)).bind trimmed? = n.description :=
    tidied_iff.mp h.description
  have howner : r.owner.bind (·.email) = some n.ownerEmail := h.owner.symm ▸ hemail
  unfold examine
  simp only [howner, hname, hdescription, Option.any_some, h.owner, ne_eq, not_true_eq_false,
    decide_false, Bool.false_eq_true, if_false]
  cases n
  cases h.owner
  rfl

/-- How a request is judged, by the first thing that is wrong with it. -/
inductive Judged (r : Request) (verified : String) : Except Rejection NewOrganization → Prop where
  | misnaming (h : r.Misnames verified) : Judged r verified (.error .emailMismatch)
  | lacking (hown : ¬r.Misnames verified) (h : r.Lacks) : Judged r verified (.error .incomplete)
  | exceeding {n : NewOrganization} (hown : ¬r.Misnames verified) (hwhole : ¬r.Lacks)
      (h : r.Exceeds verified) (hyields : r.Yields verified n) :
      Judged r verified (.error (.faulty n))
  | proper {n : NewOrganization} (hown : ¬r.Misnames verified) (hwhole : ¬r.Lacks)
      (hkeeps : ¬r.Exceeds verified) (hyields : r.Yields verified n) : Judged r verified (.ok n)

/-- **Every request is judged.** -/
theorem judged (r : Request) (verified : String) : r.Judged verified (r.examine verified) := by
  by_cases hown : r.Misnames verified
  · obtain ⟨email, hemail, hother⟩ := hown
    have hany : (r.owner.bind (·.email)).any (· ≠ verified) = true :=
      (Option.any_eq_true ..).mpr ⟨email, hemail, decide_eq_true hother⟩
    rw [examine, if_pos hany]
    exact .misnaming ⟨email, hemail, hother⟩
  by_cases hwhole : r.Lacks
  · have hany : ¬(r.owner.bind (·.email)).any (· ≠ verified) = true := by
      intro hany
      obtain ⟨email, hemail, hother⟩ := (Option.any_eq_true ..).mp hany
      exact hown ⟨email, hemail, of_decide_eq_true hother⟩
    have hincomplete : r.examine verified = .error .incomplete := by
      rw [examine, if_neg hany]
      rcases hwhole with hemail | hname
      · have hemail : r.owner.bind (·.email) = none := hemail
        rw [hemail]
        cases (r.organization.bind (·.name)).bind trimmed? <;> rfl
      · have hname : (r.organization.bind (·.name)).bind trimmed? = none :=
          tidied_iff.mp (tidied_none_iff.mpr hname)
        rw [hname]
    rw [hincomplete]
    exact .lacking hown hwhole
  · obtain ⟨hemail, n, hyields⟩ := exists_yields hown hwhole
    rw [hyields.examine_eq hemail]
    by_cases hkeeps : r.Exceeds verified
    · rw [if_neg fun hnone => hyields.faults_iff.mp (List.isEmpty_iff.mp hnone) hkeeps]
      exact .exceeding hown hwhole hkeeps hyields
    · rw [if_pos (List.isEmpty_iff.mpr (hyields.faults_iff.mpr hkeeps))]
      exact .proper hown hwhole hkeeps hyields

/-- A request asks for one thing to be stored. -/
theorem Yields.unique {m : NewOrganization} (h : r.Yields verified n) (h' : r.Yields verified m) :
    n = m := by
  have hname := (tidied_iff.mp h.name).symm.trans (tidied_iff.mp h'.name)
  have hdescription := (tidied_iff.mp h.description).symm.trans (tidied_iff.mp h'.description)
  have howner := h.owner.trans h'.owner.symm
  cases n
  cases m
  cases hname
  cases hdescription
  cases howner
  rfl

/-- A request is judged in one way. -/
theorem Judged.unique {outcome outcome' : Except Rejection NewOrganization}
    (h : r.Judged verified outcome) (h' : r.Judged verified outcome') : outcome = outcome' := by
  cases h with
  | misnaming h =>
    cases h' with
    | misnaming => rfl
    | lacking hown | exceeding hown | proper hown => exact absurd h hown
  | lacking hown h =>
    cases h' with
    | misnaming hother => exact absurd hother hown
    | lacking => rfl
    | exceeding _ hwhole | proper _ hwhole => exact absurd h hwhole
  | exceeding hown hwhole h hyields =>
    cases h' with
    | misnaming hother => exact absurd hother hown
    | lacking _ hlacks => exact absurd hlacks hwhole
    | exceeding _ _ _ hyields' => rw [hyields.unique hyields']
    | proper _ _ hkeeps => exact absurd h hkeeps
  | proper hown hwhole hkeeps hyields =>
    cases h' with
    | misnaming hother => exact absurd hother hown
    | lacking _ hlacks => exact absurd hlacks hwhole
    | exceeding _ _ hexceeds => exact absurd hexceeds hkeeps
    | proper _ _ _ hyields' => rw [hyields.unique hyields']

/-- The examination judges a request. -/
theorem examine_eq_iff {outcome : Except Rejection NewOrganization} :
    r.examine verified = outcome ↔ r.Judged verified outcome := by
  constructor
  · rintro rfl
    exact judged r verified
  · exact (judged r verified).unique

/-- What is accepted: a request with which nothing is wrong, as what it asks to be stored. -/
theorem examine_eq_ok_iff : r.examine verified = .ok n ↔
    ¬r.Misnames verified ∧ ¬r.Lacks ∧ ¬r.Exceeds verified ∧ r.Yields verified n := by
  rw [examine_eq_iff]
  constructor
  · intro h
    cases h with
    | proper hown hwhole hkeeps hyields => exact ⟨hown, hwhole, hkeeps, hyields⟩
  · rintro ⟨hown, hwhole, hkeeps, hyields⟩
    exact .proper hown hwhole hkeeps hyields

/-- What passes the examination has the name and the description without the blanks around them, and
the verified email. -/
theorem examine_ok (h : r.examine verified = .ok n) :
    (r.organization.bind (·.name)).bind trimmed? = some n.name ∧
      (r.organization.bind (·.description)).bind trimmed? = n.description ∧
      n.ownerEmail = verified ∧ n.faults = [] := by
  obtain ⟨-, -, hkeeps, hyields⟩ := examine_eq_ok_iff.mp h
  exact ⟨tidied_iff.mp hyields.name, tidied_iff.mp hyields.description, hyields.owner,
    hyields.faults_iff.mpr hkeeps⟩

/-- Who is found to name another email: whoever does. -/
theorem examine_eq_mismatch_iff :
    r.examine verified = .error .emailMismatch ↔ r.Misnames verified := by
  rw [examine_eq_iff]
  constructor
  · intro h
    cases h with
    | misnaming h => exact h
  · exact .misnaming

/-- Whose request is found to be incomplete. -/
theorem examine_eq_incomplete_iff :
    r.examine verified = .error .incomplete ↔ ¬r.Misnames verified ∧ r.Lacks := by
  rw [examine_eq_iff]
  constructor
  · intro h
    cases h with
    | lacking hown h => exact ⟨hown, h⟩
  · rintro ⟨hown, h⟩
    exact .lacking hown h

/-- Whose request is found to have faults. -/
theorem examine_eq_faulty_iff :
    (∃ n, r.examine verified = .error (.faulty n)) ↔
      ¬r.Misnames verified ∧ ¬r.Lacks ∧ r.Exceeds verified := by
  simp only [examine_eq_iff]
  constructor
  · rintro ⟨n, h⟩
    cases h with
    | exceeding hown hwhole h _ => exact ⟨hown, hwhole, h⟩
  · rintro ⟨hown, hwhole, h⟩
    obtain ⟨-, n, hyields⟩ := exists_yields hown hwhole
    exact ⟨n, .exceeding hown hwhole h hyields⟩

variable {print : Printer}

/-- A request is valid if it passes the examination. -/
theorem validateFor_ok_iff : r.validateFor print verified = .ok n ↔ r.examine verified = .ok n := by
  unfold validateFor
  rcases r.examine verified with rejection | n'
  · simp
  · simp

/-- What is rejected is rejected as invalid, with the message of the rejection. -/
theorem validateFor_error_iff {failure : Failure} : r.validateFor print verified = .error failure ↔
    ∃ rejection, r.examine verified = .error rejection ∧
      .validation (rejection.message print) = failure := by
  unfold validateFor
  rcases r.examine verified with rejection | n'
  · simp
  · simp

/-- What is rejected is rejected as invalid. -/
theorem validation_of_validateFor {failure : Failure}
    (h : r.validateFor print verified = .error failure) : ∃ message, failure = .validation message := by
  obtain ⟨rejection, -, rfl⟩ := validateFor_error_iff.mp h
  exact ⟨_, rfl⟩

end Request

/-! ## Messages -/

namespace Rejection

variable {rejection : Rejection} {print : Printer}

/-- The first letter of a message tells why a request is rejected. -/
theorem head?_message (print : Printer) (rejection : Rejection) :
    (rejection.message print).toList.head? =
      match rejection with
      | emailMismatch => some 'E'
      | incomplete => some 'O'
      | faulty _ => some 'V' := by
  cases rejection with
  | emailMismatch =>
    show "Email mismatch between token and request".toList.head? = some 'E'
    decide
  | incomplete =>
    show "Organization name and user email are required".toList.head? = some 'O'
    decide
  | faulty n =>
    have hfirst : "Validation failed: ".toList.head? = some 'V' := by decide
    unfold message
    rw [String.toList_append, List.head?_append, hfirst, Option.some_or]

/-- Who is told of another email has named one. -/
theorem message_eq_mismatch_iff :
    rejection.message print = "Email mismatch between token and request" ↔ rejection = .emailMismatch := by
  constructor
  · intro h
    have hfirst := head?_message print rejection
    have hletter : "Email mismatch between token and request".toList.head? = some 'E' := by decide
    rw [h, hletter] at hfirst
    cases rejection with
    | emailMismatch => rfl
    | incomplete | faulty => exact absurd (Option.some.inj hfirst) (by decide)
  · rintro rfl
    rfl

/-- Who is told that something is missing has left it out. -/
theorem message_eq_incomplete_iff :
    rejection.message print = "Organization name and user email are required" ↔
      rejection = .incomplete := by
  constructor
  · intro h
    have hfirst := head?_message print rejection
    have hletter : "Organization name and user email are required".toList.head? = some 'O' := by
      decide
    rw [h, hletter] at hfirst
    cases rejection with
    | incomplete => rfl
    | emailMismatch | faulty => exact absurd (Option.some.inj hfirst) (by decide)
  · rintro rfl
    rfl

/-- Who is told of faults has made some. -/
theorem message_eq_faulty_iff :
    (∃ rest, rejection.message print = "Validation failed: " ++ rest) ↔
      ∃ n, rejection = .faulty n := by
  constructor
  · rintro ⟨rest, h⟩
    have hfirst := head?_message print rejection
    have hletter : "Validation failed: ".toList.head? = some 'V' := by decide
    rw [h, String.toList_append, List.head?_append, hletter, Option.some_or] at hfirst
    cases rejection with
    | faulty n => exact ⟨n, rfl⟩
    | emailMismatch | incomplete => exact absurd (Option.some.inj hfirst) (by decide)
  · rintro ⟨n, rfl⟩
    exact ⟨_, rfl⟩

end Rejection

/-! ## The judgement -/

/-- The request for what was accepted, in its own words. -/
def NewOrganization.asRequest (n : NewOrganization) : Request :=
  ⟨some ⟨some n.name, n.description⟩, some ⟨some n.ownerEmail⟩⟩

/-- What was accepted is accepted again, as it is. -/
theorem Request.examine_again {r : Request} {verified : String} {n : NewOrganization}
    (h : r.examine verified = .ok n) : n.asRequest.examine verified = .ok n := by
  obtain ⟨-, -, hkeeps, hyields⟩ := examine_eq_ok_iff.mp h
  have hagain : n.asRequest.Yields verified n :=
    ⟨hyields.name.again, hyields.description.again, hyields.owner⟩
  have hemail : n.asRequest.email? = some verified := congrArg some hyields.owner
  rw [hagain.examine_eq hemail, if_pos (List.isEmpty_iff.mpr (hyields.faults_iff.mpr hkeeps))]

/-- **A request is judged by the first thing that is wrong with it**: that it names another email, then that
it lacks a name or an email, then that a text is too long or the email follows no rule. A request with
which nothing is wrong is accepted, its name and its description without the blanks around them and a blank
description not at all; and what was accepted is accepted again as it is. -/
theorem judged_in_order (r : Request) (print : Printer) (verified : String) :
    (r.validateFor print verified =
        .error (.validation "Email mismatch between token and request") ↔
      r.Misnames verified) ∧
    (r.validateFor print verified =
        .error (.validation "Organization name and user email are required") ↔
      ¬r.Misnames verified ∧ r.Lacks) ∧
    ((∃ rest, r.validateFor print verified = .error (.validation ("Validation failed: " ++ rest))) ↔
      ¬r.Misnames verified ∧ ¬r.Lacks ∧ r.Exceeds verified) ∧
    (∀ n, r.validateFor print verified = .ok n ↔
      ¬r.Misnames verified ∧ ¬r.Lacks ∧ ¬r.Exceeds verified ∧ r.Yields verified n) ∧
    ∀ n, r.validateFor print verified = .ok n → n.asRequest.validateFor print verified = .ok n := by
  simp only [Request.validateFor_ok_iff, Request.validateFor_error_iff, Failure.validation.injEq]
  refine ⟨?_, ?_, ?_, fun n => Request.examine_eq_ok_iff, fun n => Request.examine_again⟩
  · simp only [Rejection.message_eq_mismatch_iff, exists_eq_right]
    exact Request.examine_eq_mismatch_iff
  · simp only [Rejection.message_eq_incomplete_iff, exists_eq_right]
    exact Request.examine_eq_incomplete_iff
  · rw [← Request.examine_eq_faulty_iff]
    constructor
    · rintro ⟨rest, rejection, hrejected, hmessage⟩
      obtain ⟨n, rfl⟩ := Rejection.message_eq_faulty_iff.mp ⟨rest, hmessage⟩
      exact ⟨n, hrejected⟩
    · rintro ⟨n, hrejected⟩
      exact ⟨print n, .faulty n, hrejected, rfl⟩

/-- A request with blanks around the name and a description of nothing else. -/
def sampleBlank : Request :=
  ⟨some ⟨some "\t Acme Works ", some " \n"⟩, some ⟨some "ada@example.org"⟩⟩

/-- It is accepted without the blanks and without a description, and then accepted again as it is. -/
theorem judged_in_order_sample :
    sampleBlank.validateFor .plain "ada@example.org" = .ok ⟨"Acme Works", none, "ada@example.org"⟩ ∧
      Request.validateFor ⟨some ⟨some "Acme Works", none⟩, some ⟨some "ada@example.org"⟩⟩
        .plain "ada@example.org" = .ok ⟨"Acme Works", none, "ada@example.org"⟩ := by
  have haccepted : sampleBlank.validateFor .plain "ada@example.org" =
      .ok ⟨"Acme Works", none, "ada@example.org"⟩ := by decide +kernel
  obtain ⟨-, -, -, -, hagain⟩ := judged_in_order sampleBlank .plain "ada@example.org"
  exact ⟨haccepted, hagain _ haccepted⟩

end TenantOnboarding.Provisioning
