import Mathlib.Data.List.DropRight
import TenantOnboarding.Proofs.Json.Scalars

/-!
# What can be read can be passed over

A member that nobody asked for is passed over by a walk with a stack of open containers, not by the reader
of values. The two stop at the same place wherever the reader reads anything.

* `skipQuoted_of_readQuoted` and `skipNumber_of_readNumber` say so of texts and of numbers.
* `Passes` says that the walk gets behind a value whatever containers are open; `passes_of_list` and
  `passes_of_object` take it from the elements of a container to the container.
* **`skipValue_of_readAny`**: a value that can be read is passed over to where its reading ends.
-/

namespace TenantOnboarding.Json

/-! ## Texts -/

section texts

variable {source rest : Source}

/-- An escape that can be read can be passed over. The second half of a surrogate pair is passed over as
an escape of its own. -/
theorem skipQuoted_of_readEscape {c : Char} (h : readEscape source = .ok (c, rest)) :
    skipQuoted (some '\\' :: source) = skipQuoted rest := by
  unfold readEscape at h
  split at h
  · cases h
  · rename_i digits
    rcases hhex : readHex digits with stop | ⟨n, behind⟩
    · rw [hhex] at h
      cases h
    · have hfirst : skipEscape (some 'u' :: digits) = .ok behind := by
        simp only [skipEscape, hhex]
      rw [skipQuoted_escape _ hfirst]
      simp only [hhex] at h
      split at h
      · cases h
      split at h
      · rcases hlow : readLowSurrogate behind with stop | ⟨low, behind'⟩
        · simp only [hlow] at h
          cases h
        · simp only [hlow, Except.ok.injEq, Prod.mk.injEq] at h
          obtain ⟨-, rfl⟩ := h
          unfold readLowSurrogate at hlow
          split at hlow
          · cases hlow
          · cases hlow
          · rename_i digits'
            rcases hhex' : readHex digits' with stop | ⟨n', behind''⟩
            · simp only [hhex'] at hlow
              cases hlow
            · simp only [hhex'] at hlow
              split at hlow
              · cases hlow
                apply skipQuoted_escape
                simp only [skipEscape, hhex']
              · cases hlow
          · cases hlow
          · cases hlow
      · cases h
        rfl
  · rename_i e behind hu
    split at h
    · rename_i e' he
      cases h
      exact skipQuoted_escape _ (skipEscape_short _ hu he)
    · cases h
  · cases h

/-- A text that can be read can be passed over. -/
theorem skipQuoted_of_readQuotedOnto {done cs : List Char} {whole : Bool}
    (h : readQuotedOnto done whole source = .ok (cs, rest)) : skipQuoted source = .ok rest := by
  fun_induction readQuotedOnto done whole source with
  | case1 => cases h
  | case2 done whole source ih =>
    rw [skipQuoted]
    exact ih h
  | case3 done source =>
    cases h
    rw [skipQuoted, if_pos rfl]
  | case4 => cases h
  | case5 => cases h
  | case6 done whole source e rest' hescape _ ih =>
    rw [skipQuoted_of_readEscape hescape]
    exact ih h
  | case7 => cases h
  | case8 done whole c source hmark hbackslash hcontrol ih =>
    rw [skipQuoted, if_neg hmark, if_neg hbackslash, if_neg hcontrol]
    exact ih h

/-- A text that can be read can be passed over. -/
theorem skipQuoted_of_readQuoted {s : String} (h : readQuoted source = .ok (s, rest)) :
    skipQuoted source = .ok rest := by
  unfold readQuoted at h
  split at h
  · cases h
  · rename_i cs behind hcs
    cases h
    exact skipQuoted_of_readQuotedOnto hcs

end texts

/-! ## Numbers -/

section numbers

variable {digits dropped : Nat} {exponent : Int} {negative : Bool} {source rest : Source} {n : Number}

/-- A real number that is not too large ends where it was to end. -/
theorem rest_of_finishReal (h : finishReal digits exponent source = .ok (n, rest)) :
    source = rest := by
  unfold finishReal at h
  split at h
  · cases h
  · cases h
    rfl

/-- An exponent that can be read can be passed over. -/
theorem skipExponent_of_readExponent (h : readExponent digits exponent source = .ok (n, rest)) :
    skipExponent source = .ok rest := by
  unfold readExponent at h
  split at h
  rename_i positive source' hsign
  have hbehind : behindSign source = source' := by
    unfold behindSign
    split at hsign
    · cases hsign
      rfl
    · cases hsign
      rfl
    · cases hsign
      rfl
  unfold skipExponent
  rw [hbehind]
  simp only at h ⊢
  split at h
  · split at h <;> cases h
  · rename_i hds
    rw [if_neg hds]
    split at h
    · split at h
      · cases h
      · cases h
        rfl
    · rw [rest_of_finishReal h]

/-- A fraction that can be read can be passed over. -/
theorem skipFraction_of_readFraction (h : readFraction digits exponent source = .ok (n, rest)) :
    skipFraction source = .ok rest := by
  unfold readFraction at h
  unfold skipFraction
  simp only at h ⊢
  split at h
  · split at h <;> cases h
  · rename_i hds
    rw [if_neg hds]
    split at h
    · exact skipExponent_of_readExponent h
    · exact skipExponent_of_readExponent h
    · rw [rest_of_finishReal h]

/-- What follows the integral digits of a number that can be read can be passed over. -/
theorem skipTail_of_readTail (h : readTail negative digits dropped source = .ok (n, rest)) :
    skipTail source = .ok rest := by
  unfold readTail at h
  split at h
  · exact skipFraction_of_readFraction h
  · exact skipExponent_of_readExponent h
  · exact skipExponent_of_readExponent h
  · rename_i hpoint hlower hupper
    have hrest : source = rest := by
      split at h
      · exact rest_of_finishReal h
      split at h
      · split at h <;> cases h <;> rfl
      · cases h
        rfl
    unfold skipTail
    split
    · exact absurd rfl (hpoint _)
    · exact absurd rfl (hlower _)
    · exact absurd rfl (hupper _)
    · rw [hrest]

/-- A number without a sign that can be read can be passed over. -/
theorem skipUnsigned_of_readUnsigned (h : readUnsigned negative source = .ok (n, rest)) :
    skipUnsigned source = .ok rest := by
  unfold readUnsigned at h
  split at h
  · cases h
  · unfold skipUnsigned
    split at h
    · rename_i c behind
      split at h
      · cases h
      · rename_i hc
        simp only [hc]
        exact skipTail_of_readTail h
    · exact skipTail_of_readTail h
  · rename_i c behind hzero
    unfold skipUnsigned
    split
    · rename_i heq
      cases heq
      exact absurd rfl hzero
    · simp only at h ⊢
      split at h
      · cases h
      · rename_i hds
        rw [if_neg hds]
        exact skipTail_of_readTail h

/-- **A number that can be read can be passed over.** -/
theorem skipNumber_of_readNumber (h : readNumber source = .ok (n, rest)) :
    skipNumber source = .ok rest := by
  unfold readNumber at h
  split at h
  · exact skipUnsigned_of_readUnsigned h
  · rename_i hsign
    unfold skipNumber
    split
    · exact absurd rfl (hsign _)
    · exact skipUnsigned_of_readUnsigned h

end numbers

/-! ## Punctuation -/

section punctuation

variable {source behind rest : Source} {first : Bool}

/-- Blanks are passed over once. -/
theorem skipSpace_skipSpace (source : Source) : skipSpace (skipSpace source) = skipSpace source :=
  List.dropWhile_idempotent isSpace source

/-- A list ends with its bracket. -/
theorem skipSpace_of_closeList (h : closeList source = .ok rest) :
    skipSpace source = some ']' :: rest := by
  unfold closeList at h
  split at h
  · cases h
  · rename_i heq
    cases h
    exact heq
  · cases h
  · cases h

/-- An object ends with its bracket. -/
theorem skipSpace_of_closeObject (h : closeObject source = .ok rest) :
    skipSpace source = some '\x7d' :: rest := by
  unfold closeObject at h
  split at h
  · cases h
  · rename_i heq
    cases h
    exact heq
  · cases h

/-- A colon stands behind the name of a member. -/
theorem skipSpace_of_readColon (h : readColon source = .ok rest) :
    skipSpace source = some ':' :: rest := by
  unfold readColon at h
  split at h
  · cases h
  · rename_i heq
    cases h
    exact heq
  · cases h

/-- Where no element comes next, the list ends. -/
theorem skipSpace_of_nextElement_none (h : nextElement first source = .ok none) :
    ∃ rest, skipSpace source = some ']' :: rest := by
  unfold nextElement at h
  split at h
  · cases h
  · rename_i heq
    exact ⟨_, heq⟩
  · split at h
    · cases h
    · split at h <;> cases h
  · split at h <;> cases h

/-- Where an element comes next, it comes at once or, behind another one, behind a comma. -/
theorem skipSpace_of_nextElement_some (h : nextElement first source = .ok (some behind)) :
    (first = true ∧ skipSpace source = behind ∧ ∀ rest, behind ≠ some ']' :: rest) ∨
      (first = false ∧ ∃ rest, skipSpace source = some ',' :: rest ∧ skipSpace rest = behind) := by
  unfold nextElement at h
  split at h
  · cases h
  · cases h
  · rename_i rest heq
    split at h
    · rename_i hfirst
      cases h
      exact .inl ⟨hfirst, heq, by rintro rest ⟨⟩⟩
    · rename_i hfirst
      split at h
      · cases h
      · cases h
      · cases h
        exact .inr ⟨by simpa using hfirst, rest, heq, rfl⟩
  · rename_i hbracket _
    split at h
    · rename_i hfirst
      cases h
      exact .inl ⟨hfirst, rfl, hbracket⟩
    · cases h

/-- Where no member comes next, the object ends. -/
theorem skipSpace_of_nextMember_none (h : nextMember first source = .ok none) :
    ∃ rest, skipSpace source = some '\x7d' :: rest := by
  unfold nextMember at h
  simp only at h
  split at h
  · cases h
  · rename_i heq
    exact ⟨_, heq⟩
  · split at h
    · cases h
    · split at h
      · cases h
      · split at h <;> cases h
      · cases h
  · split at h
    · split at h <;> cases h
    · cases h
  · cases h

/-- Where a member comes next, its name comes at once or, behind another one, behind a comma. -/
theorem skipSpace_of_nextMember_some {name : String}
    (h : nextMember first source = .ok (some (name, behind))) :
    ∃ quoted, readQuoted quoted = .ok (name, behind) ∧
      ((first = true ∧ skipSpace source = some '\x22' :: quoted) ∨
        (first = false ∧ ∃ rest, skipSpace source = some ',' :: rest ∧
          skipSpace rest = some '\x22' :: quoted)) := by
  unfold nextMember at h
  simp only at h
  split at h
  · cases h
  · cases h
  · rename_i rest heq
    split at h
    · cases h
    · rename_i hfirst
      split at h
      · cases h
      · rename_i quoted hquoted
        split at h
        · cases h
        · rename_i hread
          cases h
          exact ⟨quoted, hread, .inr ⟨by simpa using hfirst, rest, heq, hquoted⟩⟩
      · cases h
  · rename_i quoted heq
    split at h
    · rename_i hfirst
      split at h
      · cases h
      · rename_i hread
        cases h
        exact ⟨quoted, hread, .inl ⟨hfirst, heq⟩⟩
    · cases h
  · cases h

/-- A container that can be read is closed behind its contents. -/
theorem exists_of_closing {α : Type} {close : Source → Except Stop Source} {contents : Outcome α} {a : α}
    (h : closing close contents = .ok (a, rest)) :
    ∃ behind, contents = .ok (a, behind) ∧ close behind = .ok rest := by
  unfold closing at h
  split at h
  · rename_i a' behind
    split at h
    · cases h
    · rename_i hclose
      cases h
      exact ⟨behind, rfl, hclose⟩
  · split at h <;> cases h

end punctuation

/-! ## Passing over values -/

/-- One step of the walk. -/
theorem skipWalk_eq (stack : List Container) (place : SkipPlace) (source : Source) :
    skipWalk stack place source =
      match skipStep stack place source with
      | .error stop => .error stop
      | .ok (.inl rest) => .ok rest
      | .ok (.inr (stack', place', rest)) => skipWalk stack' place' rest := by
  rw [skipWalk]
  split <;> rename_i heq <;> simp only [heq]

/-- The walk passes over a value in front of `rest`, whatever lists and objects are open. -/
def Passes (source rest : Source) : Prop :=
  ∀ stack, skipWalk stack .value source = skipWalk stack .afterValue rest

section walk

variable {source behind behind' rest : Source}

/-- The walk passes over scalars. -/
theorem passes_of_scalar {c : Option Char} (hspace : skipSpace source = c :: behind)
    (hlist : c ≠ some '[') (hobject : c ≠ some '\x7b')
    (h : skipScalar (c :: behind) = .ok rest) : Passes source rest := by
  intro stack
  have hstep : skipStep stack .value source = .ok (.inr (stack, .afterValue, rest)) := by
    unfold skipStep
    rw [hspace]
    split <;> simp_all
  rw [skipWalk_eq, hstep]

section containers

variable {α : Type} {reader : Source → Outcome α}
  (hreader : ∀ {source a rest}, reader source = .ok (a, rest) → Passes source rest)
  (hblank : ∀ source, reader (skipSpace source) = reader source)
include hreader hblank

/-- The walk passes over the elements of a list behind one of them. -/
theorem walk_elements {fuel : Nat} {done as : List α} (hdone : done.isEmpty = false)
    (h : readElements reader fuel done source = .ok (as, behind))
    (hclose : closeList behind = .ok rest) (stack : List Container) :
    skipWalk (.list :: stack) .afterValue source = skipWalk stack .afterValue rest := by
  induction fuel generalizing done source with
  | zero => cases h
  | succ fuel ih =>
    rw [readElements, hdone] at h
    split at h
    · cases h
    · rename_i hnext
      obtain ⟨rest', hspace⟩ := skipSpace_of_nextElement_none hnext
      cases h
      have hbracket := skipSpace_of_closeList hclose
      rw [skipSpace_skipSpace, hspace] at hbracket
      cases hbracket
      rw [skipWalk_eq]
      simp only [skipStep, hspace]
    · rename_i behind' hnext
      obtain ⟨hfirst, -⟩ | ⟨-, rest', hspace, rfl⟩ := skipSpace_of_nextElement_some hnext
      · cases hfirst
      · split at h
        · cases h
        · rename_i a source' hread
          rw [hblank] at hread
          rw [← ih rfl h, ← hreader hread, skipWalk_eq]
          simp only [skipStep, hspace]

/-- The walk passes over lists. -/
theorem passes_of_list {fuel : Nat} {as : List α} (hspace : skipSpace source = some '[' :: behind')
    (h : readElements reader fuel [] behind' = .ok (as, behind))
    (hclose : closeList behind = .ok rest) : Passes source rest := by
  intro stack
  cases fuel with
  | zero => cases h
  | succ fuel =>
    rw [readElements] at h
    split at h
    · cases h
    · rename_i hnext
      obtain ⟨rest', hspace'⟩ := skipSpace_of_nextElement_none hnext
      cases h
      have hbracket := skipSpace_of_closeList hclose
      rw [skipSpace_skipSpace, hspace'] at hbracket
      cases hbracket
      rw [skipWalk_eq]
      simp only [skipStep, hspace, hspace']
    · rename_i source' hnext
      obtain ⟨-, rfl, hbracket⟩ | ⟨hfirst, -⟩ := skipSpace_of_nextElement_some hnext
      · split at h
        · cases h
        · rename_i a source'' hread
          rw [← walk_elements hreader hblank rfl h hclose, ← hreader hread, skipWalk_eq]
          simp only [skipStep, hspace]
      · cases hfirst

omit hblank in
/-- The walk passes over a member of an object. -/
theorem walk_member {name : String} {quoted named value : Source} {a : α}
    (hspace : skipSpace source = some '\x22' :: quoted) (hname : readQuoted quoted = .ok (name, named))
    (hcolon : readColon named = .ok value) (hvalue : reader value = .ok (a, rest))
    (stack : List Container) :
    skipWalk (.object :: stack) .member source = skipWalk (.object :: stack) .afterValue rest := by
  rw [← hreader hvalue, skipWalk_eq]
  simp only [skipStep, hspace, skipQuoted_of_readQuoted hname, skipSpace_of_readColon hcolon]

omit hblank in
/-- The walk passes over the members of an object behind one of them. -/
theorem walk_members {fuel : Nat} {done ms : List (String × α)} (hdone : done.isEmpty = false)
    (h : readMembers reader fuel done source = .ok (ms, behind))
    (hclose : closeObject behind = .ok rest) (stack : List Container) :
    skipWalk (.object :: stack) .afterValue source = skipWalk stack .afterValue rest := by
  induction fuel generalizing done source with
  | zero => cases h
  | succ fuel ih =>
    rw [readMembers, hdone] at h
    split at h
    · cases h
    · rename_i hnext
      obtain ⟨rest', hspace⟩ := skipSpace_of_nextMember_none hnext
      cases h
      have hbracket := skipSpace_of_closeObject hclose
      rw [skipSpace_skipSpace, hspace] at hbracket
      cases hbracket
      rw [skipWalk_eq]
      simp only [skipStep, hspace]
    · rename_i name behind' hnext
      obtain ⟨quoted, hname, ⟨hfirst, -⟩ | ⟨-, rest', hspace, hquoted⟩⟩ :=
        skipSpace_of_nextMember_some hnext
      · cases hfirst
      · split at h
        · cases h
        · rename_i value hcolon
          split at h
          · cases h
          · rename_i a source' hvalue
            rw [← ih rfl h, ← walk_member hreader hquoted hname hcolon hvalue, skipWalk_eq]
            simp only [skipStep, hspace]

omit hblank in
/-- The walk passes over objects. -/
theorem passes_of_object {fuel : Nat} {ms : List (String × α)}
    (hspace : skipSpace source = some '\x7b' :: behind')
    (h : readMembers reader fuel [] behind' = .ok (ms, behind))
    (hclose : closeObject behind = .ok rest) : Passes source rest := by
  intro stack
  cases fuel with
  | zero => cases h
  | succ fuel =>
    rw [readMembers] at h
    split at h
    · cases h
    · rename_i hnext
      obtain ⟨rest', hspace'⟩ := skipSpace_of_nextMember_none hnext
      cases h
      have hbracket := skipSpace_of_closeObject hclose
      rw [skipSpace_skipSpace, hspace'] at hbracket
      cases hbracket
      rw [skipWalk_eq]
      simp only [skipStep, hspace, hspace']
    · rename_i name named hnext
      obtain ⟨quoted, hname, ⟨-, hquoted⟩ | ⟨hfirst, -⟩⟩ := skipSpace_of_nextMember_some hnext
      · split at h
        · cases h
        · rename_i value hcolon
          split at h
          · cases h
          · rename_i a source' hvalue
            have hquoted' : skipSpace (some '\x22' :: quoted) = some '\x22' :: quoted :=
              skipSpace_mark quoted
            rw [← walk_members hreader rfl h hclose,
              ← walk_member hreader hquoted' hname hcolon hvalue, skipWalk_eq]
            simp only [skipStep, hspace, hquoted]
            rfl
      · cases hfirst

end containers

/-- The reader of any value passes over blanks itself. -/
theorem readAny_skipSpace (depth : Nat) (source : Source) :
    readAny depth (skipSpace source) = readAny depth source := by
  rw [readAny, readAny, skipSpace_skipSpace]

/-- A word that can be read is a scalar. -/
theorem literal_of_readWord {word : List Char} {v w : Value}
    (h : readWord word v source = .ok (w, rest)) : literal word source = .ok rest := by
  unfold readWord at h
  split at h
  · cases h
  · rename_i hliteral
    cases h
    exact hliteral

/-- A number that can be read can be passed over. -/
theorem skipNumber_of_readNumberValue {v : Value} (h : readNumberValue source = .ok (v, rest)) :
    skipNumber source = .ok rest := by
  unfold readNumberValue at h
  split at h
  · cases h
  · rename_i hnumber
    cases h
    exact skipNumber_of_readNumber hnumber
  · rename_i hnumber
    cases h
    exact skipNumber_of_readNumber hnumber

/-- **A value that can be read can be passed over.** -/
theorem passes_of_readAny {depth : Nat} {v : Value} (h : readAny depth source = .ok (v, rest)) :
    Passes source rest := by
  induction depth using Nat.strongRecOn generalizing source v rest with
  | _ depth ih =>
    unfold readAny at h
    split at h
    · cases h
    · rename_i hspace
      exact passes_of_scalar hspace (by decide) (by decide) (literal_of_readWord h)
    · rename_i hspace
      exact passes_of_scalar hspace (by decide) (by decide) (literal_of_readWord h)
    · rename_i hspace
      exact passes_of_scalar hspace (by decide) (by decide) (literal_of_readWord h)
    · rename_i hspace
      split at h
      · cases h
      · rename_i hquoted
        cases h
        exact passes_of_scalar hspace (by decide) (by decide) (skipQuoted_of_readQuoted hquoted)
    · rename_i hspace
      exact passes_of_scalar hspace (by decide) (by decide) (skipNumber_of_readNumberValue h)
    · rename_i hspace
      split at h
      · rename_i depth
        split at h
        · cases h
        · rename_i hclosing
          cases h
          obtain ⟨behind, helements, hclose⟩ := exists_of_closing hclosing
          exact passes_of_list (ih (depth + 1) (by omega)) (readAny_skipSpace _) hspace helements hclose
      · cases h
    · rename_i hspace
      split at h
      · rename_i depth
        split at h
        · cases h
        · rename_i hclosing
          cases h
          obtain ⟨behind, hmembers, hclose⟩ := exists_of_closing hclosing
          exact passes_of_object (ih (depth + 1) (by omega)) hspace hmembers hclose
      · cases h
    · rename_i c behind hn ht hf hquote hminus hlist hobject hspace
      split at h
      · rename_i hdigit
        have hscalar : skipScalar (c :: behind) = .ok rest := by
          unfold skipScalar
          split
          case h_6 heq =>
            cases heq
            rw [if_pos (.inr hdigit)]
            exact skipNumber_of_readNumberValue h
          all_goals simp_all
        exact passes_of_scalar hspace hlist hobject hscalar
      · cases h

/-- A value that can be read is passed over to where its reading ends. -/
theorem skipValue_of_readAny {depth : Nat} {v : Value} (h : readAny depth source = .ok (v, rest)) :
    skipValue source = .ok rest := by
  rw [skipValue, passes_of_readAny h, skipWalk_eq]
  rfl

end walk

end TenantOnboarding.Json
