import TenantOnboarding.Json.Quoted
import TenantOnboarding.Json.Number

/-!
# Passing over a value

A member that nobody asked for is passed over: its form is checked, but neither its depth nor the
characters of its texts. The lists and objects that are open are kept on a stack, so a value may be
nested as deeply as it likes.
-/

namespace TenantOnboarding.Json

/-- A list or an object that has been opened. -/
inductive Container where
  | list
  | object
  deriving Repr, DecidableEq

/-- Where the walk over a value stands. -/
inductive SkipPlace where
  /-- A value has to come. -/
  | value
  /-- A value has ended. -/
  | afterValue
  /-- A member of an object has to come. -/
  | member
  deriving Repr, DecidableEq

/-- The source behind a word, a text or a number. -/
def skipScalar : Source → Except Stop Source
  | [] => .error ⟨.early, []⟩
  | some 'n' :: rest => literal ['u', 'l', 'l'] rest
  | some 't' :: rest => literal ['r', 'u', 'e'] rest
  | some 'f' :: rest => literal ['a', 'l', 's', 'e'] rest
  | some '\x22' :: rest => skipQuoted rest
  | c :: rest =>
    if c = some '-' ∨ isDigit c then skipNumber (c :: rest) else .error ⟨.malformed, c :: rest⟩

/-- The source behind a word, a text or a number is shorter. -/
theorem skipScalar_length_lt {source rest : Source} (h : skipScalar source = .ok rest) :
    rest.length < source.length := by
  unfold skipScalar at h
  split at h
  · simp at h
  · exact Nat.lt_succ_of_le (literal_length_le h)
  · exact Nat.lt_succ_of_le (literal_length_le h)
  · exact Nat.lt_succ_of_le (literal_length_le h)
  · exact Nat.lt_succ_of_lt (skipQuoted_length_lt h)
  · split at h
    · exact skipNumber_length_lt h
    · simp at h

/-- One step of the walk: the open containers, the place and the source after it; or the source behind
the value once no container is open. -/
def skipStep (stack : List Container) (place : SkipPlace) (source : Source) :
    Except Stop (Source ⊕ (List Container × SkipPlace × Source)) :=
  match place, stack, skipSpace source with
  | .afterValue, [], _ => .ok (.inl source)
  | _, _, [] => .error ⟨.early, []⟩
  | .value, _, some '[' :: rest =>
    match skipSpace rest with
    | some ']' :: rest => .ok (.inr (stack, .afterValue, rest))
    | rest => .ok (.inr (.list :: stack, .value, rest))
  | .value, _, some '\x7b' :: rest =>
    match skipSpace rest with
    | some '\x7d' :: rest => .ok (.inr (stack, .afterValue, rest))
    | rest => .ok (.inr (.object :: stack, .member, rest))
  | .value, _, rest =>
    match skipScalar rest with
    | .error stop => .error stop
    | .ok rest => .ok (.inr (stack, .afterValue, rest))
  | .afterValue, .list :: _, some ',' :: rest => .ok (.inr (stack, .value, rest))
  | .afterValue, .list :: outer, some ']' :: rest => .ok (.inr (outer, .afterValue, rest))
  | .afterValue, .object :: _, some ',' :: rest => .ok (.inr (stack, .member, rest))
  | .afterValue, .object :: outer, some '\x7d' :: rest => .ok (.inr (outer, .afterValue, rest))
  | .afterValue, _, rest => .error ⟨.malformed, rest⟩
  | .member, _, some '\x22' :: rest =>
    match skipQuoted rest with
    | .error stop => .error stop
    | .ok rest =>
      match skipSpace rest with
      | [] => .error ⟨.early, []⟩
      | some ':' :: rest => .ok (.inr (stack, .value, rest))
      | rest => .error ⟨.malformed, rest⟩
  | .member, _, rest => .error ⟨.malformed, rest⟩

/-- A step that does not end the walk makes the source shorter. -/
theorem skipStep_length_lt {stack stack' : List Container} {place place' : SkipPlace}
    {source rest : Source} (h : skipStep stack place source = .ok (.inr (stack', place', rest))) :
    rest.length < source.length := by
  unfold skipStep at h
  split at h
  · simp at h
  · simp at h
  · rename_i behind heq
    have := length_lt_of_skipSpace heq
    have inner := skipSpace_length_le behind
    split at h
    · rename_i heq'
      simp only [Except.ok.injEq, Sum.inr.injEq, Prod.mk.injEq] at h
      simp only [heq', h.2.2, List.length_cons] at inner
      omega
    · simp only [Except.ok.injEq, Sum.inr.injEq, Prod.mk.injEq] at h
      simp only [h.2.2] at inner
      omega
  · rename_i behind heq
    have := length_lt_of_skipSpace heq
    have inner := skipSpace_length_le behind
    split at h
    · rename_i heq'
      simp only [Except.ok.injEq, Sum.inr.injEq, Prod.mk.injEq] at h
      simp only [heq', h.2.2, List.length_cons] at inner
      omega
    · simp only [Except.ok.injEq, Sum.inr.injEq, Prod.mk.injEq] at h
      simp only [h.2.2] at inner
      omega
  · split at h
    · simp at h
    · rename_i heq
      simp only [Except.ok.injEq, Sum.inr.injEq, Prod.mk.injEq] at h
      have := skipScalar_length_lt heq
      have := skipSpace_length_le source
      simp only [h.2.2] at *
      omega
  · rename_i heq
    simp only [Except.ok.injEq, Sum.inr.injEq, Prod.mk.injEq] at h
    exact h.2.2 ▸ length_lt_of_skipSpace heq
  · rename_i heq
    simp only [Except.ok.injEq, Sum.inr.injEq, Prod.mk.injEq] at h
    exact h.2.2 ▸ length_lt_of_skipSpace heq
  · rename_i heq
    simp only [Except.ok.injEq, Sum.inr.injEq, Prod.mk.injEq] at h
    exact h.2.2 ▸ length_lt_of_skipSpace heq
  · rename_i heq
    simp only [Except.ok.injEq, Sum.inr.injEq, Prod.mk.injEq] at h
    exact h.2.2 ▸ length_lt_of_skipSpace heq
  · simp at h
  · rename_i heq
    have := length_lt_of_skipSpace heq
    split at h
    · simp at h
    · rename_i heq'
      have := skipQuoted_length_lt heq'
      split at h
      · simp at h
      · rename_i heq''
        have := length_lt_of_skipSpace heq''
        simp only [Except.ok.injEq, Sum.inr.injEq, Prod.mk.injEq] at h
        simp only [h.2.2] at *
        omega
      · simp at h
  · simp at h

/-- The walk over a value. -/
def skipWalk (stack : List Container) (place : SkipPlace) (source : Source) : Except Stop Source :=
  match h : skipStep stack place source with
  | .error stop => .error stop
  | .ok (.inl rest) => .ok rest
  | .ok (.inr (stack', place', rest)) =>
    have := skipStep_length_lt h
    skipWalk stack' place' rest
termination_by source.length

/-- The source behind the value that comes next. -/
def skipValue (source : Source) : Except Stop Source :=
  skipWalk [] .value source

end TenantOnboarding.Json
