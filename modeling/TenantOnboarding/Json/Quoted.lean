import TenantOnboarding.Text.Numeral
import TenantOnboarding.Json.Basic

/-!
# Quoted text

The text between two quotation marks. `readQuoted` keeps it: escapes are resolved, the halves of an
escaped surrogate pair have to come together, and a byte outside every character is a fault, told at
the closing mark. `skipQuoted` only finds the end. `writeQuoted` writes a text so that it reads back.
-/

namespace TenantOnboarding.Json

/-! ## Escapes -/

/-- The character of a one-letter escape. -/
def shortEscape? : Char → Option Char
  | '\x22' => some '\x22'
  | '\\' => some '\\'
  | '/' => some '/'
  | 'b' => some '\x08'
  | 'f' => some '\x0c'
  | 'n' => some '\n'
  | 'r' => some '\r'
  | 't' => some '\t'
  | _ => none

/-- The number of bytes behind an element of a source. -/
def byteCount : Option Char → Nat
  | some c => c.utf8Size
  | none => 1

/-- Whether fewer than four bytes are left, too few for a hexadecimal escape. -/
def endsWithinFour (source : Source) : Bool :=
  (source.take 4).foldl (fun n c => n + byteCount c) 0 < 4

/-- The value of the four hexadecimal digits that the source starts with. -/
def readHex : Source → Outcome Nat
  | some a :: some b :: some c :: some d :: rest =>
    match Text.hexDigit? a, Text.hexDigit? b, Text.hexDigit? c, Text.hexDigit? d with
    | some w, some x, some y, some z => .ok (Text.valueOfDigits 16 0 [w, x, y, z], rest)
    | _, _, _, _ =>
      if endsWithinFour (some a :: some b :: some c :: some d :: rest) then .error ⟨.early, []⟩
      else .error ⟨.malformed, rest⟩
  | source =>
    if endsWithinFour source then .error ⟨.early, []⟩ else .error ⟨.malformed, source.drop 4⟩

/-- Whether a number is the first half of a surrogate pair. -/
def isHighSurrogate (n : Nat) : Bool := 0xD800 ≤ n && n ≤ 0xDBFF

/-- Whether a number is the second half of a surrogate pair. -/
def isLowSurrogate (n : Nat) : Bool := 0xDC00 ≤ n && n ≤ 0xDFFF

/-- The second half of a surrogate pair, which must follow the first half at once as an escape of its
own. -/
def readLowSurrogate : Source → Outcome Nat
  | [] => .error ⟨.early, []⟩
  | some '\\' :: [] => .error ⟨.early, []⟩
  | some '\\' :: some 'u' :: rest =>
    match readHex rest with
    | .error stop => .error stop
    | .ok (low, rest) => if isLowSurrogate low then .ok (low, rest) else .error ⟨.malformed, rest⟩
  | some '\\' :: _ :: rest => .error ⟨.malformed, rest⟩
  | _ :: rest => .error ⟨.malformed, rest⟩

/-- The character of an escape, read from behind its backslash. -/
def readEscape : Source → Outcome Char
  | [] => .error ⟨.early, []⟩
  | some 'u' :: rest =>
    match readHex rest with
    | .error stop => .error stop
    | .ok (n, rest) =>
      if isLowSurrogate n then .error ⟨.malformed, rest⟩
      else if isHighSurrogate n then
        match readLowSurrogate rest with
        | .error stop => .error stop
        | .ok (low, rest) =>
          .ok (Char.ofNat ((n - 0xD800) * 0x400 + (low - 0xDC00) + 0x10000), rest)
      else .ok (Char.ofNat n, rest)
  | some c :: rest =>
    match shortEscape? c with
    | some e => .ok (e, rest)
    | none => .error ⟨.malformed, rest⟩
  | none :: rest => .error ⟨.malformed, rest⟩

/-- The source behind an escape, without a look at what it stands for. -/
def skipEscape : Source → Except Stop Source
  | [] => .error ⟨.early, []⟩
  | some 'u' :: rest =>
    match readHex rest with
    | .error stop => .error stop
    | .ok (_, rest) => .ok rest
  | some c :: rest => if (shortEscape? c).isSome then .ok rest else .error ⟨.malformed, rest⟩
  | none :: rest => .error ⟨.malformed, rest⟩

/-! ### An escape makes the source shorter -/

/-- The rest behind hexadecimal digits is shorter. -/
theorem readHex_length_lt {source rest : Source} {n : Nat} (h : readHex source = .ok (n, rest)) :
    rest.length < source.length := by
  unfold readHex at h
  split at h
  · split at h
    · simp only [Except.ok.injEq, Prod.mk.injEq] at h
      simp only [← h.2, List.length_cons]
      omega
    · split at h <;> simp at h
  · split at h <;> simp at h

/-- The rest behind the second half of a pair is shorter. -/
theorem readLowSurrogate_length_lt {source rest : Source} {n : Nat}
    (h : readLowSurrogate source = .ok (n, rest)) : rest.length < source.length := by
  unfold readLowSurrogate at h
  split at h
  · simp at h
  · simp at h
  · split at h
    · simp at h
    · rename_i heq
      split at h
      · simp only [Except.ok.injEq, Prod.mk.injEq] at h
        have := readHex_length_lt heq
        simp only [← h.2, List.length_cons]
        omega
      · simp at h
  · simp at h
  · simp at h

/-- The rest behind an escape that is kept is shorter. -/
theorem readEscape_length_lt {source rest : Source} {c : Char}
    (h : readEscape source = .ok (c, rest)) : rest.length < source.length := by
  unfold readEscape at h
  split at h
  · simp at h
  · split at h
    · simp at h
    · rename_i heq
      have := readHex_length_lt heq
      split at h
      · simp at h
      · split at h
        · split at h
          · simp at h
          · rename_i heq'
            have := readLowSurrogate_length_lt heq'
            simp only [Except.ok.injEq, Prod.mk.injEq] at h
            simp only [← h.2, List.length_cons]
            omega
        · simp only [Except.ok.injEq, Prod.mk.injEq] at h
          simp only [← h.2, List.length_cons]
          omega
  · split at h
    · simp only [Except.ok.injEq, Prod.mk.injEq] at h
      simp [← h.2]
    · simp at h
  · simp at h

/-- The rest behind an escape that is passed over is shorter. -/
theorem skipEscape_length_lt {source rest : Source} (h : skipEscape source = .ok rest) :
    rest.length < source.length := by
  unfold skipEscape at h
  split at h
  · simp at h
  · split at h
    · simp at h
    · rename_i heq
      have := readHex_length_lt heq
      simp only [Except.ok.injEq] at h
      simp only [← h, List.length_cons]
      omega
  · split at h
    · simp only [Except.ok.injEq] at h
      simp [← h]
    · simp at h
  · simp at h

/-! ## Reading -/

/-- `readQuoted` after the characters of `done`, last first. `whole` says that no byte outside every
character has been met so far. -/
def readQuotedOnto (done : List Char) (whole : Bool) (source : Source) : Outcome (List Char) :=
  match source with
  | [] => .error ⟨.early, []⟩
  | none :: rest => readQuotedOnto done false rest
  | some c :: rest =>
    if c = '\x22' then
      if whole then .ok (done.reverse, rest) else .error ⟨.malformed, rest⟩
    else if c = '\\' then
      match _h : readEscape rest with
      | .error stop => .error stop
      | .ok (e, rest') => readQuotedOnto (e :: done) whole rest'
    else if c.toNat < 0x20 then .error ⟨.malformed, rest⟩
    else readQuotedOnto (c :: done) whole rest
termination_by source.length
decreasing_by
  · simp
  · have := readEscape_length_lt _h
    simp only [List.length_cons]
    omega
  · simp

/-- The text up to the closing mark, read from behind the opening one. -/
def readQuoted (source : Source) : Outcome String :=
  match readQuotedOnto [] true source with
  | .error stop => .error stop
  | .ok (cs, rest) => .ok (String.ofList cs, rest)

/-- The source behind the closing mark, from behind the opening one. -/
def skipQuoted (source : Source) : Except Stop Source :=
  match source with
  | [] => .error ⟨.early, []⟩
  | none :: rest => skipQuoted rest
  | some c :: rest =>
    if c = '\x22' then .ok rest
    else if c = '\\' then
      match _h : skipEscape rest with
      | .error stop => .error stop
      | .ok rest' => skipQuoted rest'
    else if c.toNat < 0x20 then .error ⟨.malformed, rest⟩
    else skipQuoted rest
termination_by source.length
decreasing_by
  · simp
  · have := skipEscape_length_lt _h
    simp only [List.length_cons]
    omega
  · simp

/-- The source behind the closing mark is shorter. -/
theorem skipQuoted_length_lt {source rest : Source} (h : skipQuoted source = .ok rest) :
    rest.length < source.length := by
  fun_induction skipQuoted source with
  | case1 => simp at h
  | case2 source ih => exact Nat.lt_succ_of_lt (ih h)
  | case3 => simp_all
  | case4 => simp at h
  | case5 source _ heq _ ih =>
    have := skipEscape_length_lt heq
    have := ih h
    simp only [List.length_cons]
    omega
  | case6 => simp at h
  | case7 _ _ _ _ _ ih => exact Nat.lt_succ_of_lt (ih h)

/-! ## Writing -/

/-- The hexadecimal digit of a number below sixteen, in lower case. -/
def hexLetter (n : Nat) : Char :=
  if n < 10 then Char.ofNat ('0'.toNat + n) else Char.ofNat ('a'.toNat + (n - 10))

/-- A character as it is written between quotation marks: the mark, the backslash and the characters
below the blank are escaped, all others stand as they are. -/
def writeChar (c : Char) : List Char :=
  if c = '\x22' then ['\\', '\x22']
  else if c = '\\' then ['\\', '\\']
  else if c = '\x08' then ['\\', 'b']
  else if c = '\x0c' then ['\\', 'f']
  else if c = '\n' then ['\\', 'n']
  else if c = '\r' then ['\\', 'r']
  else if c = '\t' then ['\\', 't']
  else if c.toNat < 0x20 then
    ['\\', 'u', '0', '0', hexLetter (c.toNat / 16), hexLetter (c.toNat % 16)]
  else [c]

/-- A text between quotation marks. -/
def writeQuoted (s : String) : List Char :=
  '\x22' :: (s.toList.flatMap writeChar ++ ['\x22'])

end TenantOnboarding.Json
