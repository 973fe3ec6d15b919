import TenantOnboarding.Text.Numeral
import TenantOnboarding.Json.Basic

/-!
# Numbers

A number that is kept is an integer of at most 64 bits or else a real number. Of a real number only its
size matters: one beyond the largest double is a fault. A number that is passed over is only checked
for its form.
-/

namespace TenantOnboarding.Json

/-- A number that was read. -/
inductive Number where
  /-- An integer from -2⁶³ to 2⁶⁴ - 1, written without fraction and exponent, and not as `-0`. -/
  | int (i : Int)
  /-- Any other number. -/
  | real
  deriving Repr, DecidableEq

/-! ## Size of a double -/

/-- A natural number rounded to 53 binary digits, to the even neighbour when both are equally near. -/
def roundTo53 (n : Nat) : Nat :=
  let excess := n.log2 + 1 - 53
  let unit := Nat.pow 2 excess
  let low := n % unit
  let kept := n / unit
  let up := decide (unit < 2 * low) || (decide (unit = 2 * low) && decide (kept % 2 = 1))
  (if up then kept + 1 else kept) * unit

/-- Whether the double of `digits`, times the double of `10 ^ exponent`, is beyond the largest double. -/
def exceedsDouble (digits : Nat) (exponent : Int) : Bool :=
  if digits = 0 ∨ exponent < 0 then false
  else if exponent > 308 then true
  else decide (Nat.pow 2 1024 ≤ roundTo53 (roundTo53 digits * roundTo53 (Nat.pow 10 exponent.toNat)))

/-! ## Reading -/

/-- Whether an element of a source is a digit. -/
def isDigit (c : Option Char) : Bool :=
  (c.bind Text.digit?).isSome

/-- The digits that a source starts with, and the rest. -/
def spanDigits (source : Source) : List Nat × Source :=
  ((source.takeWhile isDigit).filterMap (·.bind Text.digit?), source.dropWhile isDigit)

/-- The rest behind the digits is no longer than the source. -/
theorem spanDigits_length_le (source : Source) : (spanDigits source).2.length ≤ source.length :=
  (List.dropWhile_sublist _).length_le

/-- The rest behind at least one digit is shorter than the source. -/
theorem spanDigits_length_lt {source : Source} (h : ¬(spanDigits source).1.isEmpty) :
    (spanDigits source).2.length < source.length := by
  cases source with
  | nil => simp [spanDigits] at h
  | cons c source =>
    by_cases hc : isDigit c = true
    · have := (List.dropWhile_sublist isDigit (l := source)).length_le
      simp only [spanDigits, List.dropWhile_cons, hc, if_true, List.length_cons]
      omega
    · simp [spanDigits, hc] at h

/-- `digits` continued by `ds` as far as the value stays below `bound`, and how many of `ds` were
used. -/
def absorb (bound digits : Nat) : List Nat → Nat × Nat
  | [] => (digits, 0)
  | d :: ds =>
    if digits * 10 + d < bound then
      let (n, used) := absorb bound (digits * 10 + d) ds
      (n, used + 1)
    else (digits, 0)

/-- A real number, unless it is too large. -/
def finishReal (digits : Nat) (exponent : Int) (rest : Source) : Outcome Number :=
  if exceedsDouble digits exponent then .error ⟨.malformed, rest⟩ else .ok (.real, rest)

/-- `digits` times a power of ten, read from behind the `e`. An exponent of 2³¹ or more is too large for
any digits but zero. -/
def readExponent (digits : Nat) (exponent : Int) (source : Source) : Outcome Number :=
  let (positive, source) := match source with
    | some '+' :: rest => (true, rest)
    | some '-' :: rest => (false, rest)
    | _ => (true, source)
  let (ds, rest) := spanDigits source
  if ds.isEmpty then
    if source.isEmpty then .error ⟨.early, []⟩ else .error ⟨.malformed, source.drop 1⟩
  else
    let (e, used) := absorb 2147483648 0 ds
    if used < ds.length then
      if digits ≠ 0 ∧ positive then .error ⟨.malformed, source.drop (used + 1)⟩
      else .ok (.real, rest)
    else finishReal digits (if positive then exponent + e else exponent - e) rest

/-- `digits` with a fraction, read from behind the point. -/
def readFraction (digits : Nat) (exponent : Int) (source : Source) : Outcome Number :=
  let (ds, rest) := spanDigits source
  if ds.isEmpty then
    if source.isEmpty then .error ⟨.early, []⟩ else .error ⟨.malformed, source⟩
  else
    let (digits, used) := absorb UInt64.size digits ds
    match rest with
    | some 'e' :: rest => readExponent digits (exponent - used) rest
    | some 'E' :: rest => readExponent digits (exponent - used) rest
    | _ => finishReal digits (exponent - used) rest

/-- The number after its integral digits: `digits` is the value of those that fit 64 bits and `dropped`
counts the others. -/
def readTail (negative : Bool) (digits dropped : Nat) (source : Source) : Outcome Number :=
  match source with
  | some '.' :: rest => readFraction digits dropped rest
  | some 'e' :: rest => readExponent digits dropped rest
  | some 'E' :: rest => readExponent digits dropped rest
  | _ =>
    if dropped ≠ 0 then finishReal digits dropped source
    else if negative then
      if 1 ≤ digits ∧ digits ≤ 9223372036854775808 then .ok (.int (-(digits : Int)), source)
      else .ok (.real, source)
    else .ok (.int digits, source)

/-- A number without its sign. -/
def readUnsigned (negative : Bool) (source : Source) : Outcome Number :=
  match source with
  | [] => .error ⟨.early, []⟩
  | some '0' :: rest =>
    match rest with
    | c :: _ => if isDigit c then .error ⟨.malformed, rest⟩ else readTail negative 0 0 rest
    | [] => readTail negative 0 0 rest
  | _ :: behind =>
    let (ds, rest) := spanDigits source
    if ds.isEmpty then .error ⟨.malformed, behind⟩
    else
      let (digits, used) := absorb UInt64.size 0 ds
      readTail negative digits (ds.length - used) rest

/-- A number, which starts with a minus sign or a digit. -/
def readNumber (source : Source) : Outcome Number :=
  match source with
  | some '-' :: rest => readUnsigned true rest
  | _ => readUnsigned false source

/-! ## Passing over -/

/-- The source behind the sign of an exponent, if it has one. -/
def behindSign : Source → Source
  | some '+' :: rest => rest
  | some '-' :: rest => rest
  | source => source

/-- The source behind an exponent, from behind the `e`. -/
def skipExponent (source : Source) : Except Stop Source :=
  let (ds, rest) := spanDigits (behindSign source)
  if ds.isEmpty then .error ⟨.malformed, (behindSign source).drop 1⟩ else .ok rest

/-- The source behind a fraction, from behind the point. -/
def skipFraction (source : Source) : Except Stop Source :=
  let (ds, rest) := spanDigits source
  if ds.isEmpty then .error ⟨.malformed, source⟩
  else match rest with
    | some 'e' :: rest => skipExponent rest
    | some 'E' :: rest => skipExponent rest
    | _ => .ok rest

/-- The source behind what may follow the integral digits. -/
def skipTail (source : Source) : Except Stop Source :=
  match source with
  | some '.' :: rest => skipFraction rest
  | some 'e' :: rest => skipExponent rest
  | some 'E' :: rest => skipExponent rest
  | _ => .ok source

/-- The source behind a number without its sign. -/
def skipUnsigned (source : Source) : Except Stop Source :=
  match source with
  | some '0' :: rest =>
    match rest with
    | c :: _ => if isDigit c then .error ⟨.malformed, rest⟩ else skipTail rest
    | [] => skipTail rest
  | _ =>
    let (ds, rest) := spanDigits source
    if ds.isEmpty then .error ⟨.malformed, source.drop 1⟩ else skipTail rest

/-- The source behind a number, of which only the form is checked. A number that is cut off is
malformed here. -/
def skipNumber (source : Source) : Except Stop Source :=
  match source with
  | some '-' :: rest => skipUnsigned rest
  | _ => skipUnsigned source

/-! ### Passing over a number makes the source shorter -/

/-- The rest behind an exponent is no longer. -/
theorem skipExponent_length_le {source rest : Source} (h : skipExponent source = .ok rest) :
    rest.length ≤ source.length := by
  have sign : (behindSign source).length ≤ source.length := by
    unfold behindSign
    split <;> simp
  have digits := spanDigits_length_le (behindSign source)
  simp only [skipExponent] at h
  split at h
  · simp at h
  · simp only [Except.ok.injEq] at h
    simp only [h] at digits
    omega

/-- The rest behind a fraction is no longer. -/
theorem skipFraction_length_le {source rest : Source} (h : skipFraction source = .ok rest) :
    rest.length ≤ source.length := by
  have digits := spanDigits_length_le source
  simp only [skipFraction] at h
  split at h
  · simp at h
  · split at h
    · rename_i heq
      have := skipExponent_length_le h
      simp only [heq, List.length_cons] at digits
      omega
    · rename_i heq
      have := skipExponent_length_le h
      simp only [heq, List.length_cons] at digits
      omega
    · simp only [Except.ok.injEq] at h
      simp only [h] at digits
      omega

/-- The rest behind what follows the integral digits is no longer. -/
theorem skipTail_length_le {source rest : Source} (h : skipTail source = .ok rest) :
    rest.length ≤ source.length := by
  unfold skipTail at h
  split at h
  · exact Nat.le_succ_of_le (skipFraction_length_le h)
  · exact Nat.le_succ_of_le (skipExponent_length_le h)
  · exact Nat.le_succ_of_le (skipExponent_length_le h)
  · simp only [Except.ok.injEq] at h
    simp [h]

/-- The rest behind a number without its sign is shorter. -/
theorem skipUnsigned_length_lt {source rest : Source} (h : skipUnsigned source = .ok rest) :
    rest.length < source.length := by
  unfold skipUnsigned at h
  split at h
  · split at h
    · split at h
      · simp at h
      · exact Nat.lt_succ_of_le (skipTail_length_le h)
    · exact Nat.lt_succ_of_le (skipTail_length_le h)
  · simp only at h
    split at h
    · simp at h
    · rename_i hds
      exact Nat.lt_of_le_of_lt (skipTail_length_le h) (spanDigits_length_lt hds)

/-- The rest behind a number is shorter. -/
theorem skipNumber_length_lt {source rest : Source} (h : skipNumber source = .ok rest) :
    rest.length < source.length := by
  unfold skipNumber at h
  split at h
  · exact Nat.lt_succ_of_lt (skipUnsigned_length_lt h)
  · exact skipUnsigned_length_lt h

end TenantOnboarding.Json
