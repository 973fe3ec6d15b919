import TenantOnboarding.Octets

/-!
# The SHA-2 digests

A message is padded to whole blocks of sixteen words; each block is spread over a schedule with one
word for each round, and each round turns the eight words of a state. The digest is the last state,
most significant byte first. The two digests of the family differ in the size of a word, the number of
rounds, the constants and the turns: these are the fields of a `Variant`.
-/

namespace TenantOnboarding.Digest

/-- The eight words on which the rounds work. -/
structure State (w : Nat) where
  a : BitVec w
  b : BitVec w
  c : BitVec w
  d : BitVec w
  e : BitVec w
  f : BitVec w
  g : BitVec w
  h : BitVec w
  deriving Repr, DecidableEq

/-- Three turns to the right by so many bits, or two turns and a shift. -/
structure Turns where
  first : Nat
  second : Nat
  third : Nat
  deriving Repr, DecidableEq

/-- A member of the family, with words of `w` bits. -/
structure Variant (w : Nat) where
  /-- The state at the start: fractions of the square roots of the first eight primes. -/
  start : State w
  /-- One constant for each round: fractions of the cube roots of the first primes. -/
  constants : List (BitVec w)
  /-- How a round spreads the first word of the state. -/
  spreadA : Turns
  /-- How a round spreads the fifth word of the state. -/
  spreadE : Turns
  /-- How a schedule spreads the word fifteen places back. -/
  spreadFar : Turns
  /-- How a schedule spreads the word two places back. -/
  spreadNear : Turns

/-- A word turned by three amounts, added bit by bit. -/
def Turns.rotate {w : Nat} (t : Turns) (x : BitVec w) : BitVec w :=
  x.rotateRight t.first ^^^ x.rotateRight t.second ^^^ x.rotateRight t.third

/-- A word turned by two amounts and shifted by the third, added bit by bit. -/
def Turns.shift {w : Nat} (t : Turns) (x : BitVec w) : BitVec w :=
  x.rotateRight t.first ^^^ x.rotateRight t.second ^^^ x >>> t.third

/-! ## Padding -/

/-- How many bytes a block has whose words have `w` bits. -/
def blockSize (w : Nat) : Nat := 2 * w

/-- The message, a one bit, as few zero bits as fill the last block, and the length of the message in
bits, for which two words are kept. -/
def pad (w : Nat) (message : List UInt8) : List UInt8 :=
  let kept := w / 4
  let size := blockSize w
  let zeros := (size - (message.length + 1 + kept) % size) % size
  message ++ 0x80 :: (List.replicate zeros 0 ++ Octets.ofNat kept (8 * message.length))

/-- The words that whole blocks of bytes hold. -/
def words (w : Nat) : List UInt8 → List (BitVec w)
  | [] => []
  | b :: rest =>
    BitVec.ofNat w (Octets.toNat (b :: rest.take (w / 8 - 1))) :: words w (rest.drop (w / 8 - 1))
termination_by bytes => bytes.length
decreasing_by simp only [List.length_drop, List.length_cons]; omega

/-! ## Rounds -/

namespace Variant

variable {w : Nat}

/-- One more word for a schedule of which at least sixteen words are there. -/
def extend (v : Variant w) (ws : Array (BitVec w)) : Array (BitVec w) :=
  let back (n : Nat) : BitVec w := ws.getD (ws.size - n) 0
  ws.push (back 16 + v.spreadFar.shift (back 15) + back 7 + v.spreadNear.shift (back 2))

/-- The schedule of a block: its own words and enough others for all rounds. -/
def schedule (v : Variant w) (block : List (BitVec w)) : List (BitVec w) :=
  ((v.constants.drop 16).foldl (fun ws _ => v.extend ws) block.toArray).toList

/-- One round, driven by a word of the schedule and the constant of the round. -/
def round (v : Variant w) (s : State w) (word constant : BitVec w) : State w :=
  let chosen := (s.e &&& s.f) ^^^ (~~~s.e &&& s.g)
  let majority := (s.a &&& s.b) ^^^ (s.a &&& s.c) ^^^ (s.b &&& s.c)
  let first := s.h + v.spreadE.rotate s.e + chosen + constant + word
  let second := v.spreadA.rotate s.a + majority
  ⟨first + second, s.a, s.b, s.c, s.d + first, s.e, s.f, s.g⟩

/-- The sum of two states, word by word. -/
def sum (s t : State w) : State w :=
  ⟨s.a + t.a, s.b + t.b, s.c + t.c, s.d + t.d, s.e + t.e, s.f + t.f, s.g + t.g, s.h + t.h⟩

/-- The state after one more block. -/
def absorb (v : Variant w) (s : State w) (block : List (BitVec w)) : State w :=
  sum s ((List.zip (v.schedule block) v.constants).foldl (fun s (word, k) => v.round s word k) s)

/-- The state after all the blocks that a list of bytes holds. -/
def absorbAll (v : Variant w) (s : State w) : List UInt8 → State w
  | [] => s
  | b :: rest =>
    absorbAll v (v.absorb s (words w (b :: rest.take (blockSize w - 1))))
      (rest.drop (blockSize w - 1))
termination_by bytes => bytes.length
decreasing_by simp only [List.length_drop, List.length_cons]; omega

/-- The digest of a message: the bytes of eight words. -/
def digest (v : Variant w) (message : List UInt8) : List UInt8 :=
  let s := v.absorbAll v.start (pad w message)
  [s.a, s.b, s.c, s.d, s.e, s.f, s.g, s.h].flatMap fun x => Octets.ofNat (w / 8) x.toNat

end Variant

/-! ## The two digests -/

/-- The digest of 32 bytes. -/
def sha256 : Variant 32 where
  start := ⟨0x6A09E667, 0xBB67AE85, 0x3C6EF372, 0xA54FF53A,
    0x510E527F, 0x9B05688C, 0x1F83D9AB, 0x5BE0CD19⟩
  constants := [
    0x428A2F98, 0x71374491, 0xB5C0FBCF, 0xE9B5DBA5, 0x3956C25B, 0x59F111F1, 0x923F82A4, 0xAB1C5ED5,
    0xD807AA98, 0x12835B01, 0x243185BE, 0x550C7DC3, 0x72BE5D74, 0x80DEB1FE, 0x9BDC06A7, 0xC19BF174,
    0xE49B69C1, 0xEFBE4786, 0x0FC19DC6, 0x240CA1CC, 0x2DE92C6F, 0x4A7484AA, 0x5CB0A9DC, 0x76F988DA,
    0x983E5152, 0xA831C66D, 0xB00327C8, 0xBF597FC7, 0xC6E00BF3, 0xD5A79147, 0x06CA6351, 0x14292967,
    0x27B70A85, 0x2E1B2138, 0x4D2C6DFC, 0x53380D13, 0x650A7354, 0x766A0ABB, 0x81C2C92E, 0x92722C85,
    0xA2BFE8A1, 0xA81A664B, 0xC24B8B70, 0xC76C51A3, 0xD192E819, 0xD6990624, 0xF40E3585, 0x106AA070,
    0x19A4C116, 0x1E376C08, 0x2748774C, 0x34B0BCB5, 0x391C0CB3, 0x4ED8AA4A, 0x5B9CCA4F, 0x682E6FF3,
    0x748F82EE, 0x78A5636F, 0x84C87814, 0x8CC70208, 0x90BEFFFA, 0xA4506CEB, 0xBEF9A3F7, 0xC67178F2]
  spreadA := ⟨2, 13, 22⟩
  spreadE := ⟨6, 11, 25⟩
  spreadFar := ⟨7, 18, 3⟩
  spreadNear := ⟨17, 19, 10⟩

/-- The digest of 64 bytes. -/
def sha512 : Variant 64 where
  start := ⟨0x6A09E667F3BCC908, 0xBB67AE8584CAA73B, 0x3C6EF372FE94F82B, 0xA54FF53A5F1D36F1,
    0x510E527FADE682D1, 0x9B05688C2B3E6C1F, 0x1F83D9ABFB41BD6B, 0x5BE0CD19137E2179⟩
  constants := [
    0x428A2F98D728AE22, 0x7137449123EF65CD, 0xB5C0FBCFEC4D3B2F, 0xE9B5DBA58189DBBC,
    0x3956C25BF348B538, 0x59F111F1B605D019, 0x923F82A4AF194F9B, 0xAB1C5ED5DA6D8118,
    0xD807AA98A3030242, 0x12835B0145706FBE, 0x243185BE4EE4B28C, 0x550C7DC3D5FFB4E2,
    0x72BE5D74F27B896F, 0x80DEB1FE3B1696B1, 0x9BDC06A725C71235, 0xC19BF174CF692694,
    0xE49B69C19EF14AD2, 0xEFBE4786384F25E3, 0x0FC19DC68B8CD5B5, 0x240CA1CC77AC9C65,
    0x2DE92C6F592B0275, 0x4A7484AA6EA6E483, 0x5CB0A9DCBD41FBD4, 0x76F988DA831153B5,
    0x983E5152EE66DFAB, 0xA831C66D2DB43210, 0xB00327C898FB213F, 0xBF597FC7BEEF0EE4,
    0xC6E00BF33DA88FC2, 0xD5A79147930AA725, 0x06CA6351E003826F, 0x142929670A0E6E70,
    0x27B70A8546D22FFC, 0x2E1B21385C26C926, 0x4D2C6DFC5AC42AED, 0x53380D139D95B3DF,
    0x650A73548BAF63DE, 0x766A0ABB3C77B2A8, 0x81C2C92E47EDAEE6, 0x92722C851482353B,
    0xA2BFE8A14CF10364, 0xA81A664BBC423001, 0xC24B8B70D0F89791, 0xC76C51A30654BE30,
    0xD192E819D6EF5218, 0xD69906245565A910, 0xF40E35855771202A, 0x106AA07032BBD1B8,
    0x19A4C116B8D2D0C8, 0x1E376C085141AB53, 0x2748774CDF8EEB99, 0x34B0BCB5E19B48A8,
    0x391C0CB3C5C95A63, 0x4ED8AA4AE3418ACB, 0x5B9CCA4F7763E373, 0x682E6FF3D6B2B8A3,
    0x748F82EE5DEFB2FC, 0x78A5636F43172F60, 0x84C87814A1F0AB72, 0x8CC702081A6439EC,
    0x90BEFFFA23631E28, 0xA4506CEBDE82BDE9, 0xBEF9A3F7B2C67915, 0xC67178F2E372532B,
    0xCA273ECEEA26619C, 0xD186B8C721C0C207, 0xEADA7DD6CDE0EB1E, 0xF57D4F7FEE6ED178,
    0x06F067AA72176FBA, 0x0A637DC5A2C898A6, 0x113F9804BEF90DAE, 0x1B710B35131C471B,
    0x28DB77F523047D84, 0x32CAAB7B40C72493, 0x3C9EBE0A15C9BEBC, 0x431D67C49C100D4C,
    0x4CC5D4BECB3E42B6, 0x597F299CFC657E2A, 0x5FCB6FAB3AD6FAEC, 0x6C44198C4A475817]
  spreadA := ⟨28, 34, 39⟩
  spreadE := ⟨14, 18, 41⟩
  spreadFar := ⟨1, 8, 7⟩
  spreadNear := ⟨19, 61, 6⟩

end TenantOnboarding.Digest
