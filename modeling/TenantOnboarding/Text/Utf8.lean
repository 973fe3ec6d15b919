/-!
# Bytes and characters

The wire carries bytes, the rest of the library speaks of characters. `encode` writes characters as
bytes; `decode` reads bytes as characters and keeps its place at bytes that belong to no character, so
that a reader can pass over them where the format lets it; `decode?` refuses such bytes.
-/

namespace TenantOnboarding.Text.Utf8

/-- The bytes of a list of characters. -/
def encode (cs : List Char) : List UInt8 :=
  cs.flatMap String.utf8EncodeChar

/-- The character that the bytes start with, if they start with a well-formed one. No character has
more than four bytes, so four are enough to look at. -/
def first? (bytes : List UInt8) : Option Char :=
  (bytes.take 4).toByteArray.utf8DecodeChar? 0

/-- `decode` with the part already read, last character first. -/
def decodeOnto (done : List (Option Char)) : List UInt8 → List (Option Char)
  | [] => done.reverse
  | b :: rest =>
    match first? (b :: rest) with
    | some c => decodeOnto (some c :: done) (rest.drop (c.utf8Size - 1))
    | none => decodeOnto (none :: done) rest
termination_by bytes => bytes.length
decreasing_by all_goals simp [List.length_drop]; try omega

/-- The characters of a list of bytes, with `none` for each byte that is part of no well-formed
character. -/
def decode (bytes : List UInt8) : List (Option Char) :=
  decodeOnto [] bytes

/-- The characters of a list of bytes, if every byte belongs to one. -/
def decode? (bytes : List UInt8) : Option (List Char) :=
  (decode bytes).mapM id

/-- The bytes of a string. -/
def ofString (s : String) : List UInt8 :=
  encode s.toList

/-- The string that bytes spell, if they spell one. -/
def toString? (bytes : List UInt8) : Option String :=
  (decode? bytes).map String.ofList

end TenantOnboarding.Text.Utf8
