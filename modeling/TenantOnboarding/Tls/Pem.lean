import TenantOnboarding.Text.Base64

/-!
# Armoured files

Certificates and keys are kept in text files: sections between a line that begins and a line that ends
them, each with a label, and in between base 64. What stands outside sections is passed over. A section
of an unknown label is passed over too, but a section of a known label must be base 64 even if it is not
asked for.
-/

namespace TenantOnboarding.Tls

/-- The labels that are known. -/
inductive Label where
  | certificate
  | publicKey
  | rsaPrivateKey
  | privateKey
  | ecPrivateKey
  | revocationList
  | certificateRequest
  | echSettings
  deriving Repr, DecidableEq

namespace Label

/-- The labels with their names. -/
def names : List (String × Label) :=
  [("CERTIFICATE", certificate), ("PUBLIC KEY", publicKey), ("RSA PRIVATE KEY", rsaPrivateKey),
    ("PRIVATE KEY", privateKey), ("EC PRIVATE KEY", ecPrivateKey), ("X509 CRL", revocationList),
    ("CERTIFICATE REQUEST", certificateRequest), ("ECHCONFIG", echSettings)]

/-- The label of a name in bytes. -/
def ofBytes? (bytes : List UInt8) : Option Label :=
  Label.names.lookup (String.ofList (bytes.map fun b => Char.ofNat b.toNat))

end Label

namespace Pem

/-- The bytes of an ASCII text. -/
def ascii (s : String) : List UInt8 :=
  s.toList.map fun c => UInt8.ofNat c.toNat

/-- What begins the line that begins a section. -/
def opening : List UInt8 := ascii "-----BEGIN "

/-- The line that ends a section. -/
def ending (name : List UInt8) : List UInt8 :=
  ascii "-----END " ++ name ++ ascii "-----"

/-- A section: its label and its bytes. -/
structure Section where
  label : Label
  bytes : List UInt8
  deriving Repr, DecidableEq

/-! ## Base 64 -/

/-- Whether a byte may stand between the characters of base 64. -/
def isBlank (b : UInt8) : Bool :=
  b == 0x20 || (0x09 ≤ b && b ≤ 0x0D)

/-- The bytes that the body of a section stands for. Up to two signs of padding fill the last group of
four characters. Unused bits may be anything. -/
def decodeBody? (body : List UInt8) : Option (List UInt8) :=
  let cs := (body.filter (!isBlank ·)).map fun b => Char.ofNat b.toNat
  let padding := (cs.reverse.takeWhile (· == '=')).length
  let kept := cs.take (cs.length - padding)
  if cs.length % 4 = 0 ∧ padding ≤ 2 then do
    let padded ← Text.Base64.decode? .standard (kept ++ List.replicate padding 'A')
    return padded.take (padded.length - padding)
  else none

/-! ## Sections -/

/-- The name in a line that begins a section; `none` if the line is cut off. Five hyphens must end it,
and blanks may stand among them. -/
def openedName? (line : List UInt8) : Option (List UInt8) :=
  let hyphen : UInt8 := 0x2D
  let tail := line.reverse.takeWhile fun b => b == hyphen || b == 0x20
  let behindFirst := (tail.reverse.dropWhile (· ≠ hyphen)).length
  if tail.count hyphen = 5 then some ((line.take (line.length - behindFirst)).drop opening.length)
  else none

/-- Where the reading of a file stands. -/
structure Place where
  /-- The name of the section that is open. -/
  opened : Option (List UInt8)
  /-- The base 64 so far, last line first. -/
  body : List (List UInt8)

/-- The sections of known labels among some lines; `none` ends the list at the first fault. -/
def sections (place : Place) : List (List UInt8) → List (Option Section)
  | [] => if place.opened.isSome then [none] else []
  | line :: rest =>
    if opening.isPrefixOf line then
      match openedName? line with
      | none => [none]
      | some name => sections { place with opened := some name } rest
    else match place.opened with
      | none => sections place rest
      | some name =>
        if (ending name).isPrefixOf line then
          match Label.ofBytes? name with
          | none => sections ⟨none, []⟩ rest
          | some label =>
            match decodeBody? place.body.reverse.flatten with
            | none => [none]
            | some bytes => some ⟨label, bytes⟩ :: sections ⟨none, []⟩ rest
        else sections { place with body := line :: place.body } rest

/-- Lines end with a line feed or a carriage return. -/
def lines (file : List UInt8) : List (List UInt8) :=
  file.splitOnP fun b => b == 0x0A || b == 0x0D

/-- The sections of a file. -/
def read (file : List UInt8) : List (Option Section) :=
  sections ⟨none, []⟩ (lines file)

end Pem

end TenantOnboarding.Tls
