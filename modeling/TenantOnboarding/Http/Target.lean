import TenantOnboarding.Text.Utf8

/-!
# Request targets

The target of a request is a path with a query, a whole address, an authority alone, or a star. What
matters of it is the path, byte for byte: nothing is folded or decoded. A fragment is dropped.
-/

namespace TenantOnboarding.Http

/-- The target of a request. -/
structure Target where
  /-- The path, empty for a target that is only an authority. -/
  path : List UInt8
  deriving Repr, DecidableEq

namespace Target

/-! ## Bytes -/

/-- The byte of an ASCII character. -/
def byte (c : Char) : UInt8 := UInt8.ofNat c.toNat

/-- Whether a byte is a letter or a digit. -/
def isAlphanumeric (b : UInt8) : Bool :=
  (byte '0' ≤ b && b ≤ byte '9') || (byte 'a' ≤ b && b ≤ byte 'z') || (byte 'A' ≤ b && b ≤ byte 'Z')

/-- Whether a byte may stand in an authority. -/
def isAuthorityByte (b : UInt8) : Bool :=
  isAlphanumeric b || ("!$&'()*+,-.:;=@[]_~".toList.map byte).contains b

/-- Whether a byte may stand in a scheme. -/
def isSchemeByte (b : UInt8) : Bool :=
  isAlphanumeric b || b == byte '+' || b == byte '-' || b == byte '.'

/-- Whether a byte may stand in a path. Quotes and braces may, although they should be escaped. -/
def isPathByte (b : UInt8) : Bool :=
  b == 0x21 || (0x24 ≤ b && b ≤ 0x3B) || b == 0x3D || (0x40 ≤ b && b ≤ 0x5F) ||
    (0x61 ≤ b && b ≤ 0x7E) || 0x7F ≤ b || b == 0x22

/-- Whether a byte may stand in a query. -/
def isQueryByte (b : UInt8) : Bool :=
  b == 0x21 || (0x24 ≤ b && b ≤ 0x3B) || b == 0x3D || 0x3F ≤ b

/-- Whether a byte ends an authority. -/
def endsAuthority (b : UInt8) : Bool :=
  b == byte '/' || b == byte '?' || b == byte '#'

/-! ## Authorities -/

/-- What has been seen of an authority. -/
structure Seen where
  /-- Colons since the last `@` or `]`. -/
  colons : Nat
  /-- Whether an address in brackets was opened, and whether it was closed. -/
  opened : Bool
  closed : Bool
  /-- Whether there is a percent sign since the last `@` or `]`. -/
  percent : Bool
  /-- Whether the last byte is `@`. -/
  atEnd : Bool

/-- What has been seen with one more byte, if it may stand there. -/
def Seen.next (s : Seen) (b : UInt8) : Option Seen :=
  let s := { s with atEnd := false }
  if b = byte ':' then
    if s.colons ≥ 8 then none else some { s with colons := s.colons + 1 }
  else if b = byte '[' then
    if s.percent || s.opened then none else some { s with opened := true }
  else if b = byte ']' then
    if !s.opened || s.closed then none
    else some { s with closed := true, colons := 0, percent := false }
  else if b = byte '@' then some { s with colons := 0, percent := false, atEnd := true }
  else if b = byte '%' then some { s with percent := true }
  else if isAuthorityByte b then some s
  else none

/-- Whether bytes are an authority: user, host and port, of which each may be missing. A percent sign
may stand only in the user or between brackets. -/
def isAuthority (bytes : List UInt8) : Bool :=
  match bytes.foldlM Seen.next ⟨0, false, false, false, false⟩ with
  | none => false
  | some s => s.opened == s.closed && s.colons ≤ 1 && !s.atEnd && !s.percent

/-! ## Targets -/

/-- The path in front of a query and a fragment, if all bytes may stand where they do. -/
def path? (bytes : List UInt8) : Option (List UInt8) :=
  let kept := bytes.takeWhile (· ≠ byte '#')
  let path := kept.takeWhile (· ≠ byte '?')
  let query := (kept.dropWhile (· ≠ byte '?')).drop 1
  if path.all isPathByte && query.all isQueryByte && (Text.Utf8.decode? kept).isSome then some path
  else none

/-- How long a scheme other than the two usual ones may be. -/
def longestScheme : Nat := 64

/-- What stands behind the scheme of an address, if it has one. The outer `none` is for a scheme that
is too long. -/
def behindScheme? (bytes : List UInt8) : Option (Option (List UInt8)) :=
  let scheme := bytes.takeWhile isSchemeByte
  let rest := bytes.drop scheme.length
  if [byte ':', byte '/', byte '/'].isPrefixOf rest then
    if scheme.length ≤ longestScheme then some (some (rest.drop 3)) else none
  else some none

/-- The target that bytes spell. -/
def ofBytes? (bytes : List UInt8) : Option Target :=
  if bytes.length > 65534 then none
  else if bytes = [byte '*'] then some ⟨bytes⟩
  else match bytes with
    | [] => none
    | b :: _ =>
      if b = byte '/' then (path? bytes).map Target.mk
      else match behindScheme? bytes with
        | none => none
        | some none => if isAuthority bytes then some ⟨[]⟩ else none
        | some (some rest) =>
          let authority := rest.takeWhile (!endsAuthority ·)
          if authority.isEmpty || !isAuthority authority then none
          else match path? (rest.drop authority.length) with
            | none => none
            | some [] => some ⟨[byte '/']⟩
            | some path => some ⟨path⟩

end Target

end TenantOnboarding.Http
