import TenantOnboarding.Http.Message

/-!
# Media types

A media type is a type and a subtype with a slash between them, and parameters behind semicolons. The
subtype may have a suffix behind its last plus sign. The value of a parameter is a word or a quoted
text of at least one character, which may itself be a quote if it is the first. Only spaces may stand
in front of a parameter or behind a quoted text.
-/

namespace TenantOnboarding.Http.MediaType

open Target (byte)

/-- Whether a byte may stand in a quoted text. -/
def isQuotedByte (b : UInt8) : Bool :=
  b > 31 && b != 127

/-- The bytes from the first one on that is no space. -/
def skipSpaces (bytes : List UInt8) : List UInt8 :=
  bytes.dropWhile (· == 0x20)

/-- What stands behind one parameter and its semicolon, if the bytes start with a parameter that is
well formed. -/
def behindParameter? (bytes : List UInt8) : Option (List UInt8) :=
  let name := bytes.takeWhile isTokenByte
  if name.isEmpty then none
  else match bytes.drop name.length with
    | equals :: 0x22 :: rest =>
      if equals ≠ byte '=' then none
      else
        match rest with
        | [] => none
        | first :: rest =>
          let text := rest.takeWhile fun b => b != 0x22 && isQuotedByte b
          match isQuotedByte first, rest.drop text.length with
          | true, 0x22 :: rest =>
            match skipSpaces rest with
            | [] => some []
            | b :: rest => if b = byte ';' then some rest else none
          | _, _ => none
    | equals :: rest =>
      if equals ≠ byte '=' then none
      else
        let word := rest.takeWhile isTokenByte
        match rest.drop word.length with
        | [] => some []
        | b :: rest => if b = byte ';' ∧ word ≠ [] then some rest else none
    | [] => none

/-- Whether bytes are parameters; `fuel` bounds their number. -/
def areParameters : (fuel : Nat) → List UInt8 → Bool
  | 0, _ => false
  | fuel + 1, bytes =>
    match skipSpaces bytes with
    | [] => true
    | bytes =>
      match behindParameter? bytes with
      | none => false
      | some rest => areParameters fuel rest

/-- The text in lower case that bytes of a name spell. -/
def lowered (bytes : List UInt8) : String :=
  String.ofList (bytes.map fun b => (Char.ofNat b.toNat).toLower)

/-- The subtype without its suffix, and the suffix. A plus sign in front begins no suffix. -/
def splitSuffix (subtype : List UInt8) : List UInt8 × Option (List UInt8) :=
  match subtype.reverse.dropWhile (· ≠ byte '+') with
  | _ :: b :: before =>
    ((b :: before).reverse, some (subtype.reverse.takeWhile (· ≠ byte '+')).reverse)
  | _ => (subtype, none)

/-- Whether bytes are the media type of JSON: the type is `application`, and the subtype or its suffix
is `json`. -/
def isJson (bytes : List UInt8) : Bool :=
  let type := bytes.takeWhile isTokenByte
  match bytes.drop type.length with
  | slash :: rest =>
    let subtype := rest.takeWhile isTokenByte
    let rest := rest.drop subtype.length
    let closed := match rest with
      | [] => true
      | b :: parameters =>
        b = byte ';' && !subtype.isEmpty && areParameters (parameters.length + 1) parameters
    let (main, suffix) := splitSuffix subtype
    slash = byte '/' && lowered type == "application" && closed &&
      (lowered main == "json" || suffix.map lowered == some "json")
  | [] => false

end TenantOnboarding.Http.MediaType
