import TenantOnboarding.Settings.Basic
import TenantOnboarding.Tls.Certificate
import TenantOnboarding.Tls.PrivateKey

/-!
# Encrypted listening

The service listens encrypted if it finds certificates and a private key that belongs to the first of
them. When anything is wrong with them it listens unencrypted.
-/

namespace TenantOnboarding.Tls

/-- What stands at a path. -/
inductive FileState where
  | missing
  | directory
  | file (bytes : List UInt8)
  deriving Repr, DecidableEq

/-- Whether something stands at a path. -/
def FileState.isThere : FileState → Bool
  | .missing => false
  | .directory | .file _ => true

/-- Why the service cannot listen encrypted. -/
inductive SetupFailure where
  /-- A file cannot be read. -/
  | unreadable (path : String)
  /-- The certificates are not in armoured form. -/
  | certificates
  /-- The file of certificates holds none. -/
  | noCertificates
  /-- The file of the key holds none. -/
  | privateKey
  /-- Certificate and key are of unknown kinds or do not belong together. -/
  | mismatch
  deriving Repr, DecidableEq

/-- The description of a failure, without its cause. -/
def SetupFailure.description : SetupFailure → String
  | unreadable path => "failed to read " ++ path
  | certificates => "failed to parse certificates"
  | noCertificates => "failed to parse certificates: no certificates found"
  | privateKey => "failed to parse private key"
  | mismatch => "server config error"

/-- What the service listens encrypted with. -/
structure Acceptor where
  /-- The certificates, the service's own first. -/
  certificates : List (List UInt8)
  /-- The private key. -/
  key : Pem.Section
  deriving Repr, DecidableEq

/-- The protocols that are spoken over an encrypted connection. -/
def Acceptor.protocols : List String := ["http/1.1"]

/-- The bytes of a file. -/
def readFile (path : String) : FileState → Except SetupFailure (List UInt8)
  | .file bytes => .ok bytes
  | .missing | .directory => .error (.unreadable path)

/-- The certificates of a file. -/
def certificatesOf (file : List UInt8) : Except SetupFailure (List (List UInt8)) :=
  match (Pem.read file).mapM id with
  | none => .error .certificates
  | some sections =>
    match (sections.filter (·.label = .certificate)).map (·.bytes) with
    | [] => .error .noCertificates
    | certificates => .ok certificates

/-- Whether a label is that of a private key. -/
def Label.isPrivate : Label → Bool
  | .rsaPrivateKey | .privateKey | .ecPrivateKey => true
  | _ => false

/-- The first private key of a file. -/
def keyOf (file : List UInt8) : Except SetupFailure Pem.Section :=
  match (Pem.read file).find? (·.all (·.label.isPrivate)) with
  | some (some key) => .ok key
  | _ => .error .privateKey

/-- The acceptor for the files at two paths. -/
def buildAcceptor (paths : TlsPaths) (certificates key : FileState) :
    Except SetupFailure Acceptor := do
  let certificateFile ← readFile paths.certificates certificates
  let keyFile ← readFile paths.key key
  let certificates ← certificatesOf certificateFile
  let key ← keyOf keyFile
  match PrivateKey.publicKey? key, certificates.head? >>= Certificate.publicKey? with
  | some own, some certified => if own = certified then return ⟨certificates, key⟩ else throw .mismatch
  | _, _ => throw .mismatch

/-- Whether both files are there. -/
def filesExist (certificates key : FileState) : Bool :=
  certificates.isThere && key.isThere

/-- The acceptor, if the service can listen encrypted. -/
def loadAcceptor (paths : TlsPaths) (certificates key : FileState) : Option Acceptor :=
  if filesExist certificates key then (buildAcceptor paths certificates key).toOption else none

end TenantOnboarding.Tls
