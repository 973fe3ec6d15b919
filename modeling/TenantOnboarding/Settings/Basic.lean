import TenantOnboarding.Json.Coded
import TenantOnboarding.Text.Numeral

/-!
# Settings

What the service is told at its start: where the database is, the secret of session tokens, whose
identity tokens to accept, which origins may read answers, and where to listen. Settings are looked up
by name; those that must be there are named when they are missing, and any other that cannot be read
has its usual value.
-/

namespace TenantOnboarding

open TenantOnboarding.Json

/-- How log messages are written. -/
inductive LogFormat where
  | pretty
  | json
  deriving Repr, DecidableEq

namespace LogFormat

/-- The name of a format. -/
def name : LogFormat → String
  | pretty => "pretty"
  | json => "json"

/-- The format of a name. -/
def ofName? (s : String) : Option LogFormat :=
  [pretty, json].find? (·.name == s)

/-- The usual format. -/
def usual : LogFormat := pretty

end LogFormat

instance : Coded LogFormat where
  shape := .word ["pretty", "json"]
  toValue f := .text f.name
  ofValue? v := v.text? >>= LogFormat.ofName?

/-- Where the certificates and the private key are. -/
structure TlsPaths where
  certificates : String
  key : String
  deriving Repr, DecidableEq

instance : Coded TlsPaths where
  shape := .recordOf [("cert_path", .text), ("key_path", .text)]
  toValue p := .object [("cert_path", .text p.certificates), ("key_path", .text p.key)]
  ofValue? v := do
    return { certificates := ← (← v.member? "cert_path").text?
             key := ← (← v.member? "key_path").text? }

/-- What the service is told at its start. -/
structure Settings where
  databaseUrl : String
  /-- How many connections to the database may be open at once. -/
  databaseConnections : UInt32
  runMigrations : Bool
  /-- The secret that signs session tokens. It is never written. -/
  sessionSecret : String
  /-- The client whose identity tokens are accepted. -/
  googleClient : String
  /-- The origins whose pages may read answers, with commas between them. -/
  allowedOrigins : String
  tls : TlsPaths
  port : UInt16
  logFormat : LogFormat
  deriving Repr, DecidableEq

instance : Coded Settings where
  shape := .recordOf [("database_url", .text), ("database_max_connections", .integer 0 4294967295),
    ("run_migrations", .boolean), ("jwt_secret", .text), ("google_client_id", .text),
    ("cors_allowed_origins", .text), ("tls", Coded.shape TlsPaths), ("port", .integer 0 65535),
    ("log_format", Coded.shape LogFormat)]
  toValue s := .object [("database_url", .text s.databaseUrl),
    ("database_max_connections", .int s.databaseConnections.toNat),
    ("run_migrations", .boolean s.runMigrations), ("google_client_id", .text s.googleClient),
    ("cors_allowed_origins", .text s.allowedOrigins), ("tls", Coded.toValue s.tls),
    ("port", .int s.port.toNat), ("log_format", Coded.toValue s.logFormat)]
  ofValue? v := do
    return { databaseUrl := ← (← v.member? "database_url").text?
             databaseConnections := UInt32.ofNat
               (← (← v.member? "database_max_connections").int?).toNat
             runMigrations := ← (← v.member? "run_migrations").boolean?
             sessionSecret := ← (← v.member? "jwt_secret").text?
             googleClient := ← (← v.member? "google_client_id").text?
             allowedOrigins := ← (← v.member? "cors_allowed_origins").text?
             tls := ← Coded.ofValue? (← v.member? "tls")
             port := UInt16.ofNat (← (← v.member? "port").int?).toNat
             logFormat := ← Coded.ofValue? (← v.member? "log_format") }

/-! ## Looking up -/

/-- Where settings are looked up. -/
abbrev Lookup := String → Option String

/-- A setting that must be there is missing or empty. -/
structure MissingSetting where
  name : String
  deriving Repr, DecidableEq

/-- What is told of a missing setting. -/
def MissingSetting.message (m : MissingSetting) : String :=
  m.name ++ " is required"

namespace Settings

/-- The names under which settings are looked up. -/
def names : List String :=
  ["DATABASE_URL", "DATABASE_MIGRATE_USER", "DATABASE_MIGRATE_PASSWORD", "APPLICATION_DB",
    "DATABASE_HOST", "DATABASE_PORT", "DATABASE_MAX_CONNECTIONS", "RUN_MIGRATIONS", "JWT_SECRET",
    "GOOGLE_CLIENT_ID", "CORS_ALLOWED_ORIGINS", "CERT_PATH", "KEY_PATH", "PORT", "LOG_FORMAT",
    "RUST_LOG"]

/-- A setting that is there and not empty. -/
def given? (lookup : Lookup) (name : String) : Option String :=
  (lookup name).filter (!·.isEmpty)

/-- A setting that must be there and not be empty. -/
def required (lookup : Lookup) (name : String) : Except MissingSetting String :=
  match given? lookup name with
  | some value => .ok value
  | none => .error ⟨name⟩

/-- The address of a database from its parts. -/
def assembleUrl (user password host port database : String) : String :=
  "postgres://" ++ user ++ ":" ++ password ++ "@" ++ host ++ ":" ++ port ++ "/" ++ database

/-- The address of the database: given as a whole, or assembled. -/
def databaseUrlOf (lookup : Lookup) : Except MissingSetting String :=
  match given? lookup "DATABASE_URL" with
  | some url => .ok url
  | none => do
    let user ← required lookup "DATABASE_MIGRATE_USER"
    let password ← required lookup "DATABASE_MIGRATE_PASSWORD"
    let database ← required lookup "APPLICATION_DB"
    return assembleUrl user password ((lookup "DATABASE_HOST").getD "postgres")
      ((lookup "DATABASE_PORT").getD "5432") database

/-- Whether a text says yes. -/
def isYes (s : String) : Bool :=
  s.toList.map Char.toLower == "true".toList || s == "1"

/-- The settings that a lookup gives. -/
def ofLookup (lookup : Lookup) : Except MissingSetting Settings := do
  let databaseUrl ← databaseUrlOf lookup
  let sessionSecret ← required lookup "JWT_SECRET"
  let googleClient ← required lookup "GOOGLE_CLIENT_ID"
  return {
    databaseUrl, sessionSecret, googleClient
    databaseConnections :=
      UInt32.ofNat ((lookup "DATABASE_MAX_CONNECTIONS" >>= Text.unsigned? 4294967295).getD 10)
    runMigrations := (lookup "RUN_MIGRATIONS").any isYes
    allowedOrigins := (lookup "CORS_ALLOWED_ORIGINS").getD ""
    tls := {
      certificates := (lookup "CERT_PATH").getD "./local/certs/fullchain.pem"
      key := (lookup "KEY_PATH").getD "./local/certs/privkey.pem" }
    port := UInt16.ofNat ((lookup "PORT" >>= Text.unsigned? 65535).getD 5000)
    logFormat := ((lookup "LOG_FORMAT").bind fun s => if s = "json" then some .json else none).getD
      .usual }

end Settings

end TenantOnboarding
