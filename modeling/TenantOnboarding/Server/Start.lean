import TenantOnboarding.Server.Log
import TenantOnboarding.Server.Migration
import TenantOnboarding.Server.Visit
import TenantOnboarding.Settings.Basic

/-!
# Starting and stopping

The server reads its settings, connects to the database, runs migrations if it is told to, and listens.
Anything that goes wrong on the way ends it with an error, but not what is wrong with certificates: then
it listens unencrypted. It stops when it is told to.
-/

namespace TenantOnboarding.Server

open TenantOnboarding.Http

/-- Why the server could not start. -/
inductive StartFailure where
  | settings (missing : MissingSetting)
  | database (cause : DatabaseFailure)
  | migrations (failure : MigrationFailure)
  /-- The origins list the star. -/
  | origins
  /-- The port is taken. -/
  | occupied
  deriving Repr, DecidableEq

/-- The description of a failure, without its cause. -/
def StartFailure.description : StartFailure → String
  | settings missing => missing.message
  | database _ => "Database connection failed"
  | migrations failure => failure.description
  | origins => CorsPolicy.starMessage
  | occupied => "Address already in use (os error 98)"

/-- The code with which the server ends. -/
def StartFailure.exitCode : StartFailure → Nat
  | origins => 101
  | _ => 1

/-! ## Messages -/

/-- A message of the server's own. -/
def own (level : Level) (text : String) : Message := ⟨level, "server", text⟩

/-- What is said of the certificates when the server listens unencrypted. -/
def plainMessage (certificates key : Tls.FileState) : Message :=
  ⟨.warn, "listener",
    if Tls.filesExist certificates key then "TLS setup failed"
    else "TLS certificates not found, serving HTTP"⟩

/-- What is said when the server listens. -/
def listeningMessage (isEncrypted : Bool) (address : String) : Message :=
  ⟨.info, "listener",
    "Server listening on " ++ (if isEncrypted then "https://" else "http://") ++ address⟩

/-- What is said of the origins that may read answers: one message for each item that cannot be one, and
one if none is left. -/
def originMessages (origins : String) : List Message :=
  let message (text : String) : Message := ⟨.warn, "origins", text⟩
  let items := ((splitAtCommas origins.toList).map fun item =>
    String.ofList (Text.trimEnd (Text.trimStart item))).filter (!·.isEmpty)
  (items.filter (!canBeValue ·)).map (fun _ => message "Ignoring invalid CORS origin") ++
    if (parseOrigins origins).isEmpty then
      [message "No CORS origins configured; cross-origin requests will be refused"]
    else []

/-! ## Starting -/

/-- What the server finds when it starts. -/
structure Surroundings where
  /-- The database that the settings lead to. -/
  database : Database
  /-- What stands at the paths of the certificates and of the key. -/
  certificates : Tls.FileState
  key : Tls.FileState
  /-- Whether the port is taken. -/
  isOccupied : Bool
  /-- Google's server of keys. -/
  keyServer : Google.KeyServer
  /-- What puts faults in words. -/
  print : Provisioning.Printer

/-- How a start went: the messages on the way, and the server if it listens. -/
structure Start where
  messages : List Message
  outcome : Except StartFailure Running
  /-- The database as the start left it. -/
  database : Database

/-- The address that a server of a port listens on. -/
def addressOf (port : UInt16) : String :=
  "0.0.0.0:" ++ String.ofList (Text.numeral port.toNat)

/-- Connects to the database and runs migrations if the settings say so. -/
def prepare (settings : Settings) (db : Database) :
    List Message × Except StartFailure Unit × Database :=
  match db.connect with
  | (.error cause, db) => ([own .error "Failed to connect to database"], .error (.database cause), db)
  | (.ok _, db) =>
    let connected := own .info "Database connection established"
    if settings.runMigrations then
      match Migration.run knownMigrations db with
      | (.error failure, db) => ([connected], .error (.migrations failure), db)
      | (.ok _, db) => ([connected, own .info "Database migrations applied"], .ok (), db)
    else ([connected], .ok (), db)

/-- Listens with a database that is ready. -/
def listen (settings : Settings) (found : Surroundings) (db : Database) :
    List Message × Except StartFailure Running :=
  let address := addressOf settings.port
  let verifier := Google.Verifier.new settings.googleClient found.keyServer
  let warnings := originMessages settings.allowedOrigins
  match CorsPolicy.ofText? settings.allowedOrigins with
  | none => (warnings, .error .origins)
  | some policy =>
    let before := warnings ++
      [own .info ("Health check available at " ++ address ++ "/health")]
    if found.isOccupied then (before, .error .occupied)
    else
      let isEncrypted :=
        (Tls.loadAcceptor settings.tls found.certificates found.key).isSome
      let notice := if isEncrypted then [] else [plainMessage found.certificates found.key]
      (before ++ notice ++ [listeningMessage isEncrypted address],
        .ok ⟨⟨.google verifier, ⟨settings.sessionSecret⟩, found.print, db⟩, policy, isEncrypted⟩)

/-- Starts the server. -/
def start (lookup : Lookup) (found : Surroundings) : Start :=
  match Settings.ofLookup lookup with
  | .error missing => ⟨[], .error (.settings missing), found.database⟩
  | .ok settings =>
    let starting := own .info "Starting Tenantgate API server"
    match prepare settings found.database with
    | (messages, .error failure, db) => ⟨starting :: messages, .error failure, db⟩
    | (messages, .ok _, db) =>
      let (more, outcome) := listen settings found db
      ⟨starting :: messages ++ more, outcome, db⟩

/-! ## Stopping -/

/-- How a server is told to stop. -/
inductive Signal where
  | interrupt
  | terminate
  deriving Repr, DecidableEq

/-- The messages of a server that stops. -/
def stopMessages : Signal → List Message
  | .interrupt =>
    [own .info "Received Ctrl+C signal, starting graceful shutdown", own .info "Server shutdown complete"]
  | .terminate =>
    [own .info "Received terminate signal, starting graceful shutdown",
      own .info "Server shutdown complete"]

/-- The messages that are shown as records: those that pass the filter, if records are asked for. -/
def recorded (lookup : Lookup) (messages : List Message) : List Message :=
  if lookup "LOG_FORMAT" = some "json" then
    messages.filter (Filter.ofText ((lookup "RUST_LOG").getD "")).passes
  else []

end TenantOnboarding.Server
