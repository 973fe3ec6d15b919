import TenantOnboarding.Server.Start
import TenantOnboarding.Settings.File

/-!
# The program

Starts the server with the settings of the environment and of the file `.env`, on an empty database in
memory, and answers the requests that come on lines of the input. A line holds a method, a target, and
if they are needed the value of the authorization header and a body in JSON, with tabs between them; the
answer is a line with a status and a body. The argument of the program is the second of its start,
counted from the start of 1970.
-/

namespace TenantOnboarding.Main

open TenantOnboarding.Http

/-- The request on a line. -/
def request? (line : String) : Option Request := do
  let method :: target :: rest := (Text.trimEnd line.toList).splitOn '\t' | none
  let method ← method? (Text.Utf8.encode method)
  let target ← Target.ofBytes? (Text.Utf8.encode target)
  let authorization := rest.head?.toList.filter (!·.isEmpty)
  let body := Text.Utf8.encode (rest.getD 1 [])
  return {
    method, target, body
    headers := authorization.map (fun value => ⟨"authorization", Text.Utf8.encode value⟩) ++
      [⟨"content-type", Text.Utf8.ofString "application/json"⟩] }

/-- The body of an answer as text. -/
def bodyText : Body → String
  | .empty => ""
  | .text s => s
  | .json v => v.compact

/-- The settings of the environment and of a file. -/
def lookupWith (file : List UInt8) : IO Lookup := do
  let environment ← Settings.names.filterMapM fun name => do
    return (← IO.getEnv name).map (name, ·)
  return fun name => (Settings.load environment file).lookup name

/-- Answers requests until the input ends. -/
partial def answerAll (server : Server.Running) (started : Int) : IO Unit := do
  let line ← (← IO.getStdin).getLine
  if line.isEmpty then return
  let now := started + (← IO.monoMsNow) / 1000
  match request? line, Instant.of? now 0 with
  | some request, some now =>
    let (response, server) := server.respond request now
    IO.println (toString response.status ++ " " ++ bodyText response.body)
    (← IO.getStdout).flush
    answerAll server started
  | _, _ =>
    IO.println "400"
    (← IO.getStdout).flush
    answerAll server started

/-- Shows the messages that the settings let through. -/
def report (lookup : Lookup) (messages : List Server.Message) : IO Unit := do
  for message in Server.recorded lookup messages do
    IO.eprintln (message.level.name ++ " " ++ message.text)

/-- Starts the server, and serves until the input ends. -/
def run (second : Int) : IO UInt32 := do
  let file ← try IO.FS.readBinFile ".env" catch _ => pure ByteArray.empty
  let lookup ← lookupWith file.toList
  let start := Server.start lookup
    ⟨.ofStore .empty, .missing, .missing, false, ⟨false, [], 0⟩, .plain⟩
  report lookup start.messages
  match start.outcome with
  | .error failure =>
    IO.eprintln ("Error: " ++ failure.description)
    return UInt32.ofNat failure.exitCode
  | .ok server =>
    answerAll server (second - (← IO.monoMsNow) / 1000)
    report lookup (Server.stopMessages .terminate)
    return 0

end TenantOnboarding.Main

/-- Runs the program. -/
def main (arguments : List String) : IO UInt32 :=
  TenantOnboarding.Main.run ((arguments.head?.bind String.toInt?).getD 0)
