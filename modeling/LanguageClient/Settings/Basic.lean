import LanguageClient.Frame
import LanguageClient.Json.Record
import LanguageClient.Table

/-!
Settings: which servers there are, which documents they serve, and how they are run.
-/

namespace LanguageClient

/-- The settings of one server. -/
structure ServerSettings where
  command : String
  args : List String
  /-- The name of the language in the protocol. -/
  language : String
  /-- Extensions of the files that the server serves. -/
  extensions : List String
  /-- Patterns for the names of the files that the server serves. -/
  patterns : List String
  /-- Files that mark the root of a workspace. -/
  rootMarkers : List String
  /-- What is handed to the server when the session opens. -/
  options : Option Json
deriving DecidableEq, Repr

/-- The settings of a client. -/
structure Settings where
  enabled : Bool
  /-- How often a server is started again before it is given up. -/
  maxRestarts : Nat
  /-- The wait before the first restart, in milliseconds. -/
  restartDelay : Nat
  /-- The length of the longest message that is accepted. -/
  messageLimit : Nat
  servers : Table ServerSettings

/-- The names of the settings of a server, in their order. -/
def ServerSettings.fields : List String :=
  ["command", "args", "language_id", "file_extensions", "file_patterns", "root_markers",
    "initialization_options"]

namespace Settings

/-- The names of the settings of a client, in their order. -/
def fields : List String :=
  ["enabled", "max_restarts", "restart_base_delay_ms", "max_message_bytes", "servers"]

/-- The settings of a client that is told nothing. -/
def standard : Settings :=
  { enabled := false, maxRestarts := 3, restartDelay := 250, messageLimit := Frame.defaultLimit
    servers := .empty }

/-- The settings with one more server. -/
def withServer (settings : Settings) (name : String) (server : ServerSettings) : Settings :=
  { settings with enabled := true, servers := settings.servers.insert name server }

end Settings

/-- Read the settings of a server. -/
def ServerSettings.ofJson? (value : Json) : Option ServerSettings := do
  let record ← Json.Record.of? fields.length value
  let command ← record.required 0 "command" Json.string?
  let args ← record.withDefault 1 "args" [] Json.strings?
  let language ← record.required 2 "language_id" Json.string?
  let extensions ← record.withDefault 3 "file_extensions" [] Json.strings?
  let patterns ← record.withDefault 4 "file_patterns" [] Json.strings?
  let rootMarkers ← record.withDefault 5 "root_markers" [] Json.strings?
  let options ← record.nullable 6 "initialization_options" some
  return { command, args, language, extensions, patterns, rootMarkers, options }

/-- Read the settings of one server and keep them with its name. -/
def ServerSettings.ofMember? (member : String × Json) : Option (String × ServerSettings) :=
  (ServerSettings.ofJson? member.2).map fun server => (member.1, server)

/-- Read the settings of servers by their names. -/
def ServerSettings.tableOfJson? : Json → Option (Table ServerSettings)
  | .obj members => (members.mapM ServerSettings.ofMember?).map Table.ofList
  | _ => none

/-- Read settings. What is left out is as in the standard settings. -/
def Settings.ofJson? (value : Json) : Option Settings := do
  let record ← Json.Record.of? fields.length value
  let enabled ← record.withDefault 0 "enabled" standard.enabled Json.bool?
  let maxRestarts ← record.withDefault 1 "max_restarts" standard.maxRestarts Json.u32?
  let restartDelay ← record.withDefault 2 "restart_base_delay_ms" standard.restartDelay Json.u64?
  let messageLimit ← record.withDefault 3 "max_message_bytes" standard.messageLimit Json.u64?
  let servers ← record.withDefault 4 "servers" standard.servers ServerSettings.tableOfJson?
  return { enabled, maxRestarts, restartDelay, messageLimit, servers }

/-- The settings with every command and its arguments changed in the same way. -/
def Settings.mapCommands (settings : Settings) (change : String → String) : Settings :=
  { settings with servers := settings.servers.map fun server =>
      { server with command := change server.command, args := server.args.map change } }

end LanguageClient
