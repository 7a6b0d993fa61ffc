import LanguageClient.Environment
import LanguageClient.Settings.Basic
import LanguageClient.Text.Utf8
import LanguageClient.Toml.Parser
import LanguageClient.Toml.Record

/-!
The file that settings are kept in: a TOML document with a table of settings. Commands and their
arguments may refer to variables of the environment.
-/

namespace LanguageClient

/-- What is found where the settings should be. -/
inductive SettingsFile where
  | missing
  /-- Something that cannot be read as a file. -/
  | unreadable
  | holds (content : Bytes)

/-- Why settings cannot be used. -/
inductive SettingsError where
  | unreadable
  | malformed
deriving DecidableEq, Repr

/-- The wording of an error about the file at a path. -/
def SettingsError.message (path : String) : SettingsError → String
  | .unreadable => "Failed to read config at " ++ path
  | .malformed => "Failed to parse config at " ++ path

/-- Read the settings of a server from a value of a document. Options that are given count, even
where they stand for null. -/
def ServerSettings.ofValue? (value : Toml.Value) : Option ServerSettings := do
  let record ← Toml.Record.of? fields value
  let command ← record.required 0 "command" Toml.Value.string?
  let args ← record.withDefault 1 "args" [] Toml.Value.strings?
  let language ← record.required 2 "language_id" Toml.Value.string?
  let extensions ← record.withDefault 3 "file_extensions" [] Toml.Value.strings?
  let patterns ← record.withDefault 4 "file_patterns" [] Toml.Value.strings?
  let rootMarkers ← record.withDefault 5 "root_markers" [] Toml.Value.strings?
  let options ← record.withDefault 6 "initialization_options" none fun value =>
    value.toJson?.map some
  return { command, args, language, extensions, patterns, rootMarkers, options }

/-- Read the settings of one server and keep them with its name. -/
def ServerSettings.ofEntry? (entry : String × Toml.Value) : Option (String × ServerSettings) :=
  (ServerSettings.ofValue? entry.2).map fun server => (entry.1, server)

/-- Read the settings of servers by their names. -/
def ServerSettings.tableOfValue? : Toml.Value → Option (Table ServerSettings)
  | .table members => (members.mapM ServerSettings.ofEntry?).map Table.ofList
  | _ => none

namespace Settings

/-- Read settings from a value of a document. What is left out is as in the standard settings. -/
def ofValue? (value : Toml.Value) : Option Settings := do
  let record ← Toml.Record.of? fields value
  let enabled ← record.withDefault 0 "enabled" standard.enabled Toml.Value.boolean?
  let maxRestarts ← record.withDefault 1 "max_restarts" standard.maxRestarts
    (Toml.Value.natBelow? Text.word32)
  let restartDelay ← record.withDefault 2 "restart_base_delay_ms" standard.restartDelay
    (Toml.Value.natBelow? Text.word64)
  let messageLimit ← record.withDefault 3 "max_message_bytes" standard.messageLimit
    (Toml.Value.natBelow? Text.word64)
  let servers ← record.withDefault 4 "servers" standard.servers ServerSettings.tableOfValue?
  return { enabled, maxRestarts, restartDelay, messageLimit, servers }

/-- The key of the table of settings in a document. -/
def tableKey : String := "lsp"

/-- The settings in a document. A document without a table of settings stands for the standard
ones. -/
def ofDocument? (document : Toml.Value) : Option Settings := do
  let record ← Toml.Record.of? [tableKey] document
  record.withDefault 0 tableKey standard ofValue?

/-- The settings in a file. A file that is missing stands for the standard settings. -/
def load (value? : String → Option String) : SettingsFile → Except SettingsError Settings
  | .missing => .ok standard
  | .unreadable => .error .unreadable
  | .holds content =>
      match Text.decode? content with
      | none => .error .unreadable
      | some text =>
          match (Toml.parse? text).bind ofDocument? with
          | none => .error .malformed
          | some settings => .ok (settings.mapCommands (Environment.expandString value?))

end Settings

end LanguageClient
