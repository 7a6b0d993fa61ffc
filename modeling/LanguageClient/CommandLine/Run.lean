import LanguageClient.CommandLine.Arguments
import LanguageClient.ServerProcess.Basic
import LanguageClient.Settings.Document
import LanguageClient.Text.Blank
import LanguageClient.Workspace.Operations

/-!
Runs of the command line on a machine. A run opens a file in a workspace, lets the servers'
messages be handled in rounds until the answer has come or the time is up, and tells what it has
found.
-/

namespace LanguageClient.CommandLine

/-- What a run is surrounded by. -/
structure Surroundings where
  machine : Machine
  /-- The values of the variables of the environment. -/
  value? : String → Option String
  processId : Nat

/-- What a run says and how it ends. -/
structure Report where
  code : Nat
  out : String
  complaints : String
deriving DecidableEq, Repr

/-- The workspace of a run. -/
abbrev Space := Workspace ServerProcess Unit

/-- How many messages are handled in a round. -/
def roundBudget : Nat := 64

/-- How long a round takes, in milliseconds. -/
def roundTime : Nat := 20

/-- The name of the server that is given on the command line. -/
def givenServer : String := "cli"

/-- The report of an error. -/
def failure (text : String) : Report :=
  ⟨1, "", "Error: " ++ text ++ "\n"⟩

/-- The path of a place. -/
def pathOf (place : Machine.Place) : Path :=
  if place.isEmpty then [Path.slash] else place.flatMap fun name => Path.slash :: name

/-- The directory of the user. -/
def home? (surroundings : Surroundings) : Option Path :=
  match surroundings.value? "HOME" with
  | some home => if home.isEmpty then none else some (Text.bytes home)
  | none => none

/-- The directory for data of the user. -/
def dataDirectory (surroundings : Surroundings) : Path :=
  match home? surroundings with
  | some home => home.join (Text.bytes ".local/share/quill")
  | none => Text.bytes ".quill"

/-- What is found at a path where settings should be. -/
def settingsFile (machine : Machine) (path : Path) : SettingsFile :=
  match machine.files.place? machine.here path with
  | some place =>
      match machine.files.content? place with
      | some content => .holds content
      | none => if machine.files.isDirectory place then .unreadable else .missing
  | none => .missing

/-- The settings that the user keeps. -/
def userSettings (surroundings : Surroundings) : Except String Settings :=
  match home? surroundings with
  | some home =>
      let path := home.join (Text.bytes ".quill/config.toml")
      (Settings.load surroundings.value? (settingsFile surroundings.machine path)).mapError
        (SettingsError.message path.display)
  | none => .ok Settings.standard

/-- The settings for the one server given on the command line, which serves files with an
extension. -/
def givenSettings (surroundings : Surroundings) (options : Options) (command : String)
    (file : Path)
    : Except String Settings :=
  match file.extension? with
  | none => .error ("--server needs a file with an extension: " ++ file.display)
  | some extension =>
      let words := (Text.words command.toList).map fun word =>
        Environment.expandString surroundings.value? (String.ofList word)
      match words with
      | [] => .error "--server command is empty"
      | program :: args =>
          .ok (Settings.standard.withServer givenServer
            { command := program
              args
              language := options.language.getD extension
              extensions := [extension]
              patterns := []
              rootMarkers := []
              options := none })

/-- The settings of a run. -/
def settings (surroundings : Surroundings) (options : Options) (file : Path)
    : Except String Settings :=
  match options.server with
  | some command => givenSettings surroundings options command file
  | none => userSettings surroundings

/-- Launch a server on the machine. -/
def launch (surroundings : Surroundings) (settings : Settings) (name : String)
    (server : ServerSettings) (root : Option Path)
    : Except ClientError ServerProcess :=
  let logs := (dataDirectory surroundings).join (Text.bytes "logs")
  let process := ServerProcess.fresh surroundings.machine
    { ProcessSettings.ofServer logs name server settings with directory := root }
  match process.start with
  | (process, .ok ()) => .ok process
  | (_, .error error) => .error error

/-- The workspace of a run, before anything is done. -/
def space (surroundings : Surroundings) (settings : Settings) : Space :=
  let machine := surroundings.machine
  .fresh
    { launch := launch surroundings settings
      fileExists := machine.files.fileExists machine.here
      processId := surroundings.processId }
    settings none

/-- The time that was spent waiting before restarts. -/
def waited (space : Space) : Nat :=
  space.servers.entries.foldl (fun sum (_, server) =>
    sum + server.connection.transport.waited) 0

/-- The report of a server that was given up, if there is one among the events. -/
def stopped? (events : List Event) : Option String :=
  events.findSome? fun
    | .stopped server (.failed reason) =>
        some ("language server '" ++ server ++ "' stopped: " ++ reason)
    | _ => none

/-- What is said when the time is up. -/
def timedOut : String := "timed out waiting for the language server"

/-- Handle messages in rounds until `done?` finds what it looks for. The time is up when so many
milliseconds have passed, or when nothing moves any more. -/
def await {α : Type} (deadline : Nat) (done? : Space → List Event → Option α)
    : Nat → Nat → Space → Space × Nat × Except String α
  | 0, elapsed, space => (space, elapsed, .error timedOut)
  | rounds + 1, elapsed, space =>
      if deadline ≤ elapsed + waited space then (space, elapsed, .error timedOut)
      else
        let (space, count) := space.poll roundBudget
        let (space, events) := space.takeEvents
        match stopped? events, done? space events with
        | some text, _ => (space, elapsed, .error text)
        | none, some found => (space, elapsed, .ok found)
        | none, none =>
            if count = 0 && events.isEmpty then (space, elapsed, .error timedOut)
            else await deadline done? rounds (elapsed + roundTime) space

/-- The rounds until a deadline. -/
def rounds (deadline : Nat) : Nat :=
  deadline / roundTime + 1

/-- Read a file and open it, and answer its URI. -/
def openFile (machine : Machine) (space : Space) (file : Path) : Space × Except String String :=
  match (machine.files.place? [] file).bind machine.files.content? |>.bind Text.string? with
  | none => (space, .error ("Failed to read " ++ file.display))
  | some text =>
      match space.openDocument file text with
      | (space, .ok (some uri)) => (space, .ok uri)
      | (space, .ok none) =>
          (space, .error ("no language server configured for " ++ file.display))
      | (space, .error error) => (space, .error error.message)

/-- Whether a document has new diagnostics. -/
def published (uri : String) (events : List Event) : Option Unit :=
  if events.any fun
    | .diagnostics of _ => of = uri
    | _ => false
  then some () else none

/-- The diagnostics of a file. -/
def reportDiagnostics (space : Space) (file : Path) (uri : String) : Report :=
  let found := (space.diagnostics.get? uri).getD []
  let snapshot := space.diagnostics.snapshot
  { code := if found.any (·.severity = .error) then 1 else 0
    out := String.join (found.map fun diagnostic => diagnostic.display file.display ++ "\n")
    complaints := if snapshot.files.isEmpty then "" else snapshot.status ++ "\n" }

/-- Show the diagnostics of a file. -/
def check (machine : Machine) (space : Space) (file : Path) (deadline : Nat) : Report :=
  match openFile machine space file with
  | (_, .error text) => failure text
  | (space, .ok uri) =>
      match await deadline (fun _ events => published uri events) (rounds deadline) 0 space with
      | (_, _, .error text) => failure text
      | (space, _, .ok ()) => reportDiagnostics space file uri

/-- The hover that was answered. -/
def reportHover : Except ClientError Reply.Answer → Report
  | .ok (.hover (some hover)) => ⟨0, hover.text ++ "\n", ""⟩
  | .ok _ => ⟨1, "", "no hover information\n"⟩
  | .error error => failure error.message

/-- Show the hover at a place of a file. -/
def hover (machine : Machine) (space : Space) (file : Path) (position : Position) (deadline : Nat)
    : Report :=
  match openFile machine space file with
  | (_, .error text) => failure text
  | (space, .ok _) =>
      let ready (space : Space) (_ : List Event) : Option Unit :=
        if space.isReady file then some () else none
      match await deadline ready (rounds deadline) 0 space with
      | (_, _, .error text) => failure text
      | (space, elapsed, .ok ()) =>
          match space.ask file (.hover position) () with
          | (_, .error error) => failure error.message
          | (space, .ok _) =>
              let answered (space : Space) (_ : List Event)
                  : Option (Except ClientError Reply.Answer) :=
                space.answers.head?.map (·.2)
              match await deadline answered (rounds deadline) elapsed space with
              | (_, _, .error text) => failure text
              | (_, _, .ok answer) => reportHover answer

/-- Do a task. -/
def perform (surroundings : Surroundings) (options : Options) (task : Task) : Report :=
  let machine := surroundings.machine
  match (machine.files.place? machine.here task.file).filter machine.files.hasPlace with
  | none => failure ("Cannot open " ++ task.file.display)
  | some place =>
      let file := pathOf place
      match settings surroundings options file with
      | .error text => failure text
      | .ok settings =>
          let deadline := options.timeout.getD Options.usualTimeout * 1000
          match task with
          | .check _ => check machine (space surroundings settings) file deadline
          | .hover _ line column =>
              hover machine (space surroundings settings) file ⟨line - 1, column - 1⟩ deadline

/-- Lines of text. -/
def lines (texts : List String) : String :=
  String.join (texts.map (· ++ "\n"))

/-- What every command can be told. -/
def optionLines : List String :=
  ["Options:",
    "      --server <SERVER>      Use this server command instead of the configured servers",
    "      --language <LANGUAGE>  "
      ++ "Language identifier for `--server` (defaults to the file extension)",
    "      --timeout <TIMEOUT>    Seconds to wait for the server [default: 30]",
    "  -h, --help                 Print help"]

/-- Help on all commands. -/
def generalHelp : List String :=
  ["Query a language server from the command line",
    "",
    "Usage: quill [OPTIONS] <COMMAND>",
    "",
    "Commands:",
    "  check  Print the diagnostics published for a file",
    "  hover  Print hover information at a position",
    "  help   Print this message or the help of the given subcommand(s)",
    ""]
  ++ optionLines
  ++ ["  -V, --version              Print version"]

/-- Help on a command. Columns of names are as wide as the longest name. -/
def help (command : Option String) : String :=
  match command with
  | some "check" =>
      lines (["Print the diagnostics published for a file", "",
        "Usage: quill check [OPTIONS] <FILE>", "",
        "Arguments:", "  <FILE>  ", ""] ++ optionLines)
  | some "hover" =>
      lines (["Print hover information at a position", "",
        "Usage: quill hover [OPTIONS] <FILE> <LINE> <COL>", "",
        "Arguments:", "  <FILE>  ", "  <LINE>  ", "  <COL>   ", ""] ++ optionLines)
  | some "help" =>
      lines ["Print this message or the help of the given subcommand(s)", "",
        "Usage: quill help [COMMAND]...", "",
        "Arguments:", "  [COMMAND]...  Print help for the subcommand(s)"]
  | _ => lines generalHelp

/-- Run the command line. -/
def run (surroundings : Surroundings) (arguments : List String) : Report :=
  match Request.ofArguments arguments with
  | .run options task => perform surroundings options task
  | .version => ⟨0, Message.clientName ++ " " ++ Message.clientVersion ++ "\n", ""⟩
  | .help command => ⟨0, help command, ""⟩
  | .misuse => ⟨2, "", help none⟩

end LanguageClient.CommandLine
