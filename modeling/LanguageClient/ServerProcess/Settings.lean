import LanguageClient.Path
import LanguageClient.Settings.Basic

/-!
How the process of a server is run.
-/

namespace LanguageClient

/-- How a process is run. -/
structure ProcessSettings where
  name : String
  command : String
  args : List String
  /-- The directory in which the process starts, where it is given. -/
  directory : Option Path
  maxRestarts : Nat
  restartDelay : Nat
  messageLimit : Nat
  /-- Where the process's complaints are kept. -/
  log : Option Path
deriving Repr

namespace ProcessSettings

/-- Characters of a server's name that may stand in the name of a file. -/
def isLogChar (c : Char) : Bool :=
  c.isAlphanum || c = '-' || c = '_'

/-- The name of the file for the complaints of a server. -/
def logName (server : String) : String :=
  String.ofList (server.toList.map fun c => if isLogChar c then c else '_') ++ "-stderr.log"

/-- How the process of a server is run by a client with these settings that keeps complaints in the
directory `logs`. -/
def ofServer (logs : Path) (name : String) (server : ServerSettings) (settings : Settings)
    : ProcessSettings :=
  { name
    command := server.command
    args := server.args
    directory := none
    maxRestarts := settings.maxRestarts
    restartDelay := settings.restartDelay
    messageLimit := settings.messageLimit
    log := some (logs.join (Text.bytes (logName name))) }

end ProcessSettings

end LanguageClient
