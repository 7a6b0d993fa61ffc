import LanguageClient.FilePattern.Parser
import LanguageClient.Path
import LanguageClient.Settings.Basic

/-!
Which server serves a file. The extension of the file decides before its name; of several servers
the one with the least name serves.
-/

namespace LanguageClient

/-- The patterns of a server that can be read. One among them that cannot be used spoils them
all. -/
def ServerSettings.filePatterns (server : ServerSettings) : List FilePattern :=
  let patterns := server.patterns.filterMap FilePattern.ofString?
  if patterns.all FilePattern.isUsable then patterns else []

namespace Settings

/-- The least server that lists an extension. -/
def serverForExtension? (settings : Settings) (extension : String) : Option String :=
  (settings.servers.entries.find? fun (_, server) => server.extensions.contains extension).map (·.1)

/-- The least server with a pattern that matches a file's name. -/
def serverForName? (settings : Settings) (name : Bytes) : Option String :=
  (settings.servers.entries.find? fun (_, server) =>
    server.filePatterns.any (·.isMatch name)).map (·.1)

/-- The server that serves a file. -/
def serverForPath? (settings : Settings) (path : Path) : Option String :=
  if settings.enabled then
    (path.extension?.bind settings.serverForExtension?).or
      (path.fileName?.bind settings.serverForName?)
  else none

/-- The nearest directory above a file in which one of the marked files exists. -/
def findRoot? (fileExists : Path → Bool) (markers : List String) (path : Path) : Option Path :=
  path.parents.find? fun directory =>
    markers.any fun marker => fileExists (directory.join (Text.bytes marker))

end Settings

end LanguageClient
