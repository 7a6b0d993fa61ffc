import LanguageClient.Uri.Basic
import LanguageClient.Path

/-!
URIs of files. A path from the root has a URI, whose segments are those of the path,
percent-encoded; a URI on this machine has a path.
-/

namespace LanguageClient.Uri

/-- The URI of a path from the root. -/
def ofPath? (path : Path) : Option String :=
  if path.isAbsolute then
    let names := path.names
    let text := if names.isEmpty then ['/'] else names.flatMap fun name => '/' :: encodeSegment name
    some (String.ofList ("file://".toList ++ text))
  else none

/-- A path that ends in the letter of a drive gets a slash after it. -/
def closeDrive (path : Path) : Path :=
  match path.reverse with
  | mark :: letter :: _ :: _ =>
      if (mark = 0x3A || mark = 0x7C) && (Char.ofNat letter.toNat).isAlpha then path ++ [Path.slash]
      else path
  | _ => path

/-- The path of a file on this machine. -/
def filePath? (uri : Uri) : Option Path :=
  if uri.host = .absent || uri.host = Host.loopback then
    uri.path.map fun path => closeDrive (decode (Text.encode path))
  else none

/-- The path that the text of a URI stands for, if it names a file on this machine. -/
def toPath? (uri : String) : Option Path :=
  (parse? uri).bind filePath?

end LanguageClient.Uri
