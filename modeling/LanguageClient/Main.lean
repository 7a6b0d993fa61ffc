import LanguageClient.CommandLine.Run
import LanguageClient.Machine.Shell

/-!
The command line program: it takes a picture of the files that a run needs, runs on it, and prints
the report.
-/

namespace LanguageClient.CommandLine

/-- The content of a file, if it can be read. -/
def readFile? (path : String) : IO (Option Bytes) := do
  try
    let content ← IO.FS.readBinFile path
    return some content.toList
  catch _ => return none

/-- A picture of files, at places below a directory. -/
def picture (here : Machine.Place) (paths : List String) : IO Machine.Files := do
  let mut files := Machine.Files.empty
  for path in paths do
    if let some content ← readFile? path then
      let bytes := Text.bytes path
      let above := if Path.isAbsolute bytes then [] else here
      files := files.write (above ++ Path.names bytes) content
  return files

/-- The values of the variables that texts refer to. -/
def environment (texts : List String) : IO (Table String) := do
  let mut values := Table.empty
  for name in "HOME" :: texts.flatMap fun text => Environment.names text.toList do
    if let some value ← IO.getEnv name then
      values := values.insert name value
  return values

/-- The paths of the files that a run needs. -/
def neededPaths (home : String) (arguments : List String) : List String :=
  let target := match Request.ofArguments arguments with
    | .run _ task => [Path.display task.file]
    | _ => []
  (home ++ "/.quill/config.toml") :: target

end LanguageClient.CommandLine

open LanguageClient CommandLine in
def main (arguments : List String) : IO UInt32 := do
  let here := Path.names (Text.bytes (← IO.currentDir).toString)
  let home := (← IO.getEnv "HOME").getD ""
  let files ← picture here (neededPaths home arguments)
  let texts := files.files.map fun (_, content) => Text.stringLossy content
  let values ← environment (arguments ++ texts)
  let report := run
    { machine := { files, here, program? := Machine.Shell.program?, clock := "" }
      value? := values.get?
      processId := 0 }
    arguments
  IO.print report.out
  IO.eprint report.complaints
  return UInt32.ofNat report.code
