import LanguageClient.Machine.Files

/-!
A machine in memory: files, and programs that can be started. A program is a function from what it
has been given to what it has written so far, so a program that reads is as simple to follow as one
that only writes.
-/

namespace LanguageClient.Machine

/-- What a program has written, and whether it has ended. -/
structure Output where
  out : Bytes
  /-- What was written as complaints. -/
  complaints : Bytes
  ended : Bool
deriving DecidableEq, Repr

/-- A program that was started: from its input so far to its output so far. -/
abbrev Program := Bytes → Output

/-- Longest file of complaints that is continued: 1 MiB. -/
def longestLog : Nat := 1024 * 1024

/-- The place for a file of complaints that has become too long. -/
def rotated (place : Place) : Place :=
  place.dropLast ++ [(place.getLast?.getD []) ++ Text.bytes ".1"]

/-- Devices take what is written to them and keep nothing. -/
def isDevice (place : Place) : Bool :=
  place.head? = some (Text.bytes "dev")

namespace Files

/-- Put a file that has become too long out of the way. Where that fails it stays. -/
def rotate (files : Files) (place : Place) : Files :=
  match files.content? place with
  | some content =>
      if longestLog < content.length && ! files.isDirectory (rotated place)
          && ((rotated place).getLast?.all fun name => name.length ≤ longestName) then
        (files.remove place).write (rotated place) content
      else files
  | none => files

/-- Make the file that a path names ready for complaints, with the directories above it. There is no
place for complaints where that fails. -/
def openLog (files : Files) (path : Path) : Files × Option Place :=
  let above := path.parents
  let (files, ready) := if above.isEmpty then (files, true) else files.makeDirectories [] above
  match files.place? [] path, ready with
  | some place, true =>
      if isDevice place || files.isDirectory place then (files, none)
      else
        let files := files.rotate place
        (files.write place ((files.content? place).getD []), some place)
  | _, _ => (files, none)

/-- Add to a file. -/
def append (files : Files) (place : Place) (content : Bytes) : Files :=
  files.write place ((files.content? place).getD [] ++ content)

end Files

end LanguageClient.Machine

namespace LanguageClient

/-- A machine in memory. -/
structure Machine where
  files : Machine.Files
  /-- The directory in which paths are read. -/
  here : Machine.Place
  /-- The program that a command and its arguments start, if there is such a command. -/
  program? : String → List String → Option Machine.Program
  /-- How the machine tells the time. -/
  clock : String

end LanguageClient
