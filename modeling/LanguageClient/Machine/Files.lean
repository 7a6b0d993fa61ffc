import LanguageClient.Path

/-!
Files in memory. A place is named by the segments that lead to it from the root; every place above
a file is a directory.
-/

namespace LanguageClient.Machine

/-- A place, by the segments that lead to it from the root. -/
abbrev Place := List Bytes

/-- Files and directories in memory. -/
structure Files where
  /-- The files, each place once, with what they hold. -/
  files : List (Place × Bytes)
  /-- Directories that were made; those above files need not be listed. -/
  directories : List Place
deriving Repr, Inhabited

/-- Why a path names no place. -/
inductive Obstacle where
  /-- A directory on the way is not there. -/
  | missing
  /-- Something on the way is no directory, or the path cannot be followed at all. -/
  | blocked
deriving DecidableEq, Repr

namespace Files

/-- No files and no directories but the root. -/
def empty : Files := ⟨[], []⟩

/-- What a place holds, if it is a file. -/
def content? (files : Files) (place : Place) : Option Bytes :=
  files.files.lookup place

/-- Whether a place is a directory. -/
def isDirectory (files : Files) (place : Place) : Bool :=
  place.isEmpty
    || files.directories.any place.isPrefixOf
    || files.files.any fun (file, _) => place.isPrefixOf file && place ≠ file

/-- Whether there is anything at a place. -/
def hasPlace (files : Files) (place : Place) : Bool :=
  (files.content? place).isSome || files.isDirectory place

/-- The length of the longest name, in bytes. -/
def longestName : Nat := 255

/-- The length of the longest path that is followed, in bytes. -/
def longestPath : Nat := 4095

/-- The place that segments lead to from a directory. Each segment but the last must lead to a
directory. -/
def follow (files : Files) (place : Place) : List Bytes → Except Obstacle Place
  | [] => .ok place
  | name :: rest =>
      if ! files.isDirectory place then
        .error (if (files.content? place).isSome then .blocked else .missing)
      else if longestName < name.length then .error .blocked
      else if name = [Path.dot, Path.dot] then files.follow place.dropLast rest
      else files.follow (place ++ [name]) rest

/-- The place that a path names, read inside the directory `here`. A path that ends in a slash or a
dot names a directory. -/
def place (files : Files) (here : Place) (path : Path) : Except Obstacle Place :=
  if path.isEmpty then .error .missing
  else if path.contains 0 || longestPath < path.length then .error .blocked
  else
    match files.follow (if path.isAbsolute then [] else here) path.names with
    | .ok place =>
        if (Path.segments path).getLast?.any Path.isSkipped && ! files.isDirectory place then
          .error (if (files.content? place).isSome then .blocked else .missing)
        else .ok place
    | .error obstacle => .error obstacle

/-- The place that a path names, if it leads anywhere. -/
def place? (files : Files) (here : Place) (path : Path) : Option Place :=
  (files.place here path).toOption

/-- Whether a path names something. -/
def fileExists (files : Files) (here : Place) (path : Path) : Bool :=
  (files.place? here path).any files.hasPlace

/-- Put a file at a place, or replace the one that is there. -/
def write (files : Files) (place : Place) (content : Bytes) : Files :=
  { files with files := (place, content) :: files.files.filter (·.1 ≠ place) }

/-- Take a file away. The directory that held it stays. -/
def remove (files : Files) (place : Place) : Files :=
  { files := files.files.filter (·.1 ≠ place)
    directories := place.dropLast :: files.directories }

/-- Make the directory that a path names. The one above it must be there, and the place must be
free. -/
def makeDirectory (files : Files) (here : Place) (path : Path) : Except Obstacle Files :=
  match files.place here path with
  | .ok place =>
      if files.hasPlace place then .error .blocked
      else .ok { files with directories := place :: files.directories }
  | .error obstacle => .error obstacle

/-- Whether a path names a directory. -/
def namesDirectory (files : Files) (here : Place) (path : Path) : Bool :=
  (files.place? here path).any files.isDirectory

/-- Make the first of these directories, each of which is the one above the one before it, and those
above it as far as they are missing; and whether it is there in the end. A step upward leads through
the directory before it, which is made too. -/
def makeDirectories (files : Files) (here : Place) : List Path → Files × Bool
  | [] => (files, false)
  | path :: above =>
      if path.isEmpty then (files, true)
      else
        match files.makeDirectory here path with
        | .ok files => (files, true)
        | .error .blocked => (files, files.namesDirectory here path)
        | .error .missing =>
            match files.makeDirectories here above with
            | (files, true) =>
                match files.makeDirectory here path with
                | .ok files => (files, true)
                | .error _ => (files, files.namesDirectory here path)
            | (files, false) => (files, false)

end Files

end LanguageClient.Machine
