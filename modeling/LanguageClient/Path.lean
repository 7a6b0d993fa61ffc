import LanguageClient.Text.Utf8

/-!
Paths of files: sequences of bytes in which slashes separate segments. Empty segments and
segments of one dot are skipped, so several spellings name one place; the operations here keep
the spelling of what they do not remove.
-/

namespace LanguageClient

/-- A path, as it is written. -/
abbrev Path := Bytes

namespace Path

/-- The byte between segments. -/
def slash : UInt8 := 0x2F

/-- The byte before an extension. -/
def dot : UInt8 := 0x2E

/-- The segments between slashes. -/
def segments : Path → List Bytes
  | [] => [[]]
  | b :: rest =>
      if b = slash then [] :: segments rest
      else match segments rest with
        | first :: others => (b :: first) :: others
        | [] => [[b]]

/-- Segments with slashes between them. -/
def ofSegments (segments : List Bytes) : Path :=
  List.intercalate [slash] segments

/-- Whether a path starts at the root. -/
def isAbsolute (path : Path) : Bool :=
  path.head? = some slash

/-- Whether a segment names no place of its own. -/
def isSkipped (segment : Bytes) : Bool :=
  segment = [] || segment = [dot]

/-- The segments that name places, in order, below the root or below where a relative path
starts. -/
def names (path : Path) : List Bytes :=
  (segments path).filter (! isSkipped ·)

/-- What stands before the segments: the root, the dot that a relative path starts with, or
nothing; and the rest. -/
def lead (path : Path) : Bytes × Bytes :=
  match path with
  | b :: rest =>
      if b = slash then ([b], rest)
      else if b = dot && (rest = [] || rest.head? = some slash) then ([b], rest)
      else ([], path)
  | [] => ([], [])

/-- The segments of a path from the last one on, without those skipped at the end. -/
def lastFirst (path : Path) : List Bytes :=
  (segments (lead path).2).reverse.dropWhile isSkipped

/-- The paths above a path with this lead and these segments, of which the last comes first. -/
def above (lead : Bytes) : List Bytes → List Path
  | [] => if lead = [dot] then [[]] else []
  | _ :: rest =>
      let kept := rest.dropWhile isSkipped
      (lead ++ ofSegments kept.reverse) :: above lead kept
termination_by segments => segments.length
decreasing_by exact Nat.lt_succ_of_le (List.dropWhile_suffix _).length_le

/-- The directories above a path, nearest first. -/
def parents (path : Path) : List Path :=
  above (lead path).1 (lastFirst path)

/-- The name of a file in its directory. A path that ends in a step upward has none. -/
def fileName? (path : Path) : Option Bytes :=
  match lastFirst path with
  | name :: _ => if name = [dot, dot] then none else some name
  | [] => none

/-- The part of a file's name after its last dot. A dot at the start of the name does not
count. -/
def extensionBytes? (path : Path) : Option Bytes := do
  let name ← fileName? path
  let after := (name.reverse.takeWhile (· ≠ dot)).reverse
  if after.length + 1 < name.length then some after else none

/-- The extension as text; an extension that is not UTF-8 counts as none. -/
def extension? (path : Path) : Option String :=
  (extensionBytes? path).bind Text.string?

/-- The place that a path names when it is read inside a directory. -/
def join (directory inside : Path) : Path :=
  if isAbsolute inside || directory = [] then inside
  else if directory.getLast? = some slash then directory ++ inside
  else directory ++ slash :: inside

/-- The path as text, with U+FFFD for what is not UTF-8. -/
def display (path : Path) : String :=
  Text.stringLossy path

end Path

end LanguageClient
