/-!
Paths in URIs as lists of segments. Segments of one dot vanish, and a segment of two dots takes
the segment before it away, down to the root or to the letter of a drive.
-/

namespace LanguageClient.Uri

/-- A segment of a path. -/
abbrev Segment := List Char

/-- The spellings of a dot. -/
def dots : List Segment :=
  [['.'], ['%', '2', 'e'], ['%', '2', 'E']]

/-- Whether a segment stays where it is. -/
def isHere (segment : Segment) : Bool :=
  dots.contains segment

/-- Whether a segment goes one segment up. -/
def isUp (segment : Segment) : Bool :=
  dots.any fun first => dots.any fun second => segment = first ++ second

/-- Whether a segment is the letter of a drive, in either spelling. -/
def isDrive : Segment → Bool
  | [letter, mark] => letter.isAlpha && (mark = ':' || mark = '|')
  | _ => false

/-- Whether a segment starts with the letter of a drive, after which it ends or a backslash
follows. -/
def startsWithDrive : Segment → Bool
  | letter :: mark :: rest => isDrive [letter, mark] && (rest.isEmpty || rest.head? = some '\\')
  | _ => false

/-- A drive in its usual spelling. -/
def usualDrive (segment : Segment) : Segment :=
  segment.take 1 ++ [':']

/-- The segments without the last one, unless only the root would be lost or it starts with a
drive. The last segment comes first. -/
def shorten : List Segment → List Segment
  | last :: before => if before.isEmpty || startsWithDrive last then last :: before else before
  | [] => []

/-- The segments of a path after its dots are resolved, and whether it starts with a drive. -/
structure Resolved where
  segments : List Segment
  drive : Bool

/-- Resolve the dots of the segments that follow those in `done`, of which the last comes first.
Where `drives` is true, a drive right below the root is spelled in the usual way. -/
def resolve (drives : Bool) (done : List Segment) : List Segment → Resolved
  | [] => ⟨done.reverse, false⟩
  | segment :: rest =>
      if isUp segment then
        let kept := shorten done
        resolve drives (if rest.isEmpty then [] :: kept else kept) rest
      else if isHere segment then
        resolve drives (if rest.isEmpty then [] :: done else done) rest
      else if drives && done = [[]] && isDrive segment then
        { resolve drives (usualDrive segment :: done) rest with drive := true }
      else resolve drives (segment :: done) rest

/-- The text of a path. -/
def pathText (segments : List Segment) : List Char :=
  List.intercalate ['/'] segments

end LanguageClient.Uri
