import LanguageClient.Text.Utf8

/-!
Patterns for the names of files. A pattern is a sequence of pieces; a name matches if the pieces
can take its bytes one after the other and nothing remains. A question mark takes one byte, a star
takes any number of them, slashes too.
-/

namespace LanguageClient

/-- A piece of a pattern. -/
inductive FilePattern.Piece where
  /-- This character. -/
  | literal (c : Char)
  /-- One byte. -/
  | any
  /-- Any number of bytes. -/
  | many
  /-- Nothing, or bytes up to a slash: two stars where the pattern starts. -/
  | leading
  /-- A slash and any bytes after it: two stars where the pattern ends. -/
  | trailing
  /-- A slash, or two of them with any bytes between: two stars between slashes. -/
  | between
  /-- One byte of those in the ranges, or of those outside. -/
  | oneOf (negated : Bool) (ranges : List (Char × Char))
  /-- What one of the branches takes. -/
  | alternatives (branches : List (List FilePattern.Piece))
deriving Repr, Inhabited

/-- A pattern for the names of files. -/
structure FilePattern where
  pieces : List FilePattern.Piece
deriving Repr, Inhabited

namespace FilePattern

/-- The byte between directories. -/
def slash : UInt8 := 0x2F

/-- The text after a start, where it has that start. -/
def after? : Bytes → Bytes → Option Bytes
  | [], text => some text
  | b :: start, c :: text => if b = c then after? start text else none
  | _ :: _, [] => none

/-- Every end of a text, the text itself and the empty one included. -/
def ends : Bytes → List Bytes
  | [] => [[]]
  | b :: rest => (b :: rest) :: ends rest

/-- What follows each slash of a text. -/
def afterSlashes : Bytes → List Bytes
  | [] => []
  | b :: rest => if b = slash then rest :: afterSlashes rest else afterSlashes rest

/-- The bytes of a range of characters. A range of characters of several bytes stands for the
bytes of both characters and for those between the last byte of the lower and the first byte of
the upper one. -/
def rangeHolds (range : Char × Char) (b : UInt8) : Bool :=
  let low := Text.encode [range.1]
  let high := Text.encode [range.2]
  low.contains b || high.contains b ||
    (range.1 ≠ range.2 && match low.getLast?, high.head? with
      | some first, some last => first ≤ b && b ≤ last
      | _, _ => false)

/-- What remains of texts, each once. -/
def collect (found : List Bytes) : List Bytes :=
  found.eraseDups

mutual

/-- Whether a piece is a group in which nothing is written. -/
def Piece.isVoid : Piece → Bool
  | .alternatives branches => areVoid branches
  | _ => false

/-- Whether nothing is written in a branch. -/
def isVoidBranch : List Piece → Bool
  | [] => true
  | piece :: pieces => piece.isVoid && isVoidBranch pieces

/-- Whether nothing is written in any branch. -/
def areVoid : List (List Piece) → Bool
  | [] => true
  | branch :: branches => isVoidBranch branch && areVoid branches

end

mutual

/-- What can remain of a text after a piece has taken its part. -/
def Piece.rests : Piece → Bytes → List Bytes
  | .literal c, text => (after? (Text.encode [c]) text).toList
  | .any, text => (text.tail?).toList
  | .many, text => ends text
  | .leading, text => text :: afterSlashes text
  | .trailing, text =>
      match text with
      | b :: rest => if b = slash then ends rest else []
      | [] => []
  | .between, text =>
      match text with
      | b :: rest => if b = slash then rest :: afterSlashes rest else []
      | [] => []
  | .oneOf negated ranges, text =>
      match text with
      | b :: rest => if ranges.any (rangeHolds · b) ≠ negated then [rest] else []
      | [] => []
  | .alternatives branches, text =>
      if areVoid branches then [text] else branchRests branches text

/-- What can remain of one of these texts after pieces have taken their parts in turn. -/
def pieceRests : List Piece → List Bytes → List Bytes
  | [], texts => texts
  | piece :: pieces, texts => pieceRests pieces (collect (texts.flatMap piece.rests))

/-- What can remain of a text after one of the branches has taken its part. A branch in which
nothing is written does not count. -/
def branchRests : List (List Piece) → Bytes → List Bytes
  | [], _ => []
  | branch :: branches, text =>
      (if isVoidBranch branch then [] else pieceRests branch [text]) ++ branchRests branches text

end

/-- How large the written form of pieces is: how many parts stand side by side, and how many levels
the deepest of them has. -/
structure Extent where
  parts : Nat
  depth : Nat
deriving DecidableEq, Repr

namespace Extent

/-- Nothing written. -/
def nothing : Extent := ⟨0, 0⟩

/-- Parts side by side with others. -/
def beside (extent other : Extent) : Extent :=
  ⟨extent.parts + other.parts, max extent.depth other.depth⟩

/-- The levels of parts side by side: several of them are one level more than the deepest. -/
def levels (extent : Extent) : Nat :=
  if extent.parts ≤ 1 then extent.depth else extent.depth + 1

end Extent

/-- The bytes of a character. -/
def byteCount (c : Char) : Nat :=
  (Text.encode [c]).length

/-- How many parts a range of characters has in a class. -/
def rangeParts (range : Char × Char) : Nat :=
  if range.1 = range.2 then byteCount range.1 else byteCount range.1 + byteCount range.2 - 1

mutual

/-- The extent of a piece. A star is a level, a class is one or two, two stars between slashes are
four, and a group is one around its branches. -/
def Piece.extent : Piece → Extent
  | .literal c => ⟨byteCount c, 0⟩
  | .any => ⟨1, 0⟩
  | .many => ⟨1, 1⟩
  | .leading | .between => ⟨1, 4⟩
  | .trailing => ⟨2, 1⟩
  | .oneOf _ ranges =>
      ⟨1, if (ranges.foldl (fun count range => count + rangeParts range) 0) ≤ 1 then 1 else 2⟩
  | .alternatives branches =>
      if areVoid branches then .nothing else ⟨1, (branchesExtent branches).levels + 1⟩

/-- The extent of pieces in turn. -/
def piecesExtent : List Piece → Extent
  | [] => .nothing
  | piece :: pieces => piece.extent.beside (piecesExtent pieces)

/-- The extent of branches, of which those in which nothing is written do not count. -/
def branchesExtent : List (List Piece) → Extent
  | [] => .nothing
  | branch :: branches =>
      if isVoidBranch branch then branchesExtent branches
      else Extent.beside ⟨1, (piecesExtent branch).levels⟩ (branchesExtent branches)

end

/-- How many levels a pattern may have. -/
def greatestDepth : Nat := 250

/-- Whether a pattern can be used: it does not have too many levels, of which the whole is one. -/
def isUsable (pattern : FilePattern) : Bool :=
  (piecesExtent pattern.pieces).depth + 1 ≤ greatestDepth

/-- Whether a name matches a pattern. Two stars alone match every name. -/
def isMatch (pattern : FilePattern) (name : Bytes) : Bool :=
  match pattern.pieces with
  | [.leading] => true
  | pieces => (pieceRests pieces [name]).contains []

end FilePattern

end LanguageClient
