import LanguageClient.FilePattern.Basic

/-!
Reading patterns. Brackets hold a class of characters, which starts with an exclamation mark or a
caret if the characters outside are meant; braces hold branches between commas; a backslash takes
the meaning away from the next character. Brackets and braces that stay open, a brace that closes
nothing, a range of characters in the wrong order and a backslash at the end are errors.
-/

namespace LanguageClient.FilePattern

/-- A group that is open: the branches before the current one, last first, and the pieces before
the group, last first. -/
structure Group where
  branches : List (List Piece)
  before : List Piece

/-- A pattern that is being read: the pieces of the current branch, last first, and the groups that
are open, innermost first. -/
structure Draft where
  pieces : List Piece
  groups : List Group

namespace Draft

/-- A draft with nothing in it. -/
def empty : Draft := ⟨[], []⟩

/-- Add a piece to the current branch. -/
def push (draft : Draft) (piece : Piece) : Draft :=
  { draft with pieces := piece :: draft.pieces }

/-- Start a group. -/
def openGroup (draft : Draft) : Draft :=
  ⟨[], ⟨[], draft.pieces⟩ :: draft.groups⟩

/-- End the innermost group. -/
def closeGroup? (draft : Draft) : Option Draft :=
  match draft.groups with
  | group :: groups =>
      let branches := (draft.pieces.reverse :: group.branches).reverse
      some ⟨.alternatives branches :: group.before, groups⟩
  | [] => none

/-- A comma: in a group, the next branch. -/
def comma (draft : Draft) : Draft :=
  match draft.groups with
  | group :: groups =>
      ⟨[], { group with branches := draft.pieces.reverse :: group.branches } :: groups⟩
  | [] => draft.push (.literal ',')

/-- Put two stars next to a slash in the place of the last piece, unless that stands for two stars
at an end already. -/
def replaceLast (draft : Draft) (piece : Piece) : Draft :=
  match draft.pieces with
  | .leading :: _ | .trailing :: _ => draft
  | _ :: pieces => { draft with pieces := piece :: pieces }
  | [] => draft

/-- Whether two stars after this character may stand for directories. -/
def mayCross (draft : Draft) (before : Option Char) : Bool :=
  before = some '/' ||
    (! draft.groups.isEmpty && (before = some ',' || before = some '{'))

/-- The pattern, if no group is open. -/
def finish? (draft : Draft) : Option FilePattern :=
  if draft.groups.isEmpty then some ⟨draft.pieces.reverse⟩ else none

end Draft

/-- A class of characters that is being read. -/
structure ClassDraft where
  negated : Bool
  /-- The ranges so far, last first. -/
  ranges : List (Char × Char)
  /-- A dash was read that may continue the last range. -/
  dash : Bool

namespace ClassDraft

/-- Add a character. It ends a range after a dash, which it may not precede in order. -/
def add? (draft : ClassDraft) (c : Char) : Option ClassDraft :=
  match draft.dash, draft.ranges with
  | true, (low, _) :: ranges =>
      if c < low then none else some { draft with ranges := (low, c) :: ranges, dash := false }
  | _, ranges => some { draft with ranges := (c, c) :: ranges, dash := false }

/-- Add a dash: the first character of a class, the end of a range, or the middle of one. -/
def addDash? (draft : ClassDraft) : Option ClassDraft :=
  if draft.ranges.isEmpty || draft.dash then draft.add? '-' else some { draft with dash := true }

/-- The class. A dash at its end stands for itself. -/
def piece (draft : ClassDraft) : Piece :=
  let ranges := if draft.dash then ('-', '-') :: draft.ranges else draft.ranges
  .oneOf draft.negated ranges.reverse

end ClassDraft

mutual

/-- Read the rest of a pattern. `before` is the character before it. -/
def read? (draft : Draft) (before : Option Char) : List Char → Option FilePattern
  | [] => draft.finish?
  | '*' :: '*' :: rest => readStars? draft before rest
  | '*' :: rest => read? (draft.push .many) (some '*') rest
  | '?' :: rest => read? (draft.push .any) (some '?') rest
  | '[' :: '!' :: rest | '[' :: '^' :: rest => readClass? draft ⟨true, [], false⟩ rest
  | '[' :: rest => readClass? draft ⟨false, [], false⟩ rest
  | '\x7b' :: rest => read? draft.openGroup (some '\x7b') rest
  | '\x7d' :: rest => draft.closeGroup?.bind fun closed => read? closed (some '\x7d') rest
  | ',' :: rest => read? draft.comma (some ',') rest
  | ['\\'] => none
  | '\\' :: c :: rest => read? (draft.push (.literal c)) (some c) rest
  | c :: rest => read? (draft.push (.literal c)) (some c) rest

/-- Read what follows two stars. Only between slashes or ends they stand for directories. -/
def readStars? (draft : Draft) (before : Option Char) : List Char → Option FilePattern
  | [] =>
      if draft.pieces.isEmpty then (draft.push .leading).finish?
      else if draft.mayCross before then (draft.replaceLast .trailing).finish?
      else ((draft.push .many).push .many).finish?
  | '/' :: rest =>
      if draft.pieces.isEmpty then read? (draft.push .leading) (some '/') rest
      else if draft.mayCross before then read? (draft.replaceLast .between) (some '/') rest
      else read? (((draft.push .many).push .many).push (.literal '/')) (some '/') rest
  | ',' :: rest =>
      if ! draft.pieces.isEmpty && draft.mayCross before && ! draft.groups.isEmpty then
        read? (draft.replaceLast .trailing).comma (some ',') rest
      else read? ((draft.push .many).push .many).comma (some ',') rest
  | '\x7d' :: rest =>
      let stars :=
        if ! draft.pieces.isEmpty && draft.mayCross before && ! draft.groups.isEmpty then
          draft.replaceLast .trailing
        else (draft.push .many).push .many
      stars.closeGroup?.bind fun closed => read? closed (some '\x7d') rest
  | rest => read? ((draft.push .many).push .many) (some '*') rest

/-- Read the rest of a class of characters, and of the pattern after it. -/
def readClass? (draft : Draft) (inside : ClassDraft) : List Char → Option FilePattern
  | [] => none
  | ']' :: rest =>
      if inside.ranges.isEmpty then
        (inside.add? ']').bind fun inside => readClass? draft inside rest
      else read? (draft.push inside.piece) (some ']') rest
  | '-' :: rest => inside.addDash?.bind fun inside => readClass? draft inside rest
  | c :: rest => (inside.add? c).bind fun inside => readClass? draft inside rest

end

/-- Read a pattern. -/
def ofString? (text : String) : Option FilePattern :=
  read? .empty none text.toList

end LanguageClient.FilePattern
