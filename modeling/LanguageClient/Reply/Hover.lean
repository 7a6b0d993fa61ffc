import LanguageClient.Error
import LanguageClient.Position
import LanguageClient.Reply.Markup
import LanguageClient.Text.Blank

/-!
Hovers: a text on the thing at a place. The parts of a text in parts are joined by line feeds,
without those that are empty or no texts. A text of white space alone is nothing to show.
-/

namespace LanguageClient.Reply

/-- A text, and the range that it is about where that is known. -/
structure Hover where
  text : String
  range : Option Range
deriving DecidableEq, Repr

/-- The parts of a text that are texts and not empty. -/
def hoverParts (contents : List Json) : List String :=
  (contents.filterMap markupText?).filter (· ≠ "")

/-- The text of the contents of a hover. -/
def hoverText : Json → Except DecodeError String
  | .arr parts => .ok ("\n".intercalate (hoverParts parts))
  | .str text => .ok text
  | .obj members =>
      match markupText? (.obj members) with
      | some text => .ok text
      | none => .error (.missingField "value")
  | other => .error (.unexpected "hover contents" other)

/-- White space alone. -/
def isBlankText (text : String) : Bool :=
  text.toList.all Text.isBlank

/-- Read the result of a hover request: an object with contents, or null. A range that is none
is left out. -/
def decodeHover : Json → Except DecodeError (Option Hover)
  | .null => .ok none
  | .obj members =>
      match Json.lookup? "contents" members with
      | none => .error (.missingField "contents")
      | some contents => do
          let text ← hoverText contents
          if isBlankText text then return none
          return some { text, range := (Json.lookup? "range" members).bind Range.ofJson? }
  | other => .error (.unexpected "hover object" other)

end LanguageClient.Reply
