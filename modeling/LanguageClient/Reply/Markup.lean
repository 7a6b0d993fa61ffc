import LanguageClient.Json.Basic

/-!
Texts in responses. A text is written as a string, or as an object whose member `value` is one;
the object says more about the text, which does not matter here.
-/

namespace LanguageClient.Reply

/-- The text that a value stands for. -/
def markupText? : Json → Option String
  | .str text => some text
  | .obj members => (Json.lookup? "value" members).bind Json.string?
  | _ => none

end LanguageClient.Reply
