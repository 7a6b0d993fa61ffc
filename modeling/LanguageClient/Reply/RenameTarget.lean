import LanguageClient.Error
import LanguageClient.Position

/-!
Targets of a rename: what would be renamed at a place, and the text to start from.
-/

namespace LanguageClient.Reply

/-- What would be renamed. Both fields are absent if it is the identifier at the place. -/
structure RenameTarget where
  range : Option Range
  placeholder : Option String
deriving DecidableEq, Repr

namespace RenameTarget

/-- A range together with a text to start from. -/
def withPlaceholder? (value : Json) : Option (Range × String) := do
  let record ← Json.Record.ofObject? value
  let range ← record.required 0 "range" Range.ofJson?
  let placeholder ← record.required 1 "placeholder" Json.string?
  return (range, placeholder)

/-- Whether the identifier at the place can be renamed. -/
def defaultBehavior? (value : Json) : Option Bool := do
  let record ← Json.Record.ofObject? value
  record.required 0 "defaultBehavior" Json.bool?

end RenameTarget

/-- Read the answer to whether a rename is possible: a range with a text, a permission, or a range
alone. Null, or a permission denied, means that nothing can be renamed. -/
def decodeRenameTarget (result : Json) : Except ClientError RenameTarget :=
  if result.isNull then .error .cannotRename
  else
    match RenameTarget.withPlaceholder? result, RenameTarget.defaultBehavior? result,
      Range.ofJson? result with
    | some (range, placeholder), _, _ => .ok ⟨some range, some placeholder⟩
    | none, some true, _ => .ok ⟨none, none⟩
    | none, some false, _ => .error .cannotRename
    | none, none, some range => .ok ⟨some range, none⟩
    | none, none, none => .error (.decode .invalidJson)

end LanguageClient.Reply
