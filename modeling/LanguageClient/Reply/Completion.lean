import LanguageClient.Error
import LanguageClient.Json.Record
import LanguageClient.Reply.Markup

/-!
Completions: what could be inserted at a place. An item needs a label; each of its other fields
counts as absent when it is not of its kind, and items without a label are left out.
-/

namespace LanguageClient.Reply

/-- What kind of thing a completion inserts. -/
inductive CompletionKind where
  | text
  | method
  | function
  | constructor
  | field
  | variable
  | classType
  | interface
  | module
  | property
  | unit
  | value
  | enum
  | keyword
  | snippet
  | color
  | file
  | reference
  | folder
  | enumMember
  | constant
  | struct
  | event
  | operator
  | typeParameter
deriving DecidableEq, Repr

namespace CompletionKind

/-- The kinds in the order of their numbers, which start at one. -/
def all : List CompletionKind :=
  [.text, .method, .function, .constructor, .field, .variable, .classType, .interface, .module,
    .property, .unit, .value, .enum, .keyword, .snippet, .color, .file, .reference, .folder,
    .enumMember, .constant, .struct, .event, .operator, .typeParameter]

/-- The kind with that number. -/
def ofNat? (n : Nat) : Option CompletionKind :=
  if n = 0 then none else all[n - 1]?

/-- The name of a kind. -/
def name : CompletionKind → String
  | .text => "Text"
  | .method => "Method"
  | .function => "Function"
  | .constructor => "Constructor"
  | .field => "Field"
  | .variable => "Variable"
  | .classType => "Class"
  | .interface => "Interface"
  | .module => "Module"
  | .property => "Property"
  | .unit => "Unit"
  | .value => "Value"
  | .enum => "Enum"
  | .keyword => "Keyword"
  | .snippet => "Snippet"
  | .color => "Color"
  | .file => "File"
  | .reference => "Reference"
  | .folder => "Folder"
  | .enumMember => "EnumMember"
  | .constant => "Constant"
  | .struct => "Struct"
  | .event => "Event"
  | .operator => "Operator"
  | .typeParameter => "TypeParameter"

/-- The short tag of a kind in a menu. -/
def abbreviation : CompletionKind → String
  | .method | .function | .constructor => "fn"
  | .field | .property => "field"
  | .variable | .value => "var"
  | .classType | .struct | .interface => "type"
  | .module | .folder | .file => "mod"
  | .enum | .enumMember => "enum"
  | .keyword => "kw"
  | .snippet => "snip"
  | .constant => "const"
  | .typeParameter => "param"
  | .text | .unit | .color | .reference | .event | .operator => "text"

end CompletionKind

/-- One completion. -/
structure CompletionItem where
  label : String
  kind : Option CompletionKind
  detail : Option String
  documentation : Option String
  insertText : Option String
  filterText : Option String
  sortText : Option String
deriving DecidableEq, Repr

namespace CompletionItem

/-- The text to insert when the item is chosen. -/
def insertion (item : CompletionItem) : String :=
  item.insertText.getD item.label

/-- The key by which a menu sorts items. -/
def sortKey (item : CompletionItem) : String :=
  item.sortText.getD item.label

/-- Read one item. -/
def ofJson? (value : Json) : Option CompletionItem := do
  let record ← Json.Record.of? 7 value
  let label ← record.required 0 "label" Json.string?
  return {
    label
    kind := (record.lenient 1 "kind" Json.u64?).bind CompletionKind.ofNat?
    detail := record.lenient 2 "detail" Json.string?
    documentation := record.lenient 3 "documentation" markupText?
    insertText := record.lenient 4 "insertText" Json.string?
    filterText := record.lenient 5 "filterText" Json.string?
    sortText := record.lenient 6 "sortText" Json.string?
  }

end CompletionItem

/-- The completions at a place. -/
structure CompletionList where
  /-- More typing asks for a new list and does not filter this one. -/
  isIncomplete : Bool
  items : List CompletionItem
deriving DecidableEq, Repr

/-- Read the result of a completion request: an array of items, an object that holds one, or
null. -/
def decodeCompletion : Json → Except DecodeError CompletionList
  | .null => .ok ⟨false, []⟩
  | .arr items => .ok ⟨false, items.filterMap CompletionItem.ofJson?⟩
  | .obj members =>
      match Json.lookup? "items" members with
      | none => .error (.missingField "items")
      | some (.arr items) =>
          .ok ⟨((Json.lookup? "isIncomplete" members).bind Json.bool?).getD false,
            items.filterMap CompletionItem.ofJson?⟩
      | some other => .error (.unexpected "array of completion items" other)
  | other => .error (.unexpected "completion list" other)

end LanguageClient.Reply
