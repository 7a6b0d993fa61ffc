import LanguageClient.Error
import LanguageClient.Position

/-!
Outlines: the tree of the symbols of a document. Symbols come nested, or flat with a location
each; both are read into trees, without those that are neither.
-/

namespace LanguageClient.Reply

/-- The name of the kind of a symbol with this number. -/
def symbolKindName (kind : Nat) : String :=
  let names := ["file", "module", "namespace", "package", "class", "method", "property", "field",
    "constructor", "enum", "interface", "function", "variable", "constant", "string", "number",
    "boolean", "array", "object", "key", "null", "enum member", "struct", "event", "operator",
    "type parameter"]
  if kind = 0 then "unknown" else names.getD (kind - 1) "unknown"

/-- A symbol with the symbols inside it. -/
inductive Symbol where
  | node (name : String) (detail : Option String) (kind : Nat) (range selection : Range)
      (children : List Symbol)
deriving Repr, Inhabited

namespace Symbol

def name : Symbol → String
  | .node name _ _ _ _ _ => name

def children : Symbol → List Symbol
  | .node _ _ _ _ _ children => children

mutual

/-- A symbol and all symbols inside it, each with its depth: a symbol comes before those inside
it, and neighbours keep their order. -/
def walk (depth : Nat) : Symbol → List (Nat × Symbol)
  | .node name detail kind range selection children =>
      (depth, .node name detail kind range selection children) :: walkAll (depth + 1) children

/-- The walks of several symbols, one after the other. -/
def walkAll (depth : Nat) : List Symbol → List (Nat × Symbol)
  | [] => []
  | symbol :: rest => walk depth symbol ++ walkAll depth rest

end

/-- What a nested symbol says of itself, without the symbols inside it. -/
structure Header where
  name : String
  kind : Nat
  range : Range
  selection : Range
  detail : Option String

/-- Read what a nested symbol says of itself. -/
def Header.ofRecord? (record : Json.Record) : Option Header := do
  let name ← record.required 0 "name" Json.string?
  let kind ← record.required 1 "kind" Json.u32?
  let range ← record.required 2 "range" Range.ofJson?
  let selection ← record.required 3 "selectionRange" Range.ofJson?
  return { name, kind, range, selection, detail := record.lenient 4 "detail" Json.string? }

/-- A symbol of what it says of itself and of the symbols inside it. -/
def Header.symbol (header : Header) (children : List Symbol) : Symbol :=
  .node header.name header.detail header.kind header.range header.selection children

/-- The range of a location. -/
def locationRange? (value : Json) : Option Range := do
  let record ← Json.Record.of? 1 value
  record.required 0 "range" Range.ofJson?

/-- Read a flat symbol. The name of what contains it is its detail. -/
def flat? (value : Json) : Option Symbol := do
  let record ← Json.Record.of? 4 value
  let name ← record.required 0 "name" Json.string?
  let kind ← record.required 1 "kind" Json.u32?
  let range ← record.required 2 "location" locationRange?
  let container := record.lenient 3 "containerName" Json.string?
  return .node name container kind range range []

mutual

/-- Read a symbol. It is a flat one if it has a location. -/
def ofJson? : Json → Option Symbol
  | .obj members =>
      if (Json.lookup? "location" members).isSome then flat? (.obj members)
      else
        match Header.ofRecord? (.named members), childrenOf? members with
        | some header, some children => some (header.symbol children)
        | _, _ => none
  | .arr values =>
      if values.length ≤ 6 then
        match Header.ofRecord? (.listed values), childrenAt? 5 values with
        | some header, some children => some (header.symbol children)
        | _, _ => none
      else none
  | _ => none

/-- The symbols of the member `children`; none if there is no such member. -/
def childrenOf? : List (String × Json) → Option (List Symbol)
  | [] => some []
  | (key, value) :: rest => if key = "children" then listOfJson? value else childrenOf? rest

/-- The symbols of the value at a place; none if the list is shorter. -/
def childrenAt? : Nat → List Json → Option (List Symbol)
  | _, [] => some []
  | 0, value :: _ => listOfJson? value
  | index + 1, _ :: rest => childrenAt? index rest

/-- The symbols of an array. -/
def listOfJson? : Json → Option (List Symbol)
  | .arr elements => some (listOfElements elements)
  | _ => none

/-- The symbols among the elements of an array. -/
def listOfElements : List Json → List Symbol
  | [] => []
  | element :: rest =>
      match ofJson? element with
      | some symbol => symbol :: listOfElements rest
      | none => listOfElements rest

end

end Symbol

/-- Read the result of a request for the symbols of a document: an array of symbols, or null. -/
def decodeOutline : Json → Except DecodeError (List Symbol)
  | .null => .ok []
  | .arr elements => .ok (Symbol.listOfElements elements)
  | other => .error (.unexpected "array of document symbols" other)

end LanguageClient.Reply
