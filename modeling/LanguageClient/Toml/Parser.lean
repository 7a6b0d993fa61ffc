import LanguageClient.Toml.Quoted
import LanguageClient.Toml.Tree

/-!
Reading TOML documents: lines that give a key a value, and headers of tables. Arrays and tables in
braces may extend over several lines and be nested 80 levels deep, and a key has at most 80 parts.
-/

namespace LanguageClient.Toml

/-- The text after blanks. -/
def skipBlanks (text : List Char) : List Char :=
  text.dropWhile fun c => c = ' ' || c = '\t'

/-- The text after blanks, line breaks and comments. -/
def skipGaps? (inComment : Bool) : List Char → Option (List Char)
  | [] => some []
  | '\n' :: rest | '\r' :: '\n' :: rest => skipGaps? false rest
  | c :: rest =>
      if inComment then if isPlain c then skipGaps? true rest else none
      else if c = ' ' || c = '\t' then skipGaps? false rest
      else if c = '#' then skipGaps? true rest
      else some (c :: rest)

/-- The text after the end of a line, before which a comment may stand. -/
def endLine? (text : List Char) : Option (List Char) :=
  let line := match skipBlanks text with
    | '#' :: comment => comment.dropWhile isPlain
    | other => other
  match line with
  | [] => some []
  | '\n' :: rest | '\r' :: '\n' :: rest => some rest
  | _ => none

/-- Characters of a key without quotes. -/
def isKeyChar (c : Char) : Bool :=
  c.isAlphanum || c = '_' || c = '-'

/-- The part of a key that starts here, and the rest. -/
def keyPart? (text : List Char) : Option (String × List Char) :=
  match text with
  | '"' :: _ | '\'' :: _ => shortString? text
  | _ =>
      let (word, rest) := text.span isKeyChar
      if word.isEmpty then none else some (String.ofList word, rest)

/-- How deep values may be nested, and how many parts a key may have. -/
def greatestDepth : Nat := 80

/-- At most `count` parts of a key between dots, and the rest after blanks. -/
def keyParts? : Nat → List Char → Option (List String × List Char)
  | 0, _ => none
  | count + 1, text => do
      let (part, rest) ← keyPart? (skipBlanks text)
      match skipBlanks rest with
      | '.' :: rest =>
          let (parts, rest) ← keyParts? count rest
          some (part :: parts, rest)
      | rest => some ([part], rest)

/-- The parts of a key between dots, and the rest after blanks. -/
def key? (text : List Char) : Option (List String × List Char) :=
  keyParts? greatestDepth text

/-- Add a value under the parts of a key. -/
def insertAt? (entries : Entries) (parts : List String) (value : Value) : Option Entries :=
  parts.getLast?.bind fun last =>
    entries.insert? value last parts.dropLast true

mutual

/-- The value that starts here and may be nested `depth` levels deep, and the rest. `fuel` is at
least twice the number of characters. -/
def value? : Nat → Nat → List Char → Option (Value × List Char)
  | 0, _, _ => none
  | fuel + 1, depth, text =>
      match text with
      | '"' :: _ | '\'' :: _ => (string? text).map fun (s, rest) => (.string s, rest)
      | '[' :: rest =>
          match depth with
          | 0 => none
          | depth + 1 => (elements? fuel depth rest).map fun (values, rest) => (.array values, rest)
      | '\x7b' :: rest =>
          match depth with
          | 0 => none
          | depth + 1 => (members? fuel depth [] rest).map fun (entries, rest) =>
              (entries.toValue, rest)
      | _ =>
          let (word, rest) := takeScalar text
          (scalar? word).map (·, rest)

/-- The elements of an array up to its closing bracket, and the rest. -/
def elements? : Nat → Nat → List Char → Option (List Value × List Char)
  | 0, _, _ => none
  | fuel + 1, depth, text =>
      match skipGaps? false text with
      | some (']' :: rest) => some ([], rest)
      | some inside => do
          let (value, rest) ← value? fuel depth inside
          match ← skipGaps? false rest with
          | ',' :: rest =>
              let (values, rest) ← elements? fuel depth rest
              some (value :: values, rest)
          | ']' :: rest => some ([value], rest)
          | _ => none
      | none => none

/-- The entries of a table in braces up to its closing brace, and the rest. -/
def members? : Nat → Nat → Entries → List Char → Option (Entries × List Char)
  | 0, _, _, _ => none
  | fuel + 1, depth, entries, text =>
      match skipGaps? false text with
      | some ('\x7d' :: rest) => some (entries, rest)
      | some inside => do
          let (parts, rest) ← key? inside
          let inside ← skipGaps? false (← skip? '=' (← skipGaps? false rest))
          let (value, rest) ← value? fuel depth inside
          let entries ← insertAt? entries parts value
          match ← skipGaps? false rest with
          | ',' :: rest => members? fuel depth entries rest
          | '\x7d' :: rest => some (entries, rest)
          | _ => none
      | none => none

end

/-- A document that is being read: what it holds, and the keys of the last header. -/
structure Draft where
  root : Entries
  header : List String

namespace Draft

/-- Start the table of a header, or another of its tables. -/
def openHeader? (draft : Draft) (parts : List String) (another : Bool) : Option Draft := do
  let last ← parts.getLast?
  let change : Entries → Option Entries :=
    if another then Entries.openElement? last else Entries.openTable? last
  let root ← draft.root.changeAt? change parts.dropLast
  some ⟨root, parts⟩

/-- Add a value under a key to the table of the last header. -/
def add? (draft : Draft) (parts : List String) (value : Value) : Option Draft :=
  (draft.root.changeAt? (insertAt? · parts value) draft.header).map ({ draft with root := · })

end Draft

/-- Read the header whose brackets have been opened, and the end of its line. -/
def header? (draft : Draft) (another : Bool) (text : List Char) : Option (Draft × List Char) := do
  let (parts, rest) ← key? text
  let rest ← skip? ']' rest
  let rest ← if another then skip? ']' rest else some rest
  let rest ← endLine? rest
  let draft ← draft.openHeader? parts another
  some (draft, rest)

/-- Read a line that gives a key a value. -/
def assignment? (draft : Draft) (text : List Char) : Option (Draft × List Char) := do
  let (parts, rest) ← key? text
  let inside := skipBlanks (← skip? '=' rest)
  let (value, rest) ← value? (2 * inside.length + 2) greatestDepth inside
  let rest ← endLine? rest
  let draft ← draft.add? parts value
  some (draft, rest)

/-- Read the lines of a document. `fuel` is at least the number of characters. -/
def lines? : Nat → Draft → List Char → Option Draft
  | 0, _, _ => none
  | fuel + 1, draft, text =>
      match skipGaps? false text with
      | none => none
      | some [] => some draft
      | some ('[' :: '[' :: rest) =>
          (header? draft true rest).bind fun (draft, rest) => lines? fuel draft rest
      | some ('[' :: rest) =>
          (header? draft false rest).bind fun (draft, rest) => lines? fuel draft rest
      | some line => (assignment? draft line).bind fun (draft, rest) => lines? fuel draft rest

/-- The document without the mark of byte order that it may start with. -/
def dropMark : List Char → List Char
  | '\ufeff' :: rest => rest
  | text => text

/-- Read a document. -/
def parse? (text : List Char) : Option Value :=
  let text := dropMark text
  (lines? (text.length + 1) ⟨[], []⟩ text).map fun draft => draft.root.toValue

end LanguageClient.Toml
