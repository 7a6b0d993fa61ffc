import LanguageClient.Text.Digits
import LanguageClient.Toml.Scalar

/-!
Quoted strings in TOML. Double quotes allow escapes and single quotes do not; three quotes of a
kind allow line breaks, of which one right after the quotes does not count.
-/

namespace LanguageClient.Toml

/-- Characters that may stand for themselves in strings and comments. -/
def isPlain (c : Char) : Bool :=
  c = '\t' || (0x20 ≤ c.toNat && c ≠ '\x7f')

/-- The character that an escape of one letter stands for. -/
def letterEscape? : Char → Option Char
  | 'b' => some '\x08'
  | 't' => some '\t'
  | 'n' => some '\n'
  | 'f' => some '\x0c'
  | 'r' => some '\r'
  | 'e' => some '\x1b'
  | '"' => some '"'
  | '\\' => some '\\'
  | _ => none

/-- How many hexadecimal digits follow the letter of an escape. -/
def escapeWidth? : Char → Option Nat
  | 'x' => some 2
  | 'u' => some 4
  | 'U' => some 8
  | _ => none

/-- The character with this number, if there is one. -/
def scalarValue? (n : Nat) : Option Char :=
  if n < 0xD800 ∨ (0xDFFF < n ∧ n < 0x110000) then some (Char.ofNat n) else none

/-- The character that follows a backslash stands for, and the rest. -/
def escape? (text : List Char) : Option (Char × List Char) :=
  match text with
  | letter :: rest =>
      match escapeWidth? letter with
      | some width => do
          let digits ← (rest.take width).mapM (Text.digitIn? 16)
          let c ← scalarValue? (Text.ofDigits 16 digits)
          if digits.length = width then some (c, rest.drop width) else none
      | none => (letterEscape? letter).map (·, rest)
  | [] => none

/-- The text after blanks and line breaks. -/
def dropGaps : List Char → List Char
  | '\r' :: '\n' :: rest => dropGaps rest
  | c :: rest => if c = ' ' || c = '\t' || c = '\n' then dropGaps rest else c :: rest
  | [] => []

/-- The text after a backslash at the end of a line and the blanks and line breaks after it. -/
def afterFoldedLine? (text : List Char) : Option (List Char) :=
  match text.dropWhile fun c => c = ' ' || c = '\t' with
  | '\n' :: rest | '\r' :: '\n' :: rest => some (dropGaps rest)
  | _ => none

/-- The content of a string in double quotes, and the rest. `fuel` is at least the number of
characters. -/
def basic? : Nat → List Char → Option (List Char × List Char)
  | _, '"' :: rest => some ([], rest)
  | fuel + 1, '\\' :: rest => do
      let (c, rest) ← escape? rest
      let (content, rest) ← basic? fuel rest
      some (c :: content, rest)
  | fuel + 1, c :: rest =>
      if isPlain c then (basic? fuel rest).map fun (content, rest) => (c :: content, rest) else none
  | _, _ => none

/-- The content of a string in single quotes, and the rest. -/
def literal? : List Char → Option (List Char × List Char)
  | '\'' :: rest => some ([], rest)
  | c :: rest =>
      if isPlain c then (literal? rest).map fun (content, rest) => (c :: content, rest) else none
  | [] => none

/-- The end of a string in three quotes: up to two quotes more belong to the content. -/
def closing? (quote : Char) (text : List Char) : Option (List Char × List Char) :=
  let quotes := (text.takeWhile (· = quote)).length
  if 3 ≤ quotes then
    let content := min (quotes - 3) 2
    some (List.replicate content quote, text.drop (content + 3))
  else none

/-- Whether a character may stand for itself in a string in three quotes. -/
def isPlainOrBreak (c : Char) (rest : List Char) : Bool :=
  isPlain c || c = '\n' || (c = '\r' && rest.head? = some '\n')

/-- The content of a string in three double quotes, and the rest. `fuel` is at least the number of
characters. -/
def longBasic? : Nat → List Char → Option (List Char × List Char)
  | 0, _ => none
  | fuel + 1, text =>
      match closing? '"' text with
      | some found => some found
      | none =>
          match text with
          | '\\' :: rest =>
              match afterFoldedLine? rest with
              | some rest => longBasic? fuel rest
              | none => do
                  let (c, rest) ← escape? rest
                  let (content, rest) ← longBasic? fuel rest
                  some (c :: content, rest)
          | c :: rest =>
              if isPlainOrBreak c rest then
                (longBasic? fuel rest).map fun (content, rest) => (c :: content, rest)
              else none
          | [] => none

/-- The content of a string in three single quotes, and the rest. -/
def longLiteral? (text : List Char) : Option (List Char × List Char) :=
  match closing? '\'' text with
  | some found => some found
  | none =>
      match text with
      | c :: rest =>
          if isPlainOrBreak c rest then
            (longLiteral? rest).map fun (content, rest) => (c :: content, rest)
          else none
      | [] => none

/-- The text without the line break that it may start with. -/
def dropBreak : List Char → List Char
  | '\n' :: rest | '\r' :: '\n' :: rest => rest
  | text => text

/-- The string on one line that starts here, and the rest. -/
def shortString? (text : List Char) : Option (String × List Char) :=
  match text with
  | '"' :: rest =>
      (basic? rest.length rest).map fun (content, rest) => (String.ofList content, rest)
  | '\'' :: rest =>
      (literal? rest).map fun (content, rest) => (String.ofList content, rest)
  | _ => none

/-- The string that starts here, and the rest. -/
def string? (text : List Char) : Option (String × List Char) :=
  match text with
  | '"' :: '"' :: '"' :: rest =>
      let inside := dropBreak rest
      (longBasic? (inside.length + 1) inside).map fun (content, rest) =>
        (String.ofList content, rest)
  | '\'' :: '\'' :: '\'' :: rest =>
      (longLiteral? (dropBreak rest)).map fun (content, rest) => (String.ofList content, rest)
  | _ => shortString? text

end LanguageClient.Toml
