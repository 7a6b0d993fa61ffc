import LanguageClient.Json.Raw

/-!
Reading JSON text. A value may be nested 127 levels deep; strings must be UTF-8 without unpaired
surrogates, numbers must fit in a double, and nothing but white space may follow the value.
-/

namespace LanguageClient.Json

/-- The value of four hexadecimal digits. -/
def hexWord? (a b c d : Char) : Option Nat := do
  let digit (x : Char) : Option Nat :=
    if x.toNat < 0x80 then Token.hexValue? (UInt8.ofNat x.toNat) else none
  return (((← digit a) * 16 + (← digit b)) * 16 + (← digit c)) * 16 + (← digit d)

/-- The character that a one-letter escape stands for. -/
def simpleEscape? : Char → Option Char
  | '"' => some '"'
  | '\\' => some '\\'
  | '/' => some '/'
  | 'b' => some '\x08'
  | 'f' => some '\x0c'
  | 'n' => some '\n'
  | 'r' => some '\r'
  | 't' => some '\t'
  | _ => none

/-- The first half of a pair of units. -/
def isLeadUnit (n : Nat) : Bool :=
  0xD800 ≤ n && n ≤ 0xDBFF

/-- The second half of a pair of units. -/
def isTrailUnit (n : Nat) : Bool :=
  0xDC00 ≤ n && n ≤ 0xDFFF

/-- The character of a pair of units. -/
def pairOfUnits (lead trail : Nat) : Char :=
  Char.ofNat (0x10000 + (lead - 0xD800) * 0x400 + (trail - 0xDC00))

/-- A part of a string literal: a character, or a 16-bit unit given by its number. -/
inductive LiteralPart where
  | char (c : Char)
  | unit (n : Nat)

/-- The parts of the content of a string literal. -/
def literalParts? : List Char → Option (List LiteralPart)
  | [] => some []
  | '\\' :: 'u' :: a :: b :: c :: d :: rest =>
      (hexWord? a b c d).bind fun n => (literalParts? rest).map (.unit n :: ·)
  | ['\\'] => none
  | '\\' :: c :: rest =>
      (simpleEscape? c).bind fun x => (literalParts? rest).map (.char x :: ·)
  | c :: rest => (literalParts? rest).map (.char c :: ·)

/-- The text of the parts of a string literal. A unit that is half of a pair must be followed by
the other half. -/
def joinParts? : List LiteralPart → Option (List Char)
  | [] => some []
  | .char c :: rest => (joinParts? rest).map (c :: ·)
  | .unit lead :: .unit trail :: rest =>
      if isLeadUnit lead then
        if isTrailUnit trail then (joinParts? rest).map (pairOfUnits lead trail :: ·) else none
      else if isTrailUnit lead then none
      else (joinParts? (.unit trail :: rest)).map (Char.ofNat lead :: ·)
  | .unit n :: rest =>
      if isLeadUnit n || isTrailUnit n then none else (joinParts? rest).map (Char.ofNat n :: ·)

/-- The string that the content of a string literal stands for. -/
def literal? (content : Bytes) : Option String := do
  let text ← Text.decode? content
  let parts ← literalParts? text
  return String.ofList (← joinParts? parts)

mutual

/-- The value of a piece that may be nested `depth` levels deep. -/
def Raw.value? (depth : Nat) : Raw → Option Json
  | .null => some .null
  | .bool b => some (.bool b)
  | .num text => (Number.ofText? (Token.ascii text)).map .num
  | .str content => (literal? content).map .str
  | .arr elements =>
      match depth with
      | 0 => none
      | depth + 1 => (Raw.values? depth elements).map .arr
  | .obj members =>
      match depth with
      | 0 => none
      | depth + 1 => (Raw.memberValues? depth members).map object

/-- The values of the elements of an array. -/
def Raw.values? (depth : Nat) : List Raw → Option (List Json)
  | [] => some []
  | element :: rest =>
      match Raw.value? depth element, Raw.values? depth rest with
      | some value, some values => some (value :: values)
      | _, _ => none

/-- The keys and values of the members of an object. -/
def Raw.memberValues? (depth : Nat) : List (Bytes × Raw) → Option (List (String × Json))
  | [] => some []
  | (key, member) :: rest =>
      match literal? key, Raw.value? depth member, Raw.memberValues? depth rest with
      | some key, some value, some values => some ((key, value) :: values)
      | _, _, _ => none

end

/-- How deep a value may be nested. -/
def greatestDepth : Nat := 127

/-- The value that a text of bytes stands for. -/
def parse? (bytes : Bytes) : Option Json :=
  (Raw.ofBytes? bytes).bind (Raw.value? greatestDepth)

end LanguageClient.Json
