import LanguageClient.Json.Number
import LanguageClient.Text.Utf8

/-!
JSON text taken apart into its nested pieces, with strings and numbers still as written. Whoever
skips a piece need not know what its strings and numbers stand for, so a piece that is skipped
may hold ones that stand for nothing.
-/

namespace LanguageClient.Json

/-- The lexical units of JSON text. Strings and numbers hold their bytes as written, a string
without its quotes. -/
inductive Token where
  | openArray
  | closeArray
  | openObject
  | closeObject
  | comma
  | colon
  | null
  | bool (b : Bool)
  | num (text : Bytes)
  | str (content : Bytes)
deriving DecidableEq, Repr

namespace Token

/-- Where a scan stands: between units, in a word or a number, in a string, right after a
backslash in one, or in the four hexadecimal digits of an escape. What was read of the unit is
kept in reverse. -/
inductive Mode where
  | between
  | word (read : Bytes)
  | number (read : Bytes)
  | string (read : Bytes)
  | escape (read : Bytes)
  | hex (left : Nat) (read : Bytes)

def isSpace (b : UInt8) : Bool :=
  b == 0x20 || b == 0x09 || b == 0x0A || b == 0x0D

def isDigit (b : UInt8) : Bool :=
  0x30 ≤ b && b ≤ 0x39

def isLower (b : UInt8) : Bool :=
  0x61 ≤ b && b ≤ 0x7A

/-- A byte that can go on a number: digits, signs, a point, and the letter of an exponent. -/
def continuesNumber (b : UInt8) : Bool :=
  isDigit b || b == 0x2B || b == 0x2D || b == 0x2E || b == 0x65 || b == 0x45

/-- The value of a hexadecimal digit. -/
def hexValue? (b : UInt8) : Option Nat :=
  if isDigit b then some (b.toNat - 0x30)
  else if 0x61 ≤ b && b ≤ 0x66 then some (b.toNat - 0x61 + 10)
  else if 0x41 ≤ b && b ≤ 0x46 then some (b.toNat - 0x41 + 10)
  else none

/-- The characters of bytes that are ASCII. -/
def ascii (bytes : Bytes) : List Char :=
  bytes.map fun b => Char.ofNat b.toNat

/-- The unit that a word is. -/
def ofWord? (read : Bytes) : Option Token :=
  match String.ofList (ascii read.reverse) with
  | "null" => some .null
  | "true" => some (.bool true)
  | "false" => some (.bool false)
  | _ => none

/-- The unit that a number is, if it is written as one. -/
def ofNumber? (read : Bytes) : Option Token :=
  (Number.Lexeme.ofText? (ascii read.reverse)).map fun _ => .num read.reverse

/-- The unit that one byte is, if it is a unit by itself. -/
def ofByte? (b : UInt8) : Option Token :=
  match Char.ofNat b.toNat with
  | '[' => some .openArray
  | ']' => some .closeArray
  | '{' => some .openObject
  | '}' => some .closeObject
  | ',' => some .comma
  | ':' => some .colon
  | _ => none

/-- A byte between two units: it is skipped, is a unit, or starts one. -/
def start? (b : UInt8) (done : List Token) : Option (List Token × Mode) :=
  if isSpace b then some (done, .between)
  else if b == 0x22 then some (done, .string [])
  else if isDigit b || b == 0x2D then some (done, .number [b])
  else if isLower b then some (done, .word [b])
  else (ofByte? b).map fun token => (token :: done, .between)

/-- A byte that may follow a backslash, the hexadecimal escape apart. -/
def isEscape (b : UInt8) : Bool :=
  (ascii [b]).all fun c => "\"\\/bfnrt".contains c

/-- One byte more. The units read so far are kept in reverse. -/
def feed? (done : List Token) (mode : Mode) (b : UInt8) : Option (List Token × Mode) :=
  match mode with
  | .between => start? b done
  | .word read =>
      if isLower b then some (done, .word (b :: read))
      else (ofWord? read).bind fun token => start? b (token :: done)
  | .number read =>
      if continuesNumber b then some (done, .number (b :: read))
      else (ofNumber? read).bind fun token => start? b (token :: done)
  | .string read =>
      if b == 0x22 then some (.str read.reverse :: done, .between)
      else if b == 0x5C then some (done, .escape (b :: read))
      else if b < 0x20 then none
      else some (done, .string (b :: read))
  | .escape read =>
      if b == 0x75 then some (done, .hex 4 (b :: read))
      else if isEscape b then some (done, .string (b :: read))
      else none
  | .hex left read =>
      match hexValue? b with
      | none => none
      | some _ =>
          if left ≤ 1 then some (done, .string (b :: read))
          else some (done, .hex (left - 1) (b :: read))

/-- The end of the text. -/
def finish? (done : List Token) : Mode → Option (List Token)
  | .between => some done.reverse
  | .word read => (ofWord? read).map fun token => (token :: done).reverse
  | .number read => (ofNumber? read).map fun token => (token :: done).reverse
  | _ => none

/-- The units of the rest of a text. -/
def scan? (done : List Token) (mode : Mode) : Bytes → Option (List Token)
  | [] => finish? done mode
  | b :: rest => (feed? done mode b).bind fun (done, mode) => scan? done mode rest

/-- The units of a text. -/
def ofBytes? (bytes : Bytes) : Option (List Token) :=
  scan? [] .between bytes

end Token

/-- JSON text as nested pieces, strings and numbers as written. -/
inductive Raw where
  | null
  | bool (b : Bool)
  | num (text : Bytes)
  | str (content : Bytes)
  | arr (elements : List Raw)
  | obj (members : List (Bytes × Raw))
deriving Repr, Inhabited

namespace Raw

/-- An array or object that is not closed yet, with what it holds so far in reverse. -/
inductive Frame where
  | array (elements : List Raw)
  | object (members : List (Bytes × Raw)) (key : Bytes)

/-- What must come next: a value, the first element or the end of an array, the first key or the
end of an object, a further key, the colon after a key, or what follows a value. -/
inductive Expect where
  | value
  | firstElement
  | firstKey
  | key (members : List (Bytes × Raw))
  | colon
  | after (value : Raw)

/-- The piece that a unit is by itself. -/
def ofToken? : Token → Option Raw
  | .null => some .null
  | .bool b => some (.bool b)
  | .num text => some (.num text)
  | .str content => some (.str content)
  | _ => none

/-- A unit where a value must come. -/
def startValue? (frames : List Frame) : Token → Option (List Frame × Expect)
  | .openArray => some (frames, .firstElement)
  | .openObject => some (frames, .firstKey)
  | token => (ofToken? token).map fun value => (frames, .after value)

/-- One unit more. -/
def step? (frames : List Frame) (expect : Expect) (token : Token) : Option (List Frame × Expect) :=
  match expect with
  | .value => startValue? frames token
  | .firstElement =>
      match token with
      | .closeArray => some (frames, .after (.arr []))
      | _ => startValue? (.array [] :: frames) token
  | .firstKey =>
      match token with
      | .closeObject => some (frames, .after (.obj []))
      | .str key => some (.object [] key :: frames, .colon)
      | _ => none
  | .key members =>
      match token with
      | .str key => some (.object members key :: frames, .colon)
      | _ => none
  | .colon =>
      match token with
      | .colon => some (frames, .value)
      | _ => none
  | .after value =>
      match frames, token with
      | .array elements :: outer, .comma => some (.array (value :: elements) :: outer, .value)
      | .array elements :: outer, .closeArray =>
          some (outer, .after (.arr (value :: elements).reverse))
      | .object members key :: outer, .comma => some (outer, .key ((key, value) :: members))
      | .object members key :: outer, .closeObject =>
          some (outer, .after (.obj ((key, value) :: members).reverse))
      | _, _ => none

/-- The piece that the rest of the units make up. -/
def build? (frames : List Frame) (expect : Expect) : List Token → Option Raw
  | [] =>
      match frames, expect with
      | [], .after value => some value
      | _, _ => none
  | token :: rest =>
      (step? frames expect token).bind fun (frames, expect) => build? frames expect rest

/-- The piece that a whole text is. -/
def ofBytes? (bytes : Bytes) : Option Raw :=
  (Token.ofBytes? bytes).bind (build? [] .value)

end Raw

end LanguageClient.Json
