import LanguageClient.Json.Basic

/-!
Values of the configuration language TOML, and the JSON values that stand for them. A date or time
becomes an object with one member, and a number that is not finite becomes null. A number that is
too large may be written, but not read: a value that holds one can only be left aside unread.
-/

namespace LanguageClient.Toml

/-- A value. -/
inductive Value where
  | string (s : String)
  | integer (n : Int)
  | real (x : Decimal.Double)
  /-- An infinity, or no number at all. -/
  | notFinite
  /-- An integer of more than 128 bits, or a number too large for double precision. -/
  | tooLarge
  | boolean (b : Bool)
  /-- A date, a time, or both, in their usual spelling. -/
  | moment (text : String)
  | array (elements : List Value)
  | table (members : List (String × Value))
deriving Repr, Inhabited

namespace Value

/-- The key of the member that holds a date or time. -/
def momentKey : String := "$__toml_private_datetime"

/-- The JSON number of an integer, if it has at most 64 bits. -/
def jsonInteger? (n : Int) : Option Json :=
  if -(Text.word63 : Int) ≤ n ∧ n < Text.word64 then some (.int n) else none

mutual

/-- The JSON value that stands for a value. -/
def toJson? : Value → Option Json
  | .string s => some (.str s)
  | .integer n => jsonInteger? n
  | .real x => some (.num (.real x))
  | .notFinite => some .null
  | .tooLarge => none
  | .boolean b => some (.bool b)
  | .moment text => some (.object [(momentKey, .str text)])
  | .array elements => (elementsToJson? elements).map .arr
  | .table members => (membersToJson? members).map .object

/-- The JSON values that stand for the elements of an array. -/
def elementsToJson? : List Value → Option (List Json)
  | [] => some []
  | element :: rest =>
      match element.toJson?, elementsToJson? rest with
      | some value, some values => some (value :: values)
      | _, _ => none

/-- The members of an object that stands for a table. -/
def membersToJson? : List (String × Value) → Option (List (String × Json))
  | [] => some []
  | (key, member) :: rest =>
      match member.toJson?, membersToJson? rest with
      | some value, some values => some ((key, value) :: values)
      | _, _ => none

end

mutual

/-- Whether a value can be read at all: no number in it is too large. -/
def isReadable : Value → Bool
  | .tooLarge => false
  | .array elements => allReadable elements
  | .table members => membersReadable members
  | _ => true

/-- Whether all of these values can be read. -/
def allReadable : List Value → Bool
  | [] => true
  | element :: rest => element.isReadable && allReadable rest

/-- Whether the values of all of these members can be read. -/
def membersReadable : List (String × Value) → Bool
  | [] => true
  | (_, member) :: rest => member.isReadable && membersReadable rest

end

def string? : Value → Option String
  | .string s => some s
  | _ => none

def boolean? : Value → Option Bool
  | .boolean b => some b
  | _ => none

/-- The natural number below `bound` that the value is. -/
def natBelow? (bound : Nat) : Value → Option Nat
  | .integer (.ofNat n) => if n < bound then some n else none
  | _ => none

/-- The list of strings that the value is. -/
def strings? : Value → Option (List String)
  | .array elements => elements.mapM string?
  | _ => none

end Value

end LanguageClient.Toml
