import LanguageClient.Decimal.Double
import LanguageClient.Table

/-!
JSON values. Integers that fit in a word of 64 bits, signed or unsigned, are kept exactly; all
other numbers are doubles. The members of an object are kept in ascending order of their keys,
each key once; `object` brings members into that form and lets the last value of a key win.
-/

namespace LanguageClient

/-- A JSON number: an integer of 64 bits, or a double. -/
inductive Json.Number where
  | integer (n : Int)
  | real (x : Decimal.Double)
deriving DecidableEq, Repr

/-- A JSON value. -/
inductive Json where
  | null
  | bool (b : Bool)
  | num (n : Json.Number)
  | str (s : String)
  | arr (elements : List Json)
  | obj (members : List (String × Json))
deriving Repr, Inhabited

namespace Json

mutual

/-- Equality of values is decidable. -/
def decEq : (a b : Json) → Decidable (a = b)
  | .null, .null => isTrue rfl
  | .bool a, .bool b => if h : a = b then isTrue (h ▸ rfl) else isFalse (by simpa using h)
  | .num a, .num b => if h : a = b then isTrue (h ▸ rfl) else isFalse (by simpa using h)
  | .str a, .str b => if h : a = b then isTrue (h ▸ rfl) else isFalse (by simpa using h)
  | .arr a, .arr b =>
      match decEqElements a b with
      | isTrue h => isTrue (h ▸ rfl)
      | isFalse h => isFalse (by simpa using h)
  | .obj a, .obj b =>
      match decEqMembers a b with
      | isTrue h => isTrue (h ▸ rfl)
      | isFalse h => isFalse (by simpa using h)
  | .null, .bool _ | .null, .num _ | .null, .str _ | .null, .arr _ | .null, .obj _
  | .bool _, .null | .bool _, .num _ | .bool _, .str _ | .bool _, .arr _ | .bool _, .obj _
  | .num _, .null | .num _, .bool _ | .num _, .str _ | .num _, .arr _ | .num _, .obj _
  | .str _, .null | .str _, .bool _ | .str _, .num _ | .str _, .arr _ | .str _, .obj _
  | .arr _, .null | .arr _, .bool _ | .arr _, .num _ | .arr _, .str _ | .arr _, .obj _
  | .obj _, .null | .obj _, .bool _ | .obj _, .num _ | .obj _, .str _ | .obj _, .arr _ =>
      isFalse (by simp)

/-- Equality of lists of values is decidable. -/
def decEqElements : (a b : List Json) → Decidable (a = b)
  | [], [] => isTrue rfl
  | [], _ :: _ | _ :: _, [] => isFalse (by simp)
  | a :: as, b :: bs =>
      match decEq a b, decEqElements as bs with
      | isTrue h, isTrue hs => isTrue (by rw [h, hs])
      | isFalse h, _ => isFalse (by simp [h])
      | _, isFalse h => isFalse (by simp [h])

/-- Equality of lists of members is decidable. -/
def decEqMembers : (a b : List (String × Json)) → Decidable (a = b)
  | [], [] => isTrue rfl
  | [], _ :: _ | _ :: _, [] => isFalse (by simp)
  | (k, a) :: as, (l, b) :: bs =>
      if hk : k = l then
        match decEq a b, decEqMembers as bs with
        | isTrue h, isTrue hs => isTrue (by rw [hk, h, hs])
        | isFalse h, _ => isFalse (by simp [h])
        | _, isFalse h => isFalse (by simp [h])
      else isFalse (by simp [hk])

end

instance : DecidableEq Json := decEq

/-- Members in ascending order of their keys, of several values of one key the last. -/
def sortMembers (members : List (String × Json)) : List (String × Json) :=
  members.foldl (fun sorted (key, value) => insertEntry key value sorted) []

/-- The object with these members. -/
def object (members : List (String × Json)) : Json :=
  .obj (sortMembers members)

/-- The array of these strings. -/
def strings (texts : List String) : Json :=
  .arr (texts.map .str)

/-- A natural number below 2^64. -/
def nat (n : Nat) : Json :=
  .num (.integer n)

/-- An integer of 64 bits. -/
def int (n : Int) : Json :=
  .num (.integer n)

/-- A string, or null where there is none. -/
def stringOrNull : Option String → Json
  | some s => .str s
  | none => .null

/-- The value of a key. -/
def lookup? (key : String) (members : List (String × Json)) : Option Json :=
  members.lookup key

/-- The member of that name, if the value is an object that has it. -/
def get? (key : String) : Json → Option Json
  | .obj members => lookup? key members
  | _ => none

/-- The object with one more member; any other value stays as it is. -/
def set (object : Json) (key : String) (value : Json) : Json :=
  match object with
  | .obj members => .obj (insertEntry key value members)
  | other => other

def isNull : Json → Bool
  | .null => true
  | _ => false

def bool? : Json → Option Bool
  | .bool b => some b
  | _ => none

def string? : Json → Option String
  | .str s => some s
  | _ => none

def array? : Json → Option (List Json)
  | .arr elements => some elements
  | _ => none

def object? : Json → Option (List (String × Json))
  | .obj members => some members
  | _ => none

/-- The natural number below `bound` that the value is. A double is none, whatever its value. -/
def natBelow? (bound : Nat) : Json → Option Nat
  | .num (.integer (.ofNat n)) => if n < bound then some n else none
  | _ => none

/-- The number of 32 bits without a sign that the value is. -/
def u32? : Json → Option Nat :=
  natBelow? Text.word32

/-- The number of 64 bits without a sign that the value is. -/
def u64? : Json → Option Nat :=
  natBelow? Text.word64

/-- The integer of 64 bits with a sign that the value is. -/
def i64? : Json → Option Int
  | .num (.integer n) => if -(Text.word63 : Int) ≤ n ∧ n < Text.word63 then some n else none
  | _ => none

/-- The list of strings that the value is. -/
def strings? : Json → Option (List String)
  | .arr elements => elements.mapM string?
  | _ => none

/-- What a value is called in an error message. -/
def kindName : Json → String
  | .null => "null"
  | .bool _ => "boolean"
  | .num _ => "number"
  | .str _ => "string"
  | .arr _ => "array"
  | .obj _ => "object"

end Json

end LanguageClient
