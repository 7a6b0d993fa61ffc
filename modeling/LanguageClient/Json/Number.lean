import LanguageClient.Json.Basic
import LanguageClient.Decimal.Shortest

/-!
The text of JSON numbers. An integer that fits in 64 bits reads as itself. Everything else reads
as a double: at most the first digits that fit in 64 bits count, as a double of their own, which
is then multiplied or divided by one power of ten.
-/

namespace LanguageClient.Json.Number

open Decimal

/-- A number as written: sign, whole digits, digits after the point, and the exponent with its
sign, where there is one. -/
structure Lexeme where
  negative : Bool
  whole : List Char
  fraction : Option (List Char)
  exponent : Option (Bool × List Char)

/-- The digits at the front of a text, and the rest. -/
def spanDigits (text : List Char) : List Char × List Char :=
  text.span fun c => (Text.digitValue? c).isSome

/-- The whole part: a zero, or digits that do not start with a zero. -/
def Lexeme.whole? (text : List Char) : Option (List Char × List Char) :=
  match spanDigits text with
  | ([], _) => none
  | (['0'], rest) => some (['0'], rest)
  | ('0' :: _, _) => none
  | (digits, rest) => some (digits, rest)

/-- The part after the point: a point and digits, or nothing. -/
def Lexeme.fraction? : List Char → Option (Option (List Char) × List Char)
  | '.' :: text =>
      match spanDigits text with
      | ([], _) => none
      | (digits, rest) => some (some digits, rest)
  | text => some (none, text)

/-- The exponent: the letter, an optional sign and digits, or nothing at all. -/
def Lexeme.exponent? : List Char → Option (Option (Bool × List Char))
  | [] => some none
  | c :: text =>
      if c = 'e' ∨ c = 'E' then
        let (negative, unsigned) := match text with
          | '+' :: rest => (false, rest)
          | '-' :: rest => (true, rest)
          | _ => (false, text)
        match spanDigits unsigned with
        | ([], _) => none
        | (digits, []) => some (some (negative, digits))
        | _ => none
      else none

/-- Take a number as written apart. -/
def Lexeme.ofText? (text : List Char) : Option Lexeme := do
  let (negative, unsigned) := match text with
    | '-' :: rest => (true, rest)
    | _ => (false, text)
  let (whole, rest) ← Lexeme.whole? unsigned
  let (fraction, rest) ← Lexeme.fraction? rest
  let exponent ← Lexeme.exponent? rest
  return { negative, whole, fraction, exponent }

/-- The digits at the front whose value still fits in 64 bits, continuing the value `acc`, and
how many there were. -/
def leadingWord (acc taken : Nat) : List Char → Nat × Nat
  | [] => (acc, taken)
  | c :: rest =>
      match Text.digitValue? c with
      | some d =>
          if 10 * acc + d < Text.word64 then leadingWord (10 * acc + d) (taken + 1) rest
          else (acc, taken)
      | none => (acc, taken)

/-- Powers of ten up to this exponent are doubles. -/
def greatestPower : Nat := 308

/-- Divide by a power of ten, by at most the greatest one at a time. The fuel bounds the number
of divisions: a double is zero after three of the greatest. -/
def divideByPower (x : Double) : Nat → Nat → Double
  | 0, _ => x
  | fuel + 1, power =>
      if power ≤ greatestPower then (x.div? (Double.powerOfTen power)).getD x
      else if x.significand = 0 then x
      else
        divideByPower ((x.div? (Double.powerOfTen greatestPower)).getD x) fuel
          (power - greatestPower)

/-- The double `significand * 10 ^ power`, rounded at each step; none if it would be infinite. -/
def scale? (significand : Nat) (power : Int) : Option Double :=
  let x := Double.ofNat significand
  if power < 0 then some (divideByPower x 5 power.natAbs)
  else if power.toNat ≤ greatestPower then x.mul? (Double.powerOfTen power.toNat)
  else if significand = 0 then some x
  else none

/-- The exponent as a number, kept within 32 bits. One that does not fit makes the number zero or
too large, whatever its other digits say: `none`. -/
def Lexeme.power? (lexeme : Lexeme) : Option Int :=
  match lexeme.exponent with
  | none => some 0
  | some (negative, digits) =>
      match Text.readDigits 0 digits with
      | some n => if n < Text.word31 then some (if negative then -(n : Int) else n) else none
      | none => none

/-- Keep an integer within the bounds of 32 bits. -/
def clamp32 (n : Int) : Int :=
  max (-(Text.word31 : Int)) (min n (Text.word31 - 1))

/-- The double that a number as written stands for; none if it is too large. -/
def Lexeme.double? (lexeme : Lexeme) : Option Double := do
  let (significand, taken) := leadingWord 0 0 lexeme.whole
  let dropped : Int := (lexeme.whole.length : Int) - taken
  let (significand, taken) := leadingWord significand 0 (lexeme.fraction.getD [])
  let written : Int := dropped - taken
  let x ← match lexeme.power? with
    | some power =>
        scale? significand (if lexeme.exponent.isSome then clamp32 (written + power) else written)
    | none =>
        let negativePower := (lexeme.exponent.map Prod.fst).getD false
        if significand = 0 || negativePower then some (Double.zero false) else none
  return x.withSign lexeme.negative

/-- The number that a text stands for; none if it is not a number or too large for a double. -/
def ofText? (text : List Char) : Option Number := do
  let lexeme ← Lexeme.ofText? text
  match lexeme.fraction, lexeme.exponent, Text.readDigits 0 lexeme.whole with
  | none, none, some n =>
      if !lexeme.negative && n < Text.word64 then return .integer n
      else if lexeme.negative && 0 < n && n ≤ Text.word63 then return .integer (-(n : Int))
      else .real <$> lexeme.double?
  | _, _, _ => .real <$> lexeme.double?

/-- Doubles are written positionally when the exponent of their leading digit is from -5 to 15, and
otherwise with an exponent that always has a sign. -/
def layout : Layout :=
  ⟨-5, 15, true⟩

/-- The text of a number. -/
def text : Number → List Char
  | .integer n => signed n
  | .real x => layout.text x

end LanguageClient.Json.Number
