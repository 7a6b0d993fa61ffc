import LanguageClient.Toml.Basic
import LanguageClient.Text.Digits

/-!
Numbers, truth values, dates and times in TOML: what is written without quotes.
-/

namespace LanguageClient.Toml

/-- Characters of a value without quotes. -/
def isScalarChar (c : Char) : Bool :=
  c.isAlphanum || ['+', '-', '_', '.', ':'].contains c

/-- The digits of a number, between which single underscores may stand. -/
def digitsIn? (base : Nat) : List Char → Option (List Nat)
  | [] => none
  | [c] => (Text.digitIn? base c).map ([·])
  | c :: '_' :: rest =>
      (Text.digitIn? base c).bind fun digit => (digitsIn? base rest).map (digit :: ·)
  | c :: rest => (Text.digitIn? base c).bind fun digit => (digitsIn? base rest).map (digit :: ·)

/-- The digits of a whole number, which start with a zero only if there is no other. -/
def wholeDigits? (text : List Char) : Option (List Nat) :=
  (digitsIn? 10 text).filter fun digits => digits.head? ≠ some 0 || digits.length = 1

/-- The sign of a number, and the rest. -/
def takeSign : List Char → Bool × List Char
  | '-' :: rest => (true, rest)
  | '+' :: rest => (false, rest)
  | text => (false, text)

/-- An integer of any size. -/
def integer? (text : List Char) : Option Int :=
  match text with
  | '0' :: 'x' :: rest => (digitsIn? 16 rest).map fun digits => Text.ofDigits 16 digits
  | '0' :: 'o' :: rest => (digitsIn? 8 rest).map fun digits => Text.ofDigits 8 digits
  | '0' :: 'b' :: rest => (digitsIn? 2 rest).map fun digits => Text.ofDigits 2 digits
  | _ =>
      let (negative, unsigned) := takeSign text
      (wholeDigits? unsigned).map fun digits =>
        if negative then -(Text.ofDigits 10 digits : Int) else Text.ofDigits 10 digits

/-- The exponent of a number: an optional sign and digits. -/
def exponent? (text : List Char) : Option Int :=
  let (negative, unsigned) := takeSign text
  (digitsIn? 10 unsigned).map fun digits =>
    if negative then -(Text.ofDigits 10 digits : Int) else Text.ofDigits 10 digits

/-- The value of an integer: it has at most 128 bits, counted without its sign if it is positive. -/
def ofInteger (n : Int) : Value :=
  if -(Text.word127 : Int) ≤ n ∧ n < 2 * Text.word127 then .integer n else .tooLarge

/-- The value of a number with a fraction, an exponent, or both. -/
def real? (text : List Char) : Option Value := do
  let (negative, unsigned) := takeSign text
  let (mantissa, afterMantissa) := unsigned.span fun c => c ≠ 'e' && c ≠ 'E'
  let (whole, afterWhole) := mantissa.span (· ≠ '.')
  let wholeDigits ← wholeDigits? whole
  let fraction ← match afterWhole with
    | _ :: digits => digitsIn? 10 digits
    | [] => some []
  let exponent ← match afterMantissa with
    | _ :: digits => exponent? digits
    | [] => if afterWhole.isEmpty then none else some 0
  return match Decimal.Double.ofDecimal? negative (Text.ofDigits 10 (wholeDigits ++ fraction))
      (exponent - fraction.length) with
    | some x => .real x
    | none => .tooLarge

/-- The number that exactly so many decimal digits stand for, and the rest. -/
def fixed? : Nat → Nat → List Char → Option (Nat × List Char)
  | 0, acc, text => some (acc, text)
  | count + 1, acc, c :: rest =>
      match Text.digitValue? c with
      | some digit => fixed? count (acc * 10 + digit) rest
      | none => none
  | _ + 1, _, [] => none

/-- The text without the character that it must start with. -/
def skip? (c : Char) : List Char → Option (List Char)
  | first :: rest => if first = c then some rest else none
  | [] => none

/-- The days of a month. -/
def daysOf (year month : Nat) : Nat :=
  if month = 2 then
    if year % 4 = 0 && (year % 100 ≠ 0 || year % 400 = 0) then 29 else 28
  else if [4, 6, 9, 11].contains month then 30
  else 31

/-- Digits of a number, with zeros in front up to a width. -/
def padded (width n : Nat) : List Char :=
  let digits := Text.digits n
  List.replicate (width - digits.length) '0' ++ digits

/-- A date in its usual spelling, and the rest. -/
def date? (text : List Char) : Option (List Char × List Char) := do
  let (year, text) ← fixed? 4 0 text
  let (month, text) ← fixed? 2 0 (← skip? '-' text)
  let (day, text) ← fixed? 2 0 (← skip? '-' text)
  if 1 ≤ month ∧ month ≤ 12 ∧ 1 ≤ day ∧ day ≤ daysOf year month then
    some (padded 4 year ++ '-' :: padded 2 month ++ '-' :: padded 2 day, text)
  else none

/-- Digits of a second after the point, as far as they count: nine, without zeros at the end, but
at least one. -/
def usualFraction (digits : List Char) : List Char :=
  let kept := ((digits.take 9).reverse.dropWhile (· = '0')).reverse
  if kept.isEmpty then ['0'] else kept

/-- A time in its usual spelling, and the rest. Seconds may be left out. -/
def time? (text : List Char) : Option (List Char × List Char) := do
  let (hour, text) ← fixed? 2 0 text
  let (minute, text) ← fixed? 2 0 (← skip? ':' text)
  if 23 < hour ∨ 59 < minute then none
  else
    let short := padded 2 hour ++ ':' :: padded 2 minute
    match text with
    | ':' :: afterColon =>
        let (second, text) ← fixed? 2 0 afterColon
        if 60 < second then none
        else
          let whole := short ++ ':' :: padded 2 second
          match text with
          | '.' :: afterPoint =>
              let (digits, text) := afterPoint.span Char.isDigit
              if digits.isEmpty then none
              else some (whole ++ '.' :: usualFraction digits, text)
          | _ => some (whole, text)
    | _ => some (short, text)

/-- The distance from Greenwich in its usual spelling, in which zero is positive. Nothing may follow
it. -/
def offset? : List Char → Option (List Char)
  | [] => some []
  | ['Z'] | ['z'] => some ['Z']
  | sign :: text =>
      if sign = '+' ∨ sign = '-' then do
        let (hour, text) ← fixed? 2 0 text
        let (minute, text) ← fixed? 2 0 (← skip? ':' text)
        if 23 < hour ∨ 59 < minute ∨ ! text.isEmpty then none
        else
          let shown := if hour = 0 ∧ minute = 0 then '+' else sign
          some (shown :: padded 2 hour ++ ':' :: padded 2 minute)
      else none

/-- A date, a time, or both, in their usual spelling. -/
def moment? (text : List Char) : Option (List Char) :=
  match date? text with
  | some (date, []) => some date
  | some (date, separator :: rest) =>
      if separator = 'T' ∨ separator = 't' ∨ separator = ' ' then do
        let (time, rest) ← time? rest
        let offset ← offset? rest
        some (date ++ 'T' :: time ++ offset)
      else none
  | none =>
      match time? text with
      | some (time, []) => some time
      | _ => none

/-- What is written without quotes at the front of a text, and the rest. A date may be followed by
a blank and a time. -/
def takeScalar (text : List Char) : List Char × List Char :=
  let (word, rest) := text.span isScalarChar
  match date? word, rest with
  | some (_, []), ' ' :: c :: more =>
      if c.isDigit then
        let (time, rest) := (c :: more).span isScalarChar
        (word ++ ' ' :: time, rest)
      else (word, rest)
  | _, _ => (word, rest)

/-- The value that is written without quotes. -/
def scalar? (word : List Char) : Option Value :=
  let (_, unsigned) := takeSign word
  if word = "true".toList then some (.boolean true)
  else if word = "false".toList then some (.boolean false)
  else if unsigned = "inf".toList || unsigned = "nan".toList then some .notFinite
  else
    ((integer? word).map ofInteger).or <|
      ((moment? word).map fun text => Value.moment (String.ofList text)).or (real? word)

end LanguageClient.Toml
