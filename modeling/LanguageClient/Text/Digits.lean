/-!
Digits of natural numbers: writing decimal ones, reading them with an upper bound, and reading those
of other bases.
-/

namespace LanguageClient.Text

/-- The decimal digits of a number, without leading zeros. -/
def digits (n : Nat) : List Char :=
  Nat.toDigits 10 n

/-- The value of a decimal digit, if the character is one. Only the ten ASCII digits count. -/
def digitValue? (c : Char) : Option Nat :=
  if '0' ≤ c ∧ c ≤ '9' then some (c.toNat - '0'.toNat) else none

/-- The value of a run of decimal digits read after the value `acc`. -/
def readDigits (acc : Nat) : List Char → Option Nat
  | [] => some acc
  | c :: rest =>
      match digitValue? c with
      | some d => readDigits (10 * acc + d) rest
      | none => none

/-- The number a text stands for: decimal digits, at least one, with an optional plus sign.
Numbers of `bound` and above are refused, as is every other text.
-/
def readBounded (bound : Nat) (text : List Char) : Option Nat :=
  let unsigned := match text with
    | '+' :: rest => rest
    | _ => text
  match unsigned with
  | [] => none
  | _ => (readDigits 0 unsigned).filter (· < bound)

/-- The value of a digit of some base. -/
def digitIn? (base : Nat) (c : Char) : Option Nat :=
  let value :=
    if c.isDigit then some (c.toNat - '0'.toNat)
    else if 'a' ≤ c ∧ c ≤ 'f' then some (c.toNat - 'a'.toNat + 10)
    else if 'A' ≤ c ∧ c ≤ 'F' then some (c.toNat - 'A'.toNat + 10)
    else none
  value.filter (· < base)

/-- The number with these digits. -/
def ofDigits (base : Nat) (digits : List Nat) : Nat :=
  digits.foldl (fun acc digit => acc * base + digit) 0

/-- The numbers that fit in 31 bits lie below this. -/
def word31 : Nat := 2147483648

/-- The numbers that fit in a word of 32 bits lie below this. -/
def word32 : Nat := 4294967296

/-- The numbers that fit in 63 bits lie below this. -/
def word63 : Nat := 9223372036854775808

/-- The numbers that fit in a word of 64 bits lie below this. -/
def word64 : Nat := 18446744073709551616

/-- The numbers that fit in 127 bits lie below this. -/
def word127 : Nat := 170141183460469231731687303715884105728

end LanguageClient.Text
