import LanguageClient.Text.Utf8

/-!
Percent encoding: a byte that may not stand in a place of a URI is written as a percent sign and
two hexadecimal digits.
-/

namespace LanguageClient.Uri

/-- A hexadecimal digit, in upper case. -/
def hexDigit (n : Nat) : Char :=
  Char.ofNat (if n < 10 then 0x30 + n else 0x37 + n)

/-- The value of a hexadecimal digit of either case. -/
def hexValue? (b : UInt8) : Option Nat :=
  let n := b.toNat
  if 0x30 ≤ n ∧ n ≤ 0x39 then some (n - 0x30)
  else if 0x41 ≤ n ∧ n ≤ 0x46 then some (n - 0x37)
  else if 0x61 ≤ n ∧ n ≤ 0x66 then some (n - 0x57)
  else none

/-- The percent sign. -/
def percent : UInt8 := 0x25

/-- Printable characters that may not stand in a segment of a path. -/
def reservedInSegment : List Char :=
  [' ', '"', '#', '%', '/', '<', '>', '?', '\\', '\x60', '{', '}']

/-- Whether a byte stands for itself in a segment of a path. -/
def isPlain (b : UInt8) : Bool :=
  0x20 ≤ b && b < 0x7F && ! reservedInSegment.contains (Char.ofNat b.toNat)

/-- The text of a byte in a segment of a path. -/
def encodeByte (b : UInt8) : List Char :=
  if isPlain b then [Char.ofNat b.toNat]
  else ['%', hexDigit (b.toNat / 16), hexDigit (b.toNat % 16)]

/-- The text of a segment of a path. -/
def encodeSegment (segment : Bytes) : List Char :=
  segment.flatMap encodeByte

/-- The bytes that encoded bytes stand for. A percent sign without two digits after it stands for
itself. -/
def decode : Bytes → Bytes
  | first :: high :: low :: rest =>
      if first = percent then
        match hexValue? high, hexValue? low with
        | some h, some l => UInt8.ofNat (h * 16 + l) :: decode rest
        | _, _ => first :: decode (high :: low :: rest)
      else first :: decode (high :: low :: rest)
  | short => short

end LanguageClient.Uri
