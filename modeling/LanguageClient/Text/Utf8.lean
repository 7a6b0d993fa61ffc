/-!
Texts as bytes. `encode` writes a text in UTF-8. `pieces` takes bytes apart into characters and
broken stretches, a broken stretch being the longest start of a character that cannot go on;
`decode?` insists that nothing is broken and `decodeLossy` puts U+FFFD for each broken stretch.
-/

namespace LanguageClient

/-- A sequence of bytes. -/
abbrev Bytes := List UInt8

namespace Text

/-- The bytes of a text in UTF-8. -/
def encode (text : List Char) : Bytes :=
  text.flatMap String.utf8EncodeChar

/-- The bytes of a string in UTF-8. -/
def bytes (text : String) : Bytes :=
  encode text.toList

/-- What stands at the front of a sequence of bytes: a character, or a start of one that does
not go on. -/
inductive Piece where
  | char (c : Char)
  | broken
deriving DecidableEq, Repr

/-- What may follow the first byte of a character: the bounds of the second byte, and how many
further bytes come after that. -/
structure Lead where
  low : UInt8
  high : UInt8
  more : Nat

/-- The rule for a first byte that is not ASCII. Overlong forms, surrogates and values above
U+10FFFF are ruled out by the bounds of the second byte. -/
def lead? (first : UInt8) : Option Lead :=
  if first < 0xC2 then none
  else if first < 0xE0 then some ⟨0x80, 0xBF, 0⟩
  else if first = 0xE0 then some ⟨0xA0, 0xBF, 1⟩
  else if first = 0xED then some ⟨0x80, 0x9F, 1⟩
  else if first < 0xF0 then some ⟨0x80, 0xBF, 1⟩
  else if first = 0xF0 then some ⟨0x90, 0xBF, 2⟩
  else if first < 0xF4 then some ⟨0x80, 0xBF, 2⟩
  else if first = 0xF4 then some ⟨0x80, 0x8F, 2⟩
  else none

/-- A continuation byte. -/
def isContinuation (b : UInt8) : Bool :=
  0x80 ≤ b && b ≤ 0xBF

/-- Read `count` continuation bytes after the value `acc`. Answers the piece and how many bytes
it took, `taken` of which are already counted. -/
def continuation (acc taken : Nat) : Nat → Bytes → Piece × Nat
  | 0, _ => (.char (Char.ofNat acc), taken)
  | _ + 1, [] => (.broken, taken)
  | count + 1, b :: rest =>
      if isContinuation b then continuation (acc * 64 + b.toNat % 64) (taken + 1) count rest
      else (.broken, taken)

/-- The piece that starts with the byte `first`, and how many bytes of `rest` belong to it. -/
def piece (first : UInt8) (rest : Bytes) : Piece × Nat :=
  if first < 0x80 then (.char (Char.ofNat first.toNat), 0)
  else match lead? first, rest with
    | some lead, second :: others =>
        if lead.low ≤ second && second ≤ lead.high then
          let top := first.toNat % Nat.pow 2 (5 - lead.more)
          continuation (top * 64 + second.toNat % 64) 1 lead.more others
        else (.broken, 0)
    | _, _ => (.broken, 0)

/-- The characters and broken stretches of a sequence of bytes, in order. -/
def pieces : Bytes → List Piece
  | [] => []
  | first :: rest =>
      let (found, taken) := piece first rest
      found :: pieces (rest.drop taken)
termination_by bytes => bytes.length
decreasing_by
  simp only [List.length_drop, List.length_cons]
  omega

/-- The text that the bytes encode, if they are UTF-8 throughout. -/
def decode? (bytes : Bytes) : Option (List Char) :=
  (pieces bytes).mapM fun
    | .char c => some c
    | .broken => none

/-- The text of the bytes, with U+FFFD for every broken stretch. -/
def decodeLossy (bytes : Bytes) : List Char :=
  (pieces bytes).map fun
    | .char c => c
    | .broken => '\ufffd'

/-- The string that the bytes encode, if they are UTF-8 throughout. -/
def string? (bytes : Bytes) : Option String :=
  (decode? bytes).map String.ofList

/-- The string of the bytes, with U+FFFD for every broken stretch. -/
def stringLossy (bytes : Bytes) : String :=
  String.ofList (decodeLossy bytes)

end Text

end LanguageClient
