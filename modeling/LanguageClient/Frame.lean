import LanguageClient.Error
import LanguageClient.Text.Blank
import LanguageClient.Text.Utf8

/-!
Framing of messages in a stream of bytes. A frame is a block of header lines, ended by a blank
line, and a body of as many bytes as the last length line of the block says. `encode` makes a frame
and `write` adds one to a stream; `read` takes the first frame off a stream and answers what it
holds together with the rest of the stream.
-/

namespace LanguageClient.Frame

/-- Bodies above this length are refused unless a reader is told otherwise: 16 MiB. -/
def defaultLimit : Nat := 16 * 1024 * 1024

/-- The name of the header that gives the length of the body. -/
def lengthName : List Char := "Content-Length".toList

/-- The header block for a body of this length. -/
def header (length : Nat) : Bytes :=
  Text.encode (lengthName ++ ": ".toList ++ Text.digits length ++ "\r\n\r\n".toList)

/-- A body with its header block. -/
def encode (body : Bytes) : Bytes :=
  header body.length ++ body

/-- Write a body to a stream: its header block first, and then the body itself. -/
def write (stream body : Bytes) : Bytes :=
  (stream ++ header body.length) ++ body

/-- The stream to which several bodies were written, one after the other. -/
def encodeAll (bodies : List Bytes) : Bytes :=
  bodies.foldl write []

/-- The first line of a stream, with its line feed if it has one, and the rest of the stream. -/
def takeLine (stream : Bytes) : Bytes × Bytes :=
  match stream with
  | [] => ([], [])
  | b :: rest =>
      if b = 0x0A then ([b], rest)
      else let (line, rest) := takeLine rest; (b :: line, rest)

/-- What a header line says. -/
inductive Line where
  /-- The end of the block. -/
  | blank
  /-- The length of the body. -/
  | length (n : Nat)
  /-- A length that is not one, as written. -/
  | badLength (value : String)
  /-- Anything else. -/
  | other
deriving DecidableEq, Repr

/-- Read a header line. Bytes that are not UTF-8 count as U+FFFD, case and blanks around the name
and the value do not count, and lengths fit in 64 bits. -/
def Line.ofBytes (line : Bytes) : Line :=
  let text := Text.trim (Text.decodeLossy line)
  if text.isEmpty then .blank
  else
    let (name, afterName) := text.span (· ≠ ':')
    match afterName with
    | _ :: value =>
        if Text.sameIgnoringCase (Text.trim name) lengthName then
          let value := Text.trim value
          match Text.readBounded Text.word64 value with
          | some n => .length n
          | none => .badLength (String.ofList value)
        else .other
    | [] => .other

/-- A line takes at least one byte off a stream that is not empty. -/
theorem takeLine_rest_length (b : UInt8) (rest : Bytes)
    : (takeLine (b :: rest)).2.length ≤ rest.length := by
  induction rest generalizing b with
  | nil => simp only [takeLine]; split <;> simp
  | cons c rest ih =>
      simp only [takeLine]
      split
      · simp
      · exact Nat.le_trans (ih c) (by simp)

/-- What a header block says, and the rest of the stream after it. -/
inductive Block where
  /-- The stream ended before the block began. -/
  | absent
  /-- The length of the body. -/
  | length (n : Nat)
  /-- The block cannot be used. -/
  | failed (error : ClientError)
deriving DecidableEq, Repr

/-- Read header lines up to the end of the block. `length` is what the last length line so far
said, `begun` tells whether a line was read already. A length that is not one ends the reading at
once. -/
def readBlock (length : Option Nat) (begun : Bool) (stream : Bytes) : Block × Bytes :=
  match stream with
  | [] => (if begun then .failed .unexpectedEof else .absent, [])
  | b :: rest =>
      match Line.ofBytes (takeLine (b :: rest)).1 with
      | .blank =>
          (match length with
            | some n => .length n
            | none => .failed .missingContentLength,
            (takeLine (b :: rest)).2)
      | .length n => readBlock (some n) true (takeLine (b :: rest)).2
      | .badLength value => (.failed (.invalidContentLength value), (takeLine (b :: rest)).2)
      | .other => readBlock length true (takeLine (b :: rest)).2
termination_by stream.length
decreasing_by all_goals exact Nat.lt_succ_of_le (takeLine_rest_length b rest)

/-- Take the first frame off a stream: its body, nothing if the stream is empty, or an error. The
body of a frame that is too large is skipped, so that the rest starts with the next frame. -/
def read (limit : Nat) (stream : Bytes) : Except ClientError (Option Bytes) × Bytes :=
  match readBlock none false stream with
  | (.absent, rest) => (.ok none, rest)
  | (.failed error, rest) => (.error error, rest)
  | (.length n, rest) =>
      if limit < n then (.error (.messageTooLarge n limit), rest.drop n)
      else if rest.length < n then (.error .unexpectedEof, [])
      else (.ok (some (rest.take n)), rest.drop n)

/-- What successive reads of a stream answer, in order: it ends with the clean end of the stream,
with an error after which nothing can follow, or after `count` reads. -/
def readAll (limit : Nat) (stream : Bytes) : Nat → List (Except ClientError (Option Bytes))
  | 0 => []
  | count + 1 =>
      match read limit stream with
      | (.ok none, _) => [.ok none]
      | (.ok (some body), rest) => .ok (some body) :: readAll limit rest count
      | (.error error, rest) =>
          .error error :: if error.isFatal then [] else readAll limit rest count

end LanguageClient.Frame
