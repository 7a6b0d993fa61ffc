import LanguageClient.Uri.Domain
import LanguageClient.Uri.Percent

/-!
The host of a URI: none, a name, or a numeric address. Where the scheme is one whose URIs name
hosts of the internet, a name is percent-decoded and in canonical form, and a name that ends in a
number must be an address of four bytes.
-/

namespace LanguageClient.Uri

/-- Whom a URI names as its host. -/
inductive Host where
  | absent
  | name (text : List Char)
  | address
deriving DecidableEq, Repr

namespace Host

/-- The value of a text in digits of some base. -/
def readBase (base : Nat) (acc : Nat) : List Char → Option Nat
  | [] => some acc
  | c :: rest =>
      match Text.digitIn? base c with
      | some digit => readBase base (base * acc + digit) rest
      | none => none

/-- The number that a part of an address of four bytes is: decimal, octal after a zero, or
hexadecimal. -/
def addressNumber? : List Char → Option Nat
  | [] => none
  | '0' :: 'x' :: rest | '0' :: 'X' :: rest => readBase 16 0 rest
  | '0' :: c :: rest => readBase 8 0 (c :: rest)
  | text => readBase 10 0 text

/-- The labels of a name without the empty one after a dot at the end. -/
def significant (labels : List (List Char)) : List (List Char) :=
  if labels.length > 1 && labels.getLast? = some [] then labels.dropLast else labels

/-- Whether the last label of a name is a number. -/
def endsInNumber (labels : List (List Char)) : Bool :=
  match (significant labels).getLast? with
  | some last =>
      (! last.isEmpty && last.all fun c => (Text.digitValue? c).isSome)
        || (addressNumber? last).isSome
  | none => false

/-- Whether labels are an address of four bytes, the last of which may stand for several of them. -/
def isShortAddress (labels : List (List Char)) : Bool :=
  let parts := significant labels
  parts.length ≤ 4 && match parts.mapM addressNumber? with
    | some numbers =>
        numbers.dropLast.all (· < 256) && match numbers.getLast? with
          | some last => last < Nat.pow 256 (5 - numbers.length)
          | none => false
    | none => false

/-- Whether a text is four decimal bytes, none with a leading zero. -/
def isPlainShortAddress (text : List Char) : Bool :=
  let parts := Text.splitOn '.' text
  parts.length = 4 && parts.all fun part =>
    (part.head? ≠ some '0' || part.length = 1) && ! part.isEmpty
      && match readBase 10 0 part with
        | some n => n < 256
        | none => false

/-- How many groups of 16 bits the parts between the colons of a long address stand for. -/
def groupCount? : List (List Char) → Option Nat
  | [] => some 0
  | part :: rest =>
      if ! part.isEmpty && part.length ≤ 4 && (readBase 16 0 part).isSome then
        (groupCount? rest).map (· + 1)
      else if rest.isEmpty && isPlainShortAddress part then some 2
      else none

/-- The text before the first pair of colons and the text after it. -/
def splitGap : List Char → Option (List Char × List Char)
  | ':' :: ':' :: rest => some ([], rest)
  | c :: rest => (splitGap rest).map fun (before, after) => (c :: before, after)
  | [] => none

/-- The parts of one side of a long address. -/
def groups (text : List Char) : List (List Char) :=
  if text.isEmpty then [] else Text.splitOn ':' text

/-- Whether a text is an address of eight groups of 16 bits, in which one pair of colons may stand
for groups that are zero. -/
def isLongAddress (text : List Char) : Bool :=
  match splitGap text with
  | none => groupCount? (groups text) = some 8
  | some (before, after) =>
      match groupCount? (groups before), groupCount? (groups after) with
      | some left, some right => left + right ≤ 7 && ! before.contains '.'
      | _, _ => false

/-- The address between brackets. -/
def ofBrackets? (text : List Char) : Option Host :=
  match text.reverse with
  | ']' :: inner => if isLongAddress inner.reverse then some .address else none
  | _ => none

/-- The host that a text names in a URI of a scheme of the internet. -/
def ofText? (text : List Char) : Option Host :=
  match text with
  | '[' :: inner => ofBrackets? inner
  | _ => do
      let labels ← Domain.ofText? (Text.decodeLossy (decode (Text.encode text)))
      if labels = [[]] then none
      else if endsInNumber labels then if isShortAddress labels then some .address else none
      else some (.name (['.'].intercalate labels))

/-- The host that a text names in a URI of any other scheme. -/
def ofOpaque? (text : List Char) : Option Host :=
  match text with
  | '[' :: inner => ofBrackets? inner
  | [] => some .absent
  | _ => if text.any Domain.isForbidden then none else some (.name text)

/-- The name by which a machine knows itself. -/
def loopback : Host := .name "localhost".toList

end Host

end LanguageClient.Uri
