import LanguageClient.Text.Split
import LanguageClient.Unicode.Composition
import LanguageClient.Unicode.Direction
import LanguageClient.Unicode.Joining
import LanguageClient.Unicode.Mapping
import LanguageClient.Unicode.Marks
import LanguageClient.Uri.Punycode

/-!
Names of hosts of the internet. A name consists of labels between dots, whose letters have no
case. A label may hold letters of any script, or stand for such a label in ASCII letters after
`xn--`; both are one name. Names that could be mistaken for others are refused: those with
characters that have another form, with signs that are not seen, and with letters of both
directions in disorder.
-/

namespace LanguageClient.Uri.Domain

open Unicode

/-- Whether a character is one of ASCII. -/
def isAscii (c : Char) : Bool :=
  c.toNat < 0x80

/-- Characters that mean something else in a URI, or nothing. -/
def isForbidden (c : Char) : Bool :=
  c = '\x00' ||
    ['\t', '\n', '\r', ' ', '#', '/', ':', '<', '>', '?', '@', '[', '\\', ']', '^', '|'].contains c

/-- Characters that no label may hold. -/
def isForbiddenInLabel (c : Char) : Bool :=
  isForbidden c || c.toNat < 0x20 || c = '%' || c = '\x7f'

/-- The form in which names are compared. -/
def canonical? (name : List Char) : Option (List Char) :=
  if name.all isAscii then some (name.map Char.toLower)
  else (name.mapM Mapping.image?).map fun texts => Composition.normalize texts.flatten

/-- The most ASCII letters that may stand for a label. -/
def longestCode : Nat := 2000

/-- The most characters that a label with others than those of ASCII may hold. -/
def longestLabel : Nat := 1000

/-- The label that ASCII letters stand for. It must be in canonical form. -/
def decoded? (code : List Char) : Option (List Char) :=
  if code.isEmpty || code.getLast? = some '-' || longestCode < code.length
      || ! code.all isAscii then none
  else
    (Punycode.decode? code).filter fun label =>
      label.all (fun c => Mapping.isKept c && c ≠ '.') && Composition.normalize label = label

/-- A label without its ASCII form. -/
def plain? (label : List Char) : Option (List Char) :=
  match label with
  | 'x' :: 'n' :: '-' :: '-' :: code => decoded? code
  | _ => some label

/-- A sign between letters that would join. -/
def nonJoiner : Char := '\u200c'

/-- A sign between letters that would not join. -/
def joiner : Char := '\u200d'

/-- Whether the first of some characters that is no mark joins. -/
def meets (joins : Char → Bool) (text : List Char) : Bool :=
  match text.dropWhile fun c => Joining.isTransparent c && ! joins c with
  | c :: _ => joins c
  | [] => false

/-- Whether a label holds the signs for joined letters only where they are seen: after the sign that
takes the vowel from a letter, or between letters that join. `before` is what stands before a text,
last character first. -/
def joinsInPlace (before : List Char) : List Char → Bool
  | [] => true
  | c :: rest =>
      let follows := before.head?.any fun last => Composition.classOf last = Composition.virama
      let separates := meets Joining.joinsAfter before && meets Joining.joinsBefore rest
      (if c = nonJoiner then follows || separates else if c = joiner then follows else true)
        && joinsInPlace (c :: before) rest

/-- Whether a label holds only what labels may hold. -/
def isLabel (label : List Char) : Bool :=
  ! label.any isForbiddenInLabel
    && (label.all isAscii
      || label.length ≤ longestLabel && ! label.head?.any Marks.isMark && joinsInPlace [] label)

/-- Whether a direction turns a name around. -/
def turns (direction : Direction) : Bool :=
  [.rightToLeft, .arabicLetter, .arabicNumber].contains direction

/-- Whether a direction may stand in a label that runs from left to right. -/
def runsRight (direction : Direction) : Bool :=
  ! turns direction

/-- Whether a direction may stand in a label that runs from right to left. -/
def runsLeft (direction : Direction) : Bool :=
  direction ≠ .leftToRight

/-- Whether the characters of a label stay together where names are written in both directions. It
starts with a letter, ends in a letter or a number, and does not mix directions. -/
def keepsTogether (label : List Direction) : Bool :=
  let last := (label.reverse.dropWhile (· = .mark)).head?
  match label.head? with
  | none => true
  | some .leftToRight =>
      label.all runsRight
        && last.any fun direction => [.leftToRight, .europeanNumber].contains direction
  | some .rightToLeft | some .arabicLetter =>
      label.all runsLeft
        && ! (label.contains .europeanNumber && label.contains .arabicNumber)
        && last.any fun direction => turns direction || direction = .europeanNumber
  | some _ => false

/-- Whether labels can be told apart where they are written. -/
def areReadable (labels : List (List Char)) : Bool :=
  labels.all (·.all isAscii) ||
    let directions := labels.map fun label => label.map Direction.ofChar
    ! directions.any (·.any turns) || directions.all keepsTogether

/-- The labels of a name. -/
def ofText? (text : List Char) : Option (List (List Char)) := do
  let name ← canonical? text
  let labels ← (Text.splitOn '.' name).mapM plain?
  if labels.all isLabel && areReadable labels then some labels else none

end LanguageClient.Uri.Domain
