import LanguageClient.Unicode.Composition.Table
import LanguageClient.Unicode.Runs

/-!
The composed form of texts. A letter and the marks after it may be written as one character or as
several, and marks that do not touch may be written in any order; `normalize` takes all characters
apart, puts the marks in the order of their classes, and composes what can be composed.
-/

namespace LanguageClient.Unicode.Composition

/-- The composed characters, as a table. -/
def composedRuns : Runs Replacement := Runs.ofLines Replacement.readRun composed

/-- The classes of marks, as a table. -/
def classRuns : Runs Nat := Runs.ofNumbers classes

/-- The class of a character. Only marks that can change their order with others have one other
than zero. -/
def classOf (c : Char) : Nat :=
  match classRuns.find? c with
  | some run => run.value
  | none => 0

/-- The class of the sign that takes the vowel from a letter in the scripts of India. -/
def virama : Nat := 9

/-! Syllables of Hangul have a leading consonant, a vowel, and perhaps a trailing consonant. -/

/-- The first syllable. -/
def firstSyllable : Nat := 0xAC00

/-- The first leading consonant. -/
def firstLeading : Nat := 0x1100

/-- The first vowel. -/
def firstVowel : Nat := 0x1161

/-- What stands before the first trailing consonant. -/
def noTrailing : Nat := 0x11A7

/-- How many leading consonants there are. -/
def leadingCount : Nat := 19

/-- How many vowels there are. -/
def vowelCount : Nat := 21

/-- How many trailing consonants there are, counting none as one. -/
def trailingCount : Nat := 28

/-- The parts of a syllable of Hangul. -/
def syllable? (c : Char) : Option (List Char) :=
  let index := c.toNat - firstSyllable
  if firstSyllable ≤ c.toNat ∧ index < leadingCount * vowelCount * trailingCount then
    let leading := Char.ofNat (firstLeading + index / (vowelCount * trailingCount))
    let vowel := Char.ofNat (firstVowel + index / trailingCount % vowelCount)
    let trailing := index % trailingCount
    some (leading :: vowel
      :: (if trailing = 0 then [] else [Char.ofNat (noTrailing + trailing)]))
  else none

/-- The syllable, or the start of one, that two parts make up. -/
def joinSyllable? (first second : Char) : Option Char :=
  let leading := first.toNat - firstLeading
  let vowel := second.toNat - firstVowel
  let index := first.toNat - firstSyllable
  let trailing := second.toNat - noTrailing
  if firstLeading ≤ first.toNat ∧ leading < leadingCount
      ∧ firstVowel ≤ second.toNat ∧ vowel < vowelCount then
    some (Char.ofNat (firstSyllable + (leading * vowelCount + vowel) * trailingCount))
  else if firstSyllable ≤ first.toNat ∧ index < leadingCount * vowelCount * trailingCount
      ∧ index % trailingCount = 0 ∧ noTrailing < second.toNat ∧ trailing < trailingCount then
    some (Char.ofNat (first.toNat + trailing))
  else none

/-- A character taken apart, at most so many times. -/
def apart : Nat → Char → List Char
  | 0, c => [c]
  | times + 1, c =>
      match syllable? c with
      | some parts => parts
      | none =>
          match composedRuns.text? c with
          | some parts => parts.flatMap (apart times)
          | none => [c]

/-- How often characters can be taken apart. -/
def greatestDepth : Nat := 4

/-- Put a mark after the marks at the end of a text whose class is not greater. The text has its
last character first. -/
def placeMark (mark : Char) : List Char → List Char
  | [] => [mark]
  | c :: before =>
      if classOf mark < classOf c then c :: placeMark mark before else mark :: c :: before

/-- A text with its marks in order, last character first. -/
def inOrder (done : List Char) : List Char → List Char
  | [] => done
  | c :: rest => inOrder (if classOf c = 0 then c :: done else placeMark c done) rest

/-- The pairs of characters that make up a composed one, with that one. -/
def pairs : Array (Char × Char × Char) :=
  composedRuns.flatMap fun run =>
    match run.value with
    | .texts each =>
        (each.toList.zipIdx.filterMap fun (text, offset) =>
          match text with
          | [first, second] => some (first, second, Char.ofNat (run.first + offset))
          | _ => none).toArray
    | .shift _ _ => #[]

/-- The composed character that two make up. -/
def join? (first second : Char) : Option Char :=
  (joinSyllable? first second).or <|
    if second.toNat < 0x80 then none
    else (pairs.find? fun (a, b, _) => a = first && b = second).map (·.2.2)

/-- Compose a character with those that follow it. `marks` are those after it that do not go with
it, last first. A mark is kept from it by one of the same or a greater class in between. -/
def compose (base : Char) (marks : List Char) : List Char → List Char
  | [] => base :: marks.reverse
  | c :: rest =>
      let free := marks.head?.all fun mark => classOf mark < classOf c
      match if free then join? base c else none with
      | some joined => compose joined marks rest
      | none =>
          if classOf c = 0 then base :: marks.reverse ++ compose c [] rest
          else compose base (c :: marks) rest

/-- The composed form of a text. -/
def normalize (text : List Char) : List Char :=
  match (inOrder [] (text.flatMap (apart greatestDepth))).reverse with
  | [] => []
  | first :: rest => compose first [] rest

end LanguageClient.Unicode.Composition
