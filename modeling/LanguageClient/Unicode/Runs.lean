import LanguageClient.Text.Digits
import LanguageClient.Text.Split

/-!
Tables of characters. A table is a list of runs of code points in ascending order, no two of which
meet, so a character is found by halving. Tables are written as words, one for each run, with code
points in hexadecimal digits.
-/

namespace LanguageClient.Unicode

/-- What holds for the code points from the first to the last. -/
structure Run (α : Type) where
  first : Nat
  last : Nat
  value : α

/-- A table of characters. -/
abbrev Runs (α : Type) := Array (Run α)

namespace Runs

variable {α : Type}

/-- The last run between two places of a table that starts at or before a code point; the run at
the first place, if none does. -/
def seek? (runs : Runs α) (code low high : Nat) : Option (Run α) :=
  if high ≤ low + 1 then runs[low]?
  else
    let middle := (low + high) / 2
    match runs[middle]? with
    | some run =>
        if run.first ≤ code then runs.seek? code middle high else runs.seek? code low middle
    | none => none
termination_by high - low
decreasing_by
  · omega
  · omega

/-- The run that a character belongs to. -/
def find? (runs : Runs α) (c : Char) : Option (Run α) :=
  (runs.seek? c.toNat 0 runs.size).filter fun run => run.first ≤ c.toNat && c.toNat ≤ run.last

/-- Whether a character belongs to a run. -/
def contains (runs : Runs α) (c : Char) : Bool :=
  (runs.find? c).isSome

/-- The number that hexadecimal digits stand for. -/
def number (text : List Char) : Nat :=
  Text.ofDigits 16 (text.filterMap (Text.digitIn? 16))

/-- A table that is written in lines of words. -/
def ofLines (read : List Char → Run α) (lines : List String) : Runs α :=
  (lines.flatMap fun line => (Text.splitOn ' ' line.toList).map read).toArray

/-- The run that a word writes: the first code point and, after a dash, the last one. After an
equals sign follows what holds for them. -/
def readRun (value : List Char → α) (word : List Char) : Run α :=
  let (range, rest) := word.span (· ≠ '=')
  let (first, last) := range.span (· ≠ '-')
  { first := number first
    last := if last.isEmpty then number first else number last
    value := value (rest.drop 1) }

/-- A table that only tells which characters belong to it. -/
def ofSet (lines : List String) : Runs Unit :=
  ofLines (readRun fun _ => ()) lines

/-- A table that gives characters a number. -/
def ofNumbers (lines : List String) : Runs Nat :=
  ofLines (readRun number) lines

end Runs

/-- What stands for the characters of a run. -/
inductive Replacement where
  /-- For every so many of them, from the first one on, the character that is as far from the
  target as they are from the first one. -/
  | shift (step target : Nat)
  /-- For each of them its own text. -/
  | texts (each : Array (List Char))

namespace Replacement

/-- The characters that a word lists between plus signs. -/
def readText (word : List Char) : List Char :=
  (Text.splitOn '+' word).map fun digits => Char.ofNat (Runs.number digits)

/-- The run that a word writes. A range is shifted to the target after an equals sign as a whole,
and after a colon every second of its characters; a code point alone starts a list of texts, which
stand for it and for those after it. -/
def readRun (word : List Char) : Run Replacement :=
  let (range, rest) := word.span fun c => c ≠ '=' && c ≠ ':'
  let (first, last) := range.span (· ≠ '-')
  let first := Runs.number first
  match last, rest with
  | _ :: last, mark :: target =>
      let step := if mark = ':' then 2 else 1
      ⟨first, Runs.number last, .shift step (Runs.number target)⟩
  | _, _ =>
      let each := (Text.splitOn ',' (rest.drop 1)).map readText
      ⟨first, first + each.length - 1, .texts each.toArray⟩

end Replacement

/-- The text that stands for a character, if the table has one. -/
def Runs.text? (runs : Runs Replacement) (c : Char) : Option (List Char) := do
  let run ← runs.find? c
  let offset := c.toNat - run.first
  match run.value with
  | .shift step target => if offset % step = 0 then some [Char.ofNat (target + offset)] else none
  | .texts each => each[offset]?

end LanguageClient.Unicode
