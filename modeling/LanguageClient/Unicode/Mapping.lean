import LanguageClient.Unicode.Mapping.Table
import LanguageClient.Unicode.Runs

/-!
What becomes of the characters of the name of a host before names are compared. Letters lose their
case, and characters that are another way to write others become those; what has no look of its own
vanishes.
-/

namespace LanguageClient.Unicode.Mapping

/-- The characters that are replaced, as a table. -/
def replacedRuns : Runs Replacement := Runs.ofLines Replacement.readRun replaced

/-- The characters that vanish, as a table. -/
def ignoredRuns : Runs Unit := Runs.ofSet ignored

/-- The characters that may not occur, as a table. -/
def disallowedRuns : Runs Unit := Runs.ofSet disallowed

/-- The text that a character becomes; none, if it may not occur. -/
def image? (c : Char) : Option (List Char) :=
  match replacedRuns.text? c with
  | some text => some text
  | none =>
      if ignoredRuns.contains c then some []
      else if disallowedRuns.contains c then none
      else some [c]

/-- Whether a character stays as it is. -/
def isKept (c : Char) : Bool :=
  image? c = some [c]

end LanguageClient.Unicode.Mapping
