/-!
Texts as 16-bit units, in which editors and servers count columns. A character outside the basic
plane takes two units, and a stretch of units is a text only if it splits no such pair.
-/

namespace LanguageClient.Text

/-- The number of 16-bit units of a character. -/
def unitsOf (c : Char) : Nat :=
  if c.toNat < 0x10000 then 1 else 2

/-- The number of 16-bit units of a text. -/
def units : List Char → Nat
  | [] => 0
  | c :: rest => unitsOf c + units rest

/-- The part of a text before its unit `count`, and the part from there on. There is none if the
text is shorter or if the unit lies inside a character. -/
def splitUnits? : Nat → List Char → Option (List Char × List Char)
  | 0, text => some ([], text)
  | _ + 1, [] => none
  | count + 1, c :: rest =>
      if unitsOf c ≤ count + 1 then
        (splitUnits? (count + 1 - unitsOf c) rest).map fun (front, back) => (c :: front, back)
      else none

/-- The part of a text from unit `first` up to unit `last`. There is none if the bounds are
reversed or outside the text. The bounds of an empty part may lie anywhere in the text, also
inside a character; a part that is not empty splits no character. -/
def sliceUnits? (text : List Char) (first last : Nat) : Option (List Char) :=
  if first = last then
    if last ≤ units text then some [] else none
  else if first < last then do
    let (_, back) ← splitUnits? first text
    let (part, _) ← splitUnits? (last - first) back
    return part
  else none

end LanguageClient.Text
