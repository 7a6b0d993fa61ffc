import LanguageClient.Frame
import LanguageClient.Proofs.Text.Blank
import Mathlib.Data.List.TakeDrop

/-! The lines of a stream and what a header line says, told without the reader: where a line ends,
when it is blank, and which length it gives.
-/

namespace LanguageClient.Frame

-----------------------------------------------------------------------------------------
-- Where lines end
-----------------------------------------------------------------------------------------

/-- A line with the line feed that ends it. -/
def IsLine (line : Bytes) : Prop :=
  ∃ content, 0x0A ∉ content ∧ line = content ++ [0x0A]

/-- A last line that the end of the stream ends. -/
def IsUnended (line : Bytes) : Prop :=
  line ≠ [] ∧ 0x0A ∉ line

/-- A line stands first in a stream: it is ended by its line feed, or by the end of the stream. -/
def StandsFirst (line rest : Bytes) : Prop :=
  IsLine line ∨ (IsUnended line ∧ rest = [])

theorem IsLine.ne_nil {line : Bytes} (ended : IsLine line) : line ≠ [] := by
  obtain ⟨content, _, rfl⟩ := ended
  simp

theorem StandsFirst.ne_nil {line rest : Bytes} (first : StandsFirst line rest) : line ≠ [] := by
  rcases first with ended | ⟨unended, _⟩
  · exact ended.ne_nil
  · exact unended.1

theorem takeLine_append_of_not_mem {content : Bytes} (fresh : 0x0A ∉ content) (rest : Bytes)
    : takeLine (content ++ rest) = (content ++ (takeLine rest).1, (takeLine rest).2) := by
  induction content with
  | nil => rfl
  | cons b others ih =>
      have other : b ≠ 0x0A := fun same => fresh (same ▸ List.mem_cons_self)
      have later := ih fun member => fresh (List.mem_cons_of_mem b member)
      simp only [List.cons_append, takeLine, if_neg other, later]

/-- The line that stands first is the one that is taken. -/
theorem StandsFirst.takeLine_eq {line rest : Bytes} (first : StandsFirst line rest)
    : takeLine (line ++ rest) = (line, rest) := by
  rcases first with ⟨content, fresh, rfl⟩ | ⟨⟨_, fresh⟩, rfl⟩
  · rw [List.append_assoc, takeLine_append_of_not_mem fresh]
    simp [takeLine]
  · rw [takeLine_append_of_not_mem fresh]
    simp [takeLine]

/-- Some line stands first in every stream that is not empty. -/
theorem exists_standsFirst {stream : Bytes} (some : stream ≠ [])
    : ∃ line rest, stream = line ++ rest ∧ StandsFirst line rest := by
  by_cases ended : (0x0A : UInt8) ∈ stream
  · obtain ⟨content, rest, rfl, fresh⟩ := List.eq_append_cons_of_mem ended
    exact ⟨content ++ [0x0A], rest, by simp, .inl ⟨content, fresh, rfl⟩⟩
  · exact ⟨stream, [], by simp, .inr ⟨⟨some, ended⟩, rfl⟩⟩

-----------------------------------------------------------------------------------------
-- What lines say
-----------------------------------------------------------------------------------------

/-- A line whose text is blank throughout. -/
def IsBlank (line : Bytes) : Prop :=
  Text.trim (Text.decodeLossy line) = []

/-- A length line with its value. Before the first colon stands the name of the length, and after
it the value; neither blanks around them count nor the case of the name.
-/
def GivesLength (line : Bytes) (value : List Char) : Prop :=
  ∃ name afterColon,
    Text.decodeLossy line = name ++ ':' :: afterColon
    ∧ ':' ∉ name
    ∧ Text.sameIgnoringCase (Text.trim name) lengthName = true
    ∧ value = Text.trim afterColon

/-- The length that a value stands for, if it stands for one of 64 bits. -/
def lengthOf? (value : List Char) : Option Nat :=
  Text.readBounded Text.word64 value

theorem span_colon {name afterColon : List Char} (fresh : ':' ∉ name)
    : (name ++ ':' :: afterColon).span (· ≠ ':') = (name, ':' :: afterColon) := by
  have before : ∀ c ∈ name, (decide (c ≠ ':')) = true := by
    intro c member
    exact decide_eq_true fun same => fresh (same ▸ member)
  rw [List.span_eq_takeWhile_dropWhile, List.takeWhile_append_of_pos before,
    List.dropWhile_append_of_pos before]
  simp

theorem span_of_no_colon {text : List Char} (fresh : ':' ∉ text)
    : text.span (· ≠ ':') = (text, []) := by
  have before : ∀ c ∈ text, (decide (c ≠ ':')) = true := by
    intro c member
    exact decide_eq_true fun same => fresh (same ▸ member)
  rw [List.span_eq_takeWhile_dropWhile, List.dropWhile_eq_nil_iff.mpr before,
    List.takeWhile_eq_self_iff.mpr before]

/-- A line has one first colon, and so one value at most. -/
theorem GivesLength.unique {line : Bytes} {value other : List Char}
    (gives : GivesLength line value) (again : GivesLength line other)
    : value = other := by
  obtain ⟨name, afterColon, split, fresh, _, rfl⟩ := gives
  obtain ⟨name', afterColon', split', fresh', _, rfl⟩ := again
  have same := congrArg (List.span (· ≠ ':')) (split.symm.trans split')
  rw [span_colon fresh, span_colon fresh'] at same
  obtain ⟨_, rfl⟩ := List.cons.inj (Prod.mk.inj same).2
  rfl

theorem isBlank_colon : Text.isBlank ':' = false := by decide

theorem GivesLength.not_isBlank {line : Bytes} {value : List Char}
    (gives : GivesLength line value)
    : ¬ IsBlank line := by
  obtain ⟨name, afterColon, split, _, _, _⟩ := gives
  intro blank
  rw [IsBlank, split, Text.trim_append_cons isBlank_colon] at blank
  simp at blank

/-- What a line says, according to its text. -/
inductive Tells (line : Bytes) : Line → Prop
  | blank (blank : IsBlank line) : Tells line .blank
  | length {value n} (gives : GivesLength line value) (read : lengthOf? value = some n)
    : Tells line (.length n)
  | badLength {value} (gives : GivesLength line value) (unread : lengthOf? value = none)
    : Tells line (.badLength (String.ofList value))
  | other (filled : ¬ IsBlank line) (silent : ∀ value, ¬ GivesLength line value)
    : Tells line .other

/-- The reader takes every line for what its text says. That it looks for the colon in the trimmed
text makes no difference, since a colon is not blank.
-/
theorem tells_ofBytes (line : Bytes) : Tells line (Line.ofBytes line) := by
  by_cases blank : IsBlank line
  · have empty : (Text.trim (Text.decodeLossy line)).isEmpty = true := by rw [blank]; rfl
    simpa only [Line.ofBytes, if_pos empty] using .blank blank
  · have filled : (Text.trim (Text.decodeLossy line)).isEmpty ≠ true := by
      intro empty
      exact blank (List.isEmpty_iff.mp empty)
    by_cases colon : ':' ∈ Text.decodeLossy line
    · obtain ⟨name, afterColon, split, fresh⟩ := List.eq_append_cons_of_mem colon
      have start : ':' ∉ Text.trimStart name := fun member =>
        fresh (List.dropWhile_subset _ member)
      have parts
          : (Text.trim (Text.decodeLossy line)).span (· ≠ ':')
            = (Text.trimStart name, ':' :: Text.trimEnd afterColon) := by
        rw [split, Text.trim_append_cons isBlank_colon, span_colon start]
      simp only [Line.ofBytes, if_neg filled, parts, Text.trim_trimStart, Text.trim_trimEnd]
      by_cases named : Text.sameIgnoringCase (Text.trim name) lengthName = true
      · have gives : GivesLength line (Text.trim afterColon) :=
          ⟨name, afterColon, split, fresh, named, rfl⟩
        rw [if_pos named]
        cases read : Text.readBounded Text.word64 (Text.trim afterColon) with
        | some n => exact .length gives read
        | none => exact .badLength gives read
      · rw [if_neg named]
        refine .other blank fun value gives => named ?_
        obtain ⟨name', afterColon', split', fresh', named', _⟩ := gives
        have same := congrArg (List.span (· ≠ ':')) (split.symm.trans split')
        rw [span_colon fresh, span_colon fresh'] at same
        rw [(Prod.mk.inj same).1]
        exact named'
    · have absent : ':' ∉ Text.trim (Text.decodeLossy line) := fun member =>
        colon (Text.mem_of_mem_trim member)
      simp only [Line.ofBytes, if_neg filled, span_of_no_colon absent]
      refine .other blank fun value gives => colon ?_
      obtain ⟨name, afterColon, split, _⟩ := gives
      rw [split]
      exact List.mem_append_right _ List.mem_cons_self

/-- A line says one thing. -/
theorem Tells.eq_ofBytes {line : Bytes} {said : Line} (tells : Tells line said)
    : Line.ofBytes line = said := by
  have read := tells_ofBytes line
  generalize Line.ofBytes line = found at read
  cases tells with
  | blank blank =>
      cases read with
      | blank => rfl
      | length gives | badLength gives => exact absurd blank gives.not_isBlank
      | other filled => exact absurd blank filled
  | length gives parsed =>
      cases read with
      | blank blank => exact absurd blank gives.not_isBlank
      | length again parsed' =>
          rw [gives.unique again, parsed'] at parsed
          rw [Option.some.inj parsed]
      | badLength again unread =>
          rw [gives.unique again, unread] at parsed
          cases parsed
      | other _ silent => exact absurd gives (silent _)
  | badLength gives unread =>
      cases read with
      | blank blank => exact absurd blank gives.not_isBlank
      | length again parsed =>
          rw [gives.unique again, parsed] at unread
          cases unread
      | badLength again => rw [gives.unique again]
      | other _ silent => exact absurd gives (silent _)
  | other filled silent =>
      cases read with
      | blank blank => exact absurd blank filled
      | length gives | badLength gives => exact absurd gives (silent _)
      | other => rfl

end LanguageClient.Frame
