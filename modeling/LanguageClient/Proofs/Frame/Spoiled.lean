import LanguageClient.Proofs.Frame.RoundTrip

/-! Header blocks with lengths that cannot be read. Such a length costs a call that reports it and
leaves the lines after it in the stream, where they are read as a block of their own; so the end of
the block is reported too, or takes away a part of what follows.
-/

namespace LanguageClient.Frame

-----------------------------------------------------------------------------------------
-- Lines before the end of a block
-----------------------------------------------------------------------------------------

/-- Lines of a header block before its blank one. -/
structure AreHeaders (lines : List Bytes) : Prop where
  ended : ∀ line ∈ lines, IsLine line
  filled : ∀ line ∈ lines, ¬ IsBlank line

/-- All lengths that these lines give can be read. -/
def AllReadable (lines : List Bytes) : Prop :=
  ∀ line ∈ lines, ∀ value, GivesLength line value → ∃ n, lengthOf? value = some n

theorem AreHeaders.of_append {before after : List Bytes} (headers : AreHeaders (before ++ after))
    : AreHeaders before ∧ AreHeaders after := by
  obtain ⟨ended, filled⟩ := headers
  rw [List.forall_mem_append] at ended filled
  exact ⟨⟨ended.1, filled.1⟩, ⟨ended.2, filled.2⟩⟩

theorem AreHeaders.of_cons {line : Bytes} {lines : List Bytes}
    (headers : AreHeaders (line :: lines))
    : IsLine line ∧ ¬ IsBlank line ∧ AreHeaders lines := by
  obtain ⟨ended, filled⟩ := headers
  rw [List.forall_mem_cons] at ended filled
  exact ⟨ended.1, filled.1, ended.2, filled.2⟩

/-- The reader of a block goes past lines that it can read, and knows no new length after them if
there is none among them. Induction on the lines.
-/
theorem readBlock_past {lines : List Bytes} (headers : AreHeaders lines)
    (readable : AllReadable lines) (length : Option Nat) (begun : Bool) (tail : Bytes)
    : ∃ known started,
        readBlock length begun (lines.flatten ++ tail) = readBlock known started tail
        ∧ (NoLength lines → known = length) := by
  induction lines generalizing length begun with
  | nil => exact ⟨length, begun, by simp, fun _ => rfl⟩
  | cons line lines ih =>
      obtain ⟨ended, filled, headers⟩ := headers.of_cons
      obtain ⟨read, readable⟩ := List.forall_mem_cons.mp readable
      have parts : (line :: lines).flatten ++ tail = line ++ (lines.flatten ++ tail) := by simp
      rw [parts, readBlock_append (.inl ended)]
      by_cases silent : ∀ value, ¬ GivesLength line value
      · rw [(Tells.other filled silent).eq_ofBytes]
        obtain ⟨known, started, same, kept⟩ := ih headers readable length true
        exact ⟨known, started, same, fun none => kept none.of_cons.2⟩
      · push Not at silent
        obtain ⟨value, given⟩ := silent
        obtain ⟨n, found⟩ := read value given
        rw [(Tells.length given found).eq_ofBytes]
        obtain ⟨known, started, same, _⟩ := ih headers readable (some n) true
        exact ⟨known, started, same, fun none => absurd given (none.of_cons.1 value)⟩

/-- The first length that cannot be read ends the call at once, and all that follows it is left. -/
theorem read_of_unreadable {before : List Bytes} {line : Bytes} {value : List Char}
    (headers : AreHeaders before) (readable : AllReadable before) (ended : IsLine line)
    (gives : GivesLength line value) (unread : lengthOf? value = none) (limit : Nat) (rest : Bytes)
    : read limit (before.flatten ++ (line ++ rest))
      = (.error (.invalidContentLength (String.ofList value)), rest) := by
  obtain ⟨known, started, same, _⟩ := readBlock_past headers readable none false (line ++ rest)
  refine read_of_failed ?_ limit
  rw [same, readBlock_append (.inl ended), (Tells.badLength gives unread).eq_ofBytes]

/-- Lines that give no length cost a call that says so. -/
theorem read_of_noLength {lines : List Bytes} {blank tail : Bytes} (headers : AreHeaders lines)
    (silent : NoLength lines) (isBlank : IsBlank blank) (ends : StandsFirst blank tail)
    (limit : Nat)
    : read limit (lines.flatten ++ (blank ++ tail)) = (.error .missingContentLength, tail) := by
  have readable : AllReadable lines := fun line member value gives =>
    absurd gives (silent line member value)
  obtain ⟨known, started, same, kept⟩ := readBlock_past headers readable none false (blank ++ tail)
  refine read_of_failed ?_ limit
  rw [same, kept silent, readBlock_append ends, (Tells.blank isBlank).eq_ofBytes]

-----------------------------------------------------------------------------------------
-- Lengths that cannot be read
-----------------------------------------------------------------------------------------

/-- Header lines taken apart at the lengths that cannot be read: the values of these, in order, and
the lines after the last of them.
-/
inductive Spoiled : List Bytes → List String → List Bytes → Prop
  | clean {lines} (readable : AllReadable lines) : Spoiled lines [] lines
  | bad {before line after value values left} (readable : AllReadable before)
      (gives : GivesLength line value) (unread : lengthOf? value = none)
      (later : Spoiled after values left)
    : Spoiled (before ++ line :: after) (String.ofList value :: values) left

theorem Spoiled.cons {line : Bytes} {lines left : List Bytes} {values : List String}
    (readable : ∀ value, GivesLength line value → ∃ n, lengthOf? value = some n)
    (spoiled : Spoiled lines values left)
    : ∃ left, Spoiled (line :: lines) values left := by
  cases spoiled with
  | clean others => exact ⟨_, .clean (List.forall_mem_cons.mpr ⟨readable, others⟩)⟩
  | @bad before _ _ _ _ _ others gives unread later =>
      have readable : AllReadable (line :: before) := List.forall_mem_cons.mpr ⟨readable, others⟩
      exact ⟨_, .bad readable gives unread later⟩

theorem exists_spoiled (lines : List Bytes) : ∃ values left, Spoiled lines values left := by
  induction lines with
  | nil => exact ⟨[], [], .clean (by simp [AllReadable])⟩
  | cons line lines ih =>
      obtain ⟨values, left, spoiled⟩ := ih
      by_cases readable : ∀ value, GivesLength line value → ∃ n, lengthOf? value = some n
      · exact ⟨values, spoiled.cons readable⟩
      · push Not at readable
        obtain ⟨value, gives, unread⟩ := readable
        have none : AllReadable [] := List.forall_mem_nil _
        exact ⟨String.ofList value :: values, left,
          .bad none gives (Option.eq_none_iff_forall_ne_some.mpr unread) spoiled⟩

theorem Spoiled.ne_nil {line : Bytes} {lines left : List Bytes} {values : List String}
    {value : List Char} (spoiled : Spoiled lines values left) (member : line ∈ lines)
    (gives : GivesLength line value) (unread : lengthOf? value = none)
    : values ≠ [] := by
  cases spoiled with
  | clean readable =>
      obtain ⟨n, read⟩ := readable line member value gives
      rw [unread] at read
      cases read
  | bad => simp

/-- What is left of the lines can be read, and is a block with the blank line. -/
theorem Spoiled.isBlock {lines left : List Bytes} {values : List String} {blank : Bytes}
    (spoiled : Spoiled lines values left) (headers : AreHeaders lines) (isBlank : IsBlank blank)
    : IsBlock left blank := by
  induction spoiled with
  | clean readable => exact ⟨headers.ended, headers.filled, readable, isBlank⟩
  | bad _ _ _ _ ih => exact ih headers.of_append.2.of_cons.2.2

/-- The report of a length that cannot be read. -/
def unreadable (value : String) : Except ClientError (Option Bytes) :=
  .error (.invalidContentLength value)

/-- Each length that cannot be read costs one call, and further calls go on with the lines after the
last of them. Induction on these lengths.
-/
theorem Spoiled.readTimes_eq {lines left : List Bytes} {values : List String}
    (spoiled : Spoiled lines values left) (headers : AreHeaders lines) (limit further : Nat)
    (tail : Bytes)
    : readTimes limit (further + values.length) (lines.flatten ++ tail)
      = (values.map unreadable ++ (readTimes limit further (left.flatten ++ tail)).1,
          (readTimes limit further (left.flatten ++ tail)).2) := by
  induction spoiled with
  | clean => simp
  | @bad before line after value values left readable gives unread _ ih =>
      obtain ⟨first, others⟩ := headers.of_append
      obtain ⟨ended, _, others⟩ := others.of_cons
      have parts
          : (before ++ line :: after).flatten ++ tail
            = before.flatten ++ (line ++ (after.flatten ++ tail)) := by
        simp
      rw [parts, List.length_cons, ← Nat.add_assoc, readTimes,
        read_of_unreadable first readable ended gives unread]
      simp only [ih others, List.map_cons, List.cons_append]
      rfl

/-- Bodies are read back from their frames, if all are within the limit. -/
theorem readTimes_of_within {bodies : List Bytes} {limit : Nat} (word : limit < Text.word64)
    (within : ∀ body ∈ bodies, body.length ≤ limit)
    : readTimes limit (1 + bodies.length) (encodeAll bodies)
      = (bodies.map (fun body => .ok (some body)) ++ [.ok none], []) := by
  have sized : ∀ body ∈ bodies, body.length < Text.word64 := fun body member =>
    Nat.lt_of_le_of_lt (within body member) word
  have answers : bodies.map (answerTo limit) = bodies.map fun body => .ok (some body) :=
    List.map_congr_left fun body member => if_pos (within body member)
  have frames := readTimes_flatMap sized limit 1 []
  rw [List.append_nil] at frames
  rw [encodeAll_eq_flatMap, frames, answers]
  simp [readTimes, read_nil]

/-- A header block with lengths that cannot be read, followed by frames: each of these lengths costs
one call that reports it, and what is left of the block is read as a block of its own. If no length
stands after the last of them, one more call reports that there is none, and then all bodies are
read back in order, up to the end of the stream. If there is one, as many bytes of the frames are
taken for its body. So a block with such a length never costs one report alone.
-/
theorem unreadable_lengths_leave_their_block (limit : Nat) (lines : List Bytes) (blank : Bytes)
    (bodies : List Bytes) (headers : AreHeaders lines) (isBlank : IsBlank blank)
    (ends : StandsFirst blank (encodeAll bodies))
    (bad : ∃ line ∈ lines, ∃ value, GivesLength line value ∧ lengthOf? value = none)
    (word : limit < Text.word64) (within : ∀ body ∈ bodies, body.length ≤ limit)
    : ∃ values left,
        Spoiled lines values left
        ∧ values ≠ []
        ∧ (∀ further,
            readTimes limit (further + values.length)
              (lines.flatten ++ (blank ++ encodeAll bodies))
            = (values.map unreadable
                ++ (readTimes limit further (left.flatten ++ (blank ++ encodeAll bodies))).1,
                (readTimes limit further (left.flatten ++ (blank ++ encodeAll bodies))).2))
        ∧ (NoLength left →
            readTimes limit (1 + bodies.length + 1 + values.length)
              (lines.flatten ++ (blank ++ encodeAll bodies))
            = (values.map unreadable ++ .error .missingContentLength
                :: (bodies.map (fun body => .ok (some body)) ++ [.ok none]),
                []))
        ∧ ∀ n, LastLength left n →
            read limit (left.flatten ++ (blank ++ encodeAll bodies))
            = if limit < n then (.error (.messageTooLarge n limit), (encodeAll bodies).drop n)
              else if (encodeAll bodies).length < n then (.error .unexpectedEof, [])
              else (.ok (some ((encodeAll bodies).take n)), (encodeAll bodies).drop n) := by
  obtain ⟨values, left, spoiled⟩ := exists_spoiled lines
  obtain ⟨line, member, value, gives, unread⟩ := bad
  have costs (further : Nat) :=
    spoiled.readTimes_eq headers limit further (blank ++ encodeAll bodies)
  have block : IsBlock left blank := spoiled.isBlock headers isBlank
  refine ⟨values, left, spoiled, spoiled.ne_nil member gives unread, costs, fun silent => ?_,
    fun n last => ?_⟩
  · rw [costs, readTimes, read_of_noLength ⟨block.ended, block.filled⟩ silent isBlank ends]
    simp only [readTimes_of_within word within]
  · rw [← List.append_assoc]
    exact read_of_isBlock block ends last limit

/-- A block whose only length is a word, and then a frame. -/
theorem word_as_length_leaves_its_block
    : let line := Text.bytes "Content-Length: bad\r\n"
      let blank := Text.bytes "\r\n"
      let bodies := [Text.bytes "[]"]
      (AreHeaders [line]
        ∧ IsBlank blank
        ∧ StandsFirst blank (encodeAll bodies)
        ∧ (∃ line' ∈ [line], ∃ value, GivesLength line' value ∧ lengthOf? value = none)
        ∧ 16 < Text.word64
        ∧ ∀ body ∈ bodies, body.length ≤ 16)
      ∧ ∃ values left, Spoiled [line] values left ∧ values ≠ [] := by
  intro line blank bodies
  have ended : IsLine line := ⟨Text.bytes "Content-Length: bad\r", by decide, by decide⟩
  have gives : GivesLength line "bad".toList :=
    ⟨lengthName, " bad\r\n".toList, by decide +kernel, by decide, by decide, by decide⟩
  have headers : AreHeaders [line] :=
    ⟨List.forall_mem_singleton.mpr ended, List.forall_mem_singleton.mpr gives.not_isBlank⟩
  have isBlank : Text.trim (Text.decodeLossy blank) = [] := by decide +kernel
  have ends : StandsFirst blank (encodeAll bodies) := .inl ⟨[0x0D], by decide, by decide⟩
  have bad : ∃ line' ∈ [line], ∃ value, GivesLength line' value ∧ lengthOf? value = none :=
    ⟨line, List.mem_cons_self, "bad".toList, gives, by decide⟩
  have within : ∀ body ∈ bodies, body.length ≤ 16 := by decide
  obtain ⟨values, left, spoiled, reported, _⟩ :=
    unreadable_lengths_leave_their_block 16 [line] blank bodies headers isBlank ends bad (by decide)
      within
  exact ⟨⟨headers, isBlank, ends, bad, by decide, within⟩, values, left, spoiled, reported⟩

/-- The blank line of a block with such a length is taken for a block of its own, and a length that
stands before it for that of the bytes after it: these are reported, or lost, beside the length.
-/
theorem leftover_lines_are_read
    : let frame := encodeAll [Text.bytes "[]"]
      let spoiled := Text.bytes "Content-Length: bad\r\n\r\n" ++ frame
      let overridden := Text.bytes "Content-Length: bad\r\nContent-Length: 2\r\n\r\n" ++ frame
      readAll 16 spoiled 8
        = [unreadable "bad", .error .missingContentLength, .ok (some (Text.bytes "[]")), .ok none]
      ∧ readAll 16 spoiled 8 ≠ [unreadable "bad", .ok (some (Text.bytes "[]")), .ok none]
      ∧ readAll 16 overridden 8
        = [unreadable "bad", .ok (some (Text.bytes "Co")), .error .missingContentLength,
            .error .unexpectedEof] := by
  decide +kernel

end LanguageClient.Frame
