import LanguageClient.Proofs.Frame.Lines

/-! The grammar of frames. A reader takes a body off a stream exactly when a header block stands
before it whose last length line gives the length of the body; nothing else in the block counts.
-/

namespace LanguageClient.Frame

-----------------------------------------------------------------------------------------
-- Reading line by line
-----------------------------------------------------------------------------------------

/-- What holds of the empty stream, and of a stream if it holds of what follows its first line,
holds of all streams. Induction on the length: a line has at least one byte.
-/
theorem line_induction {P : Bytes → Prop} (empty : P [])
    (line : ∀ line rest, StandsFirst line rest → P rest → P (line ++ rest)) (stream : Bytes)
    : P stream := by
  induction length : stream.length using Nat.strong_induction_on generalizing stream with
  | h count ih =>
      by_cases some : stream = []
      · exact some ▸ empty
      · obtain ⟨first, rest, rfl, stands⟩ := exists_standsFirst some
        have shorter : rest.length < count := by
          have positive : 0 < first.length := List.length_pos_of_ne_nil stands.ne_nil
          rw [List.length_append] at length
          omega
        exact line first rest stands (ih rest.length shorter rest rfl)

/-- The reader of a block looks at the first line, and goes on after it unless the line ends the
block or spoils it.
-/
theorem readBlock_append {line rest : Bytes} (first : StandsFirst line rest) (length : Option Nat)
    (begun : Bool)
    : readBlock length begun (line ++ rest)
      = match Line.ofBytes line with
        | .blank =>
            (match length with
              | some n => .length n
              | none => .failed .missingContentLength,
              rest)
        | .length n => readBlock (some n) true rest
        | .badLength value => (.failed (.invalidContentLength value), rest)
        | .other => readBlock length true rest := by
  have taken := first.takeLine_eq
  cases whole : line ++ rest with
  | nil => exact absurd (List.append_eq_nil_iff.mp whole).1 first.ne_nil
  | cons b others =>
      rw [whole] at taken
      have unfolded := readBlock.eq_def length begun (b :: others)
      simp only [taken] at unfolded
      exact unfolded.trans (by cases Line.ofBytes line <;> rfl)

-----------------------------------------------------------------------------------------
-- Header blocks
-----------------------------------------------------------------------------------------

/-- The lines of a header block: a blank one at the end and none before it, and no length that
cannot be read.
-/
structure IsBlock (lines : List Bytes) (blank : Bytes) : Prop where
  ended : ∀ line ∈ lines, IsLine line
  filled : ∀ line ∈ lines, ¬ IsBlank line
  readable : ∀ line ∈ lines, ∀ value, GivesLength line value → ∃ n, lengthOf? value = some n
  blank : IsBlank blank

/-- No line among these is a length line. -/
def NoLength (lines : List Bytes) : Prop :=
  ∀ line ∈ lines, ∀ value, ¬ GivesLength line value

/-- The last length line among these has this length as its value. -/
def LastLength (lines : List Bytes) (n : Nat) : Prop :=
  ∃ before line after value,
    lines = before ++ line :: after
    ∧ GivesLength line value
    ∧ lengthOf? value = some n
    ∧ NoLength after

theorem LastLength.cons {lines : List Bytes} {n : Nat} (last : LastLength lines n) (line : Bytes)
    : LastLength (line :: lines) n := by
  obtain ⟨before, found, after, value, rfl, gives⟩ := last
  exact ⟨line :: before, found, after, value, rfl, gives⟩

theorem LastLength.of_cons {line : Bytes} {lines : List Bytes} {n : Nat}
    (last : LastLength (line :: lines) n)
    : LastLength lines n
      ∨ (∃ value, GivesLength line value ∧ lengthOf? value = some n) ∧ NoLength lines := by
  obtain ⟨before, found, after, value, split, gives, read, silent⟩ := last
  cases before with
  | nil =>
      obtain ⟨rfl, rfl⟩ := List.cons.inj split
      exact .inr ⟨⟨value, gives, read⟩, silent⟩
  | cons first others =>
      obtain ⟨rfl, rfl⟩ := List.cons.inj split
      exact .inl ⟨others, found, after, value, rfl, gives, read, silent⟩

theorem NoLength.of_cons {line : Bytes} {lines : List Bytes} (silent : NoLength (line :: lines))
    : (∀ value, ¬ GivesLength line value) ∧ NoLength lines :=
  List.forall_mem_cons.mp silent

theorem IsBlock.of_cons {line blank : Bytes} {lines : List Bytes}
    (block : IsBlock (line :: lines) blank)
    : IsBlock lines blank where
  ended other member := block.ended other (List.mem_cons_of_mem line member)
  filled other member := block.filled other (List.mem_cons_of_mem line member)
  readable other member := block.readable other (List.mem_cons_of_mem line member)
  blank := block.blank

theorem IsBlock.cons {line blank : Bytes} {lines : List Bytes} (block : IsBlock lines blank)
    (ended : IsLine line) (filled : ¬ IsBlank line)
    (readable : ∀ value, GivesLength line value → ∃ n, lengthOf? value = some n)
    : IsBlock (line :: lines) blank where
  ended := List.forall_mem_cons.mpr ⟨ended, block.ended⟩
  filled := List.forall_mem_cons.mpr ⟨filled, block.filled⟩
  readable := List.forall_mem_cons.mpr ⟨readable, block.readable⟩
  blank := block.blank

/-- A block is read to its end, and gives the length of its last length line, or without one the
length that was known before. Induction on its lines.
-/
theorem readBlock_of_isBlock {lines : List Bytes} {blank rest : Bytes} {length : Option Nat}
    {n : Nat} (block : IsBlock lines blank) (ends : StandsFirst blank rest)
    (gives : LastLength lines n ∨ length = some n ∧ NoLength lines) (begun : Bool)
    : readBlock length begun (lines.flatten ++ blank ++ rest) = (.length n, rest) := by
  induction lines generalizing length begun with
  | nil =>
      have known : length = some n := by
        rcases gives with ⟨before, line, after, _, split, _⟩ | ⟨known, _⟩
        · simp at split
        · exact known
      rw [List.flatten_nil, List.nil_append, readBlock_append ends,
        (Tells.blank block.blank).eq_ofBytes, known]
  | cons line lines ih =>
      have first : StandsFirst line (lines.flatten ++ blank ++ rest) :=
        .inl (block.ended line List.mem_cons_self)
      have parts
          : (line :: lines).flatten ++ blank ++ rest
            = line ++ (lines.flatten ++ blank ++ rest) := by
        simp
      rw [parts, readBlock_append first]
      by_cases silent : ∀ value, ¬ GivesLength line value
      · rw [(Tells.other (block.filled line List.mem_cons_self) silent).eq_ofBytes]
        refine ih block.of_cons ?_ true
        rcases gives with last | ⟨known, none⟩
        · rcases last.of_cons with last | ⟨⟨value, given, _⟩, _⟩
          · exact .inl last
          · exact absurd given (silent value)
        · exact .inr ⟨known, none.of_cons.2⟩
      · push Not at silent
        obtain ⟨value, given⟩ := silent
        obtain ⟨m, read⟩ := block.readable line List.mem_cons_self value given
        rw [(Tells.length given read).eq_ofBytes]
        refine ih block.of_cons ?_ true
        rcases gives with last | ⟨_, none⟩
        · rcases last.of_cons with last | ⟨⟨other, again, reads⟩, none⟩
          · exact .inl last
          · rw [← given.unique again, read] at reads
            exact .inr ⟨reads, none⟩
        · exact absurd given (none.of_cons.1 value)

/-- Where the reader finds a length, it has read a block. Induction on the stream line by line; what
the later lines say of the length counts before what was known already.
-/
theorem isBlock_of_readBlock {stream rest : Bytes} {length : Option Nat} {begun : Bool} {n : Nat}
    (read : readBlock length begun stream = (.length n, rest))
    : ∃ lines blank,
        stream = lines.flatten ++ blank ++ rest
        ∧ IsBlock lines blank
        ∧ StandsFirst blank rest
        ∧ (LastLength lines n ∨ length = some n ∧ NoLength lines) := by
  induction stream using line_induction generalizing length begun with
  | empty =>
      rw [readBlock] at read
      cases begun <;> simp at read
  | line line tail first ih =>
      rw [readBlock_append first] at read
      -- A line that does not end the block is ended by its line feed, since more lines follow it.
      have ended {length : Option Nat} (later : readBlock length true tail = (.length n, rest))
          : IsLine line := by
        rcases first with ended | ⟨_, rfl⟩
        · exact ended
        · simp [readBlock] at later
      have tells := tells_ofBytes line
      generalize Line.ofBytes line = found at read tells
      cases tells with
      | blank blank =>
          cases length with
          | none => simp at read
          | some known =>
              obtain ⟨same, rfl⟩ := Prod.mk.inj read
              obtain rfl := Block.length.inj same
              have block : IsBlock [] line := ⟨by simp, by simp, by simp, blank⟩
              exact ⟨[], line, by simp, block, first, .inr ⟨rfl, by simp [NoLength]⟩⟩
      | badLength => simp at read
      | @length value m given reads =>
          obtain ⟨lines, blank, rfl, block, ends, gives⟩ := ih read
          have readable : ∀ other, GivesLength line other → ∃ n, lengthOf? other = some n := by
            intro other again
            exact ⟨m, given.unique again ▸ reads⟩
          refine ⟨line :: lines, blank, by simp,
            block.cons (ended read) given.not_isBlank readable, ends, ?_⟩
          rcases gives with last | ⟨same, none⟩
          · exact .inl (last.cons line)
          · exact .inl ⟨[], line, lines, value, rfl, given, reads.trans same, none⟩
      | other filled silent =>
          obtain ⟨lines, blank, rfl, block, ends, gives⟩ := ih read
          have readable : ∀ other, GivesLength line other → ∃ n, lengthOf? other = some n := by
            intro other again
            exact absurd again (silent other)
          refine ⟨line :: lines, blank, by simp, block.cons (ended read) filled readable, ends, ?_⟩
          rcases gives with last | ⟨known, none⟩
          · exact .inl (last.cons line)
          · exact .inr ⟨known, List.forall_mem_cons.mpr ⟨silent, none⟩⟩

-----------------------------------------------------------------------------------------
-- Frames
-----------------------------------------------------------------------------------------

/-- A block that cannot be used is all that is read. -/
theorem read_of_failed {stream rest : Bytes} {error : ClientError}
    (block : readBlock none false stream = (.failed error, rest)) (limit : Nat)
    : read limit stream = (.error error, rest) := by
  simp only [read, block]

/-- After a block that gives a length, the reader takes as many bytes. -/
theorem read_of_length {stream tail : Bytes} {n : Nat}
    (block : readBlock none false stream = (.length n, tail)) (limit : Nat)
    : read limit stream
      = if limit < n then (.error (.messageTooLarge n limit), tail.drop n)
        else if tail.length < n then (.error .unexpectedEof, [])
        else (.ok (some (tail.take n)), tail.drop n) := by
  simp only [read, block]

/-- After a block, the reader takes as many bytes as its last length line gives. -/
theorem read_of_isBlock {lines : List Bytes} {blank tail : Bytes} {n : Nat}
    (block : IsBlock lines blank) (ends : StandsFirst blank tail) (gives : LastLength lines n)
    (limit : Nat)
    : read limit (lines.flatten ++ blank ++ tail)
      = if limit < n then (.error (.messageTooLarge n limit), tail.drop n)
        else if tail.length < n then (.error .unexpectedEof, [])
        else (.ok (some (tail.take n)), tail.drop n) :=
  read_of_length (readBlock_of_isBlock block ends (.inl gives) false) limit

/-- A body is read off a stream, and a rest left, exactly when the stream is a header block, the
body and the rest: lines that are not blank and a blank line that ends them, the last one perhaps
ended by the end of the stream; values of length lines that can be read; and as the last of them the
length of the body, within the limit. So two blocks whose last length lines agree can stand for one
another, whatever else they hold.
-/
theorem read_eq_body_iff (limit : Nat) (stream body rest : Bytes)
    : (read limit stream = (.ok (some body), rest)
        ↔ ∃ lines blank,
            stream = lines.flatten ++ blank ++ body ++ rest
            ∧ IsBlock lines blank
            ∧ StandsFirst blank (body ++ rest)
            ∧ LastLength lines body.length
            ∧ body.length ≤ limit)
      ∧ ∀ lines blank others blank' n tail,
          IsBlock lines blank → StandsFirst blank tail → LastLength lines n →
          IsBlock others blank' → StandsFirst blank' tail → LastLength others n →
            read limit (lines.flatten ++ blank ++ tail)
            = read limit (others.flatten ++ blank' ++ tail) := by
  refine ⟨⟨?_, ?_⟩, ?_⟩
  · intro taken
    cases found : readBlock none false stream with
    | mk what tail =>
        cases what with
        | absent | failed => simp [read, found] at taken
        | length n =>
            obtain ⟨lines, blank, rfl, block, ends, gives⟩ := isBlock_of_readBlock found
            have last : LastLength lines n := by
              rcases gives with last | ⟨impossible, _⟩
              · exact last
              · cases impossible
            rw [read_of_isBlock block ends last] at taken
            split at taken
            · simp at taken
            · split at taken
              · simp at taken
              · next within enough =>
                  obtain ⟨rfl, rfl⟩ : tail.take n = body ∧ tail.drop n = rest := by
                    simpa using taken
                  have size : (tail.take n).length = n := by
                    rw [List.length_take]
                    omega
                  refine ⟨lines, blank, ?_, block, ?_, by rwa [size], by omega⟩
                  · rw [List.append_assoc _ (tail.take n), List.take_append_drop]
                  · rwa [List.take_append_drop]
  · rintro ⟨lines, blank, rfl, block, ends, last, within⟩
    have parts
        : lines.flatten ++ blank ++ body ++ rest = lines.flatten ++ blank ++ (body ++ rest) := by
      simp
    have enough : ¬ (body ++ rest).length < body.length := by
      rw [List.length_append]
      omega
    rw [parts, read_of_isBlock block ends last, if_neg (by omega), if_neg enough]
    simp
  · intro lines blank others blank' n tail block ends last block' ends' last'
    rw [read_of_isBlock block ends last, read_of_isBlock block' ends' last']

-- A line without a colon, one that is no text, and a length that a later one overrides.
example
    : read 10
        (Text.bytes "flavour\r\n" ++ [0xFF, 0x0A]
          ++ Text.bytes "Content-Length: 9\n cOnTeNt-LeNgTh\t: +2 \r\n\r\n[]left")
      = (.ok (some (Text.bytes "[]")), Text.bytes "left") := by
  decide +kernel

end LanguageClient.Frame
