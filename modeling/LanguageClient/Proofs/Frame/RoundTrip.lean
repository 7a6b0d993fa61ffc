import LanguageClient.Proofs.Frame.Grammar
import LanguageClient.Proofs.Text.Ascii

/-! Bodies that are written to a stream are read back from it one by one. What a body holds makes no
difference, and a body above the limit is passed over without loss of those that follow it.
-/

namespace LanguageClient.Frame

-----------------------------------------------------------------------------------------
-- The header block of a body
-----------------------------------------------------------------------------------------

/-- The length line for a body of this length. -/
def lengthLine (length : Nat) : Bytes :=
  Text.encode (lengthName ++ ':' :: ([' '] ++ Text.digits length ++ ['\r', '\n']))

/-- The blank line after it. -/
def blankLine : Bytes :=
  Text.encode ['\r', '\n']

theorem header_eq (length : Nat) : header length = lengthLine length ++ blankLine := by
  rw [header, lengthLine, blankLine, ← Text.encode_append]
  simp

theorem isAscii_of_isDigit {c : Char} (digit : c.isDigit = true) : c.toNat < 128 := by
  have bounds := Text.isDigit_iff.mp digit
  omega

theorem isBlank_of_isDigit {c : Char} (digit : c.isDigit = true) : Text.isBlank c = false := by
  have bounds := Text.isDigit_iff.mp digit
  simp only [Text.isBlank, Text.blankRanges, List.any_eq_false, List.forall_mem_cons,
    Bool.and_eq_true, decide_eq_true_eq]
  refine ⟨?_, ?_, ?_, ?_, ?_, ?_, ?_, ?_, ?_, ?_, by simp⟩ <;> omega

/-- All of a length line is ASCII, and only its last character is a line feed. -/
theorem lengthLine_text (length : Nat)
    : Text.IsAscii (lengthName ++ ':' :: ([' '] ++ Text.digits length ++ ['\r']))
      ∧ ∀ c ∈ lengthName ++ ':' :: ([' '] ++ Text.digits length ++ ['\r']), c ≠ '\n' := by
  have plain
      : (lengthName ++ [':', ' ', '\r']).all (fun c => c.toNat < 128 && c ≠ '\n') = true := by
    decide
  simp only [List.all_eq_true, Bool.and_eq_true, decide_eq_true_eq] at plain
  have numeric : ∀ c ∈ Text.digits length, c.toNat < 128 ∧ c ≠ '\n' := by
    intro c member
    have digit := Text.isDigit_of_mem_digits member
    refine ⟨isAscii_of_isDigit digit, ?_⟩
    rintro rfl
    exact absurd digit (by decide)
  have both
      : ∀ c ∈ lengthName ++ ':' :: ([' '] ++ Text.digits length ++ ['\r']),
          c.toNat < 128 ∧ c ≠ '\n' := by
    intro c member
    simp only [List.mem_append, List.mem_cons, List.not_mem_nil, or_false] at plain member
    rcases member with named | rfl | (rfl | digit) | rfl
    · exact plain c (.inl named)
    · exact plain _ (by simp)
    · exact plain _ (by simp)
    · exact numeric c digit
    · exact plain _ (by simp)
  exact ⟨fun c member => (both c member).1, fun c member => (both c member).2⟩

theorem lengthLine_isLine (length : Nat) : IsLine (lengthLine length) := by
  obtain ⟨ascii, unended⟩ := lengthLine_text length
  refine ⟨Text.encode (lengthName ++ ':' :: ([' '] ++ Text.digits length ++ ['\r'])), ?_, ?_⟩
  · intro member
    obtain ⟨c, found, same⟩ := Text.mem_encode_of_ascii ascii member
    have value : c.toNat = 10 := by
      have small := ascii c found
      have bytes := congrArg UInt8.toNat same
      rw [UInt8.toNat_ofNat'] at bytes
      have ten : (0x0A : UInt8).toNat = 10 := rfl
      omega
    exact unended c found (Char.toNat_inj.mp value)
  · have feed : Text.encode ['\n'] = [0x0A] := by decide
    rw [lengthLine, ← feed, ← Text.encode_append]
    simp

theorem lengthLine_isAscii (length : Nat)
    : Text.IsAscii (lengthName ++ ':' :: ([' '] ++ Text.digits length ++ ['\r', '\n'])) := by
  intro c member
  have parts : c ∈ lengthName ++ ':' :: ([' '] ++ Text.digits length ++ ['\r']) ∨ c = '\n' := by
    simpa [or_assoc] using member
  rcases parts with before | rfl
  · exact (lengthLine_text length).1 c before
  · decide

theorem lengthLine_givesLength (length : Nat)
    : GivesLength (lengthLine length) (Text.digits length) := by
  have decoded := Text.decodeLossy_encode_of_ascii (lengthLine_isAscii length)
  refine ⟨lengthName, _, decoded, by decide, by decide, ?_⟩
  have solid : ∀ c ∈ Text.digits length, Text.isBlank c = false := by
    intro c member
    exact isBlank_of_isDigit (Text.isDigit_of_mem_digits member)
  have space : [' '].all Text.isBlank = true := by decide
  have ending : ['\r', '\n'].all Text.isBlank = true := by decide
  exact (Text.trim_between_blanks solid (List.all_eq_true.mp space)
    (List.all_eq_true.mp ending)).symm

/-- The header block of a body gives its length, if that fits in 64 bits. -/
theorem header_isBlock {length : Nat} (small : length < Text.word64)
    : IsBlock [lengthLine length] blankLine ∧ LastLength [lengthLine length] length := by
  have gives := lengthLine_givesLength length
  have read : lengthOf? (Text.digits length) = some length := Text.readBounded_digits small
  constructor
  · have blank : Text.trim (Text.decodeLossy blankLine) = [] := by decide +kernel
    refine ⟨?_, ?_, ?_, blank⟩
    · exact List.forall_mem_singleton.mpr (lengthLine_isLine length)
    · exact List.forall_mem_singleton.mpr gives.not_isBlank
    · refine List.forall_mem_singleton.mpr fun value again => ?_
      exact ⟨length, gives.unique again ▸ read⟩
  · exact ⟨[], lengthLine length, [], _, rfl, gives, read, by simp [NoLength]⟩

theorem blankLine_isLine : IsLine blankLine :=
  ⟨[0x0D], by decide, by decide⟩

-----------------------------------------------------------------------------------------
-- Frames one after the other
-----------------------------------------------------------------------------------------

/-- What a reader with this limit answers to a body. -/
def answerTo (limit : Nat) (body : Bytes) : Except ClientError (Option Bytes) :=
  if body.length ≤ limit then .ok (some body)
  else .error (.messageTooLarge body.length limit)

/-- What so many reads answer, one after the other, and what they leave of the stream. -/
def readTimes (limit : Nat) : Nat → Bytes → List (Except ClientError (Option Bytes)) × Bytes
  | 0, stream => ([], stream)
  | count + 1, stream =>
      let (answer, rest) := read limit stream
      let (answers, last) := readTimes limit count rest
      (answer :: answers, last)

/-- A frame at the front of a stream is answered to by its body alone, and nothing more is taken. -/
theorem read_encode {body : Bytes} (sized : body.length < Text.word64) (limit : Nat) (rest : Bytes)
    : read limit (encode body ++ rest) = (answerTo limit body, rest) := by
  obtain ⟨block, gives⟩ := header_isBlock sized
  have parts
      : encode body ++ rest
        = [lengthLine body.length].flatten ++ blankLine ++ (body ++ rest) := by
    simp [encode, header_eq]
  have enough : ¬ (body ++ rest).length < body.length := by
    rw [List.length_append]
    omega
  rw [parts, read_of_isBlock block (.inl blankLine_isLine) gives, if_neg enough]
  by_cases fits : body.length ≤ limit
  · simp [answerTo, fits]
  · simp [answerTo, fits, Nat.lt_of_not_le fits]

theorem read_nil (limit : Nat) : read limit [] = (.ok none, []) := by
  simp [read, readBlock]

theorem encodeAll_eq_flatMap (bodies : List Bytes) : encodeAll bodies = bodies.flatMap encode := by
  have written (stream : Bytes) : bodies.foldl write stream = stream ++ bodies.flatMap encode := by
    induction bodies generalizing stream with
    | nil => simp
    | cons body rest ih => simp [ih, write, encode]
  rw [encodeAll, written, List.nil_append]

/-- As many reads as there are frames answer to each of them, and further reads go on with what
follows. Induction on the bodies.
-/
theorem readTimes_flatMap {bodies : List Bytes}
    (sized : ∀ body ∈ bodies, body.length < Text.word64) (limit further : Nat) (rest : Bytes)
    : readTimes limit (further + bodies.length) (bodies.flatMap encode ++ rest)
      = (bodies.map (answerTo limit) ++ (readTimes limit further rest).1,
          (readTimes limit further rest).2) := by
  induction bodies with
  | nil => rfl
  | cons body others ih =>
      obtain ⟨first, later⟩ := List.forall_mem_cons.mp sized
      rw [List.flatMap_cons, List.append_assoc, List.length_cons, ← Nat.add_assoc, readTimes,
        read_encode first]
      simp only [ih later, List.map_cons, List.cons_append]

theorem readAll_flatMap {bodies : List Bytes}
    (sized : ∀ body ∈ bodies, body.length < Text.word64) (limit : Nat) {count : Nat}
    (enough : bodies.length < count)
    : readAll limit (bodies.flatMap encode) count = bodies.map (answerTo limit) ++ [.ok none] := by
  induction bodies generalizing count with
  | nil =>
      obtain ⟨count, rfl⟩ := Nat.exists_eq_add_one_of_ne_zero (Nat.ne_of_gt enough)
      simp [readAll, read_nil]
  | cons body others ih =>
      obtain ⟨first, later⟩ := List.forall_mem_cons.mp sized
      obtain ⟨count, rfl⟩ :=
        Nat.exists_eq_add_one_of_ne_zero (Nat.ne_of_gt (Nat.zero_lt_of_lt enough))
      have next := ih later (Nat.lt_of_succ_lt_succ enough)
      rw [List.flatMap_cons, readAll, read_encode first]
      by_cases fits : body.length ≤ limit
      · simp [answerTo, fits, next]
      · simp [answerTo, fits, next, ClientError.isFatal]

/-- The stream to which bodies are written is their frames one after the other. Reads of it answer
to the bodies in order, each with the body, or with its size where that is above the limit, and then
with the end of the stream; and whatever follows the frames is left as it is. A body is as long as a
length of 64 bits can tell; no longer one fits in memory.
-/
theorem written_bodies_read_back (limit : Nat) (bodies : List Bytes)
    (sized : ∀ body ∈ bodies, body.length < Text.word64)
    : encodeAll bodies = bodies.flatMap encode
      ∧ (∀ rest,
          readTimes limit bodies.length (encodeAll bodies ++ rest)
          = (bodies.map (answerTo limit), rest))
      ∧ readTimes limit (bodies.length + 1) (encodeAll bodies)
        = (bodies.map (answerTo limit) ++ [.ok none], [])
      ∧ ∀ count, bodies.length < count →
          readAll limit (encodeAll bodies) count = bodies.map (answerTo limit) ++ [.ok none] := by
  rw [encodeAll_eq_flatMap]
  refine ⟨rfl, fun rest => ?_, ?_, fun count => readAll_flatMap sized limit⟩
  · have frames := readTimes_flatMap sized limit 0 rest
    rwa [Nat.zero_add, readTimes, List.append_nil] at frames
  · have ending : readTimes limit 1 [] = ([.ok none], []) := by
      simp only [readTimes, read_nil]
    have frames := readTimes_flatMap sized limit 1 []
    rwa [Nat.add_comm, List.append_nil, ending] at frames

/-- A body above the limit that looks like a header block, an empty one, and one that is no text. -/
theorem strange_bodies_read_back
    : let bodies := [Text.bytes "Content-Length: 9\r\n\r\n", [], [0xFF, 0x0A]]
      (∀ body ∈ bodies, body.length < Text.word64)
      ∧ readTimes 20 4 (encodeAll bodies)
        = ([.error (.messageTooLarge 21 20), .ok (some []), .ok (some [0xFF, 0x0A]), .ok none],
            []) := by
  intro bodies
  have sized : ∀ body ∈ bodies, body.length < Text.word64 := by decide +kernel
  exact ⟨sized, (written_bodies_read_back 20 bodies sized).2.2.1⟩

end LanguageClient.Frame
