import LanguageClient.Proofs.Frame.RoundTrip

/-! Frames that are cut short. A stream that ends inside a frame is reported as such, save in two
places: where the name of the length stands there without a digit, its value is taken for one that
cannot be read; and an empty body is read although the last byte of its blank line is missing.
-/

namespace LanguageClient.Frame

-----------------------------------------------------------------------------------------
-- A length line that is cut
-----------------------------------------------------------------------------------------

/-- The stream ends after the name of the length and before its first digit. -/
def LacksValue (cut : Bytes) : Prop :=
  cut = Text.encode (lengthName ++ [':']) ∨ cut = Text.encode (lengthName ++ [':', ' '])

/-- A last line that neither ends the block nor spoils it is reported as the end of the stream. -/
theorem read_of_unended {line : Bytes} (unended : IsUnended line)
    (goesOn : Line.ofBytes line = .other ∨ ∃ n, Line.ofBytes line = .length n) (limit : Nat)
    : read limit line = (.error .unexpectedEof, []) := by
  have first : StandsFirst line [] := .inr ⟨unended, rfl⟩
  have block := readBlock_append first none false
  rw [List.append_nil] at block
  refine read_of_failed ?_ limit
  rcases goesOn with other | ⟨n, length⟩
  · rw [block, other]
    simp [readBlock]
  · rw [block, length]
    simp [readBlock]

/-- A start of the name of the length is a line that says nothing. -/
theorem ofBytes_of_name {first last : List Char} (split : lengthName = first ++ last)
    (begun : first ≠ [])
    : Line.ofBytes (Text.encode first) = .other := by
  have plain
      : lengthName.all (fun c => c.toNat < 128 && ! Text.isBlank c && c ≠ ':') = true := by
    decide
  simp only [List.all_eq_true, Bool.and_eq_true, decide_eq_true_eq, Bool.not_eq_true'] at plain
  have start : ∀ c ∈ first, (c.toNat < 128 ∧ Text.isBlank c = false) ∧ c ≠ ':' := fun c member =>
    plain c (split ▸ List.mem_append_left last member)
  have decoded : Text.decodeLossy (Text.encode first) = first :=
    Text.decodeLossy_encode_of_ascii fun c member => (start c member).1.1
  refine (Tells.other ?_ ?_).eq_ofBytes
  · rw [IsBlank, decoded, Text.trim_eq_nil_iff]
    intro blank
    obtain ⟨c, member⟩ := List.exists_mem_of_ne_nil first begun
    exact Bool.noConfusion ((blank c member).symm.trans (start c member).1.2)
  · rintro value ⟨name, afterColon, parts, _⟩
    rw [decoded] at parts
    exact (start ':' (parts ▸ by simp)).2 rfl

/-- What follows the name of the length, without blanks around it, is its value. -/
theorem givesLength_of_ascii {afterColon : List Char}
    (ascii : Text.IsAscii (lengthName ++ ':' :: afterColon))
    : GivesLength (Text.encode (lengthName ++ ':' :: afterColon)) (Text.trim afterColon) :=
  ⟨lengthName, afterColon, Text.decodeLossy_encode_of_ascii ascii, by decide, by decide, rfl⟩

/-- A start of the digits and of the blank after them is digits and blanks. -/
theorem exists_digits_of_start {digits first last : List Char} (filled : digits ≠ [])
    (split : digits ++ ['\r'] = first ++ last) (begun : first ≠ [])
    : ∃ front back blanks,
        digits = front ++ back
        ∧ front ≠ []
        ∧ first = front ++ blanks
        ∧ ∀ c ∈ blanks, Text.isBlank c = true := by
  rcases List.append_eq_append_iff.mp split with ⟨blanks, rfl, rest⟩ | ⟨back, rfl, _⟩
  · refine ⟨digits, [], blanks, by simp, filled, rfl, fun c member => ?_⟩
    have only : c ∈ ['\r'] := rest ▸ List.mem_append_left last member
    obtain rfl := List.mem_singleton.mp only
    decide
  · exact ⟨first, back, [], rfl, begun, by simp, by simp⟩

/-- A length line with a digit gives a length, of as many digits as there are. -/
theorem ofBytes_of_value {length : Nat} {first last : List Char} (small : length < Text.word64)
    (split : Text.digits length ++ ['\r'] = first ++ last) (begun : first ≠ [])
    : ∃ n, Line.ofBytes (Text.encode (lengthName ++ ':' :: ' ' :: first)) = .length n := by
  obtain ⟨front, back, blanks, digits, started, rfl, blank⟩ :=
    exists_digits_of_start Nat.toDigits_ne_nil split begun
  obtain ⟨n, read⟩ := Text.readBounded_of_prefix small digits started
  have ascii : Text.IsAscii (lengthName ++ ':' :: ([' '] ++ front ++ blanks)) := by
    intro c member
    refine (lengthLine_text length).1 c ?_
    have parts
        : lengthName ++ ':' :: ([' '] ++ Text.digits length ++ ['\r'])
          = (lengthName ++ ':' :: ([' '] ++ front ++ blanks)) ++ last := by
      simp [split]
    rw [parts]
    exact List.mem_append_left last member
  have solid : ∀ c ∈ front, Text.isBlank c = false := by
    intro c member
    have digit : c ∈ Text.digits length := by
      rw [Text.digits, digits]
      exact List.mem_append_left back member
    exact isBlank_of_isDigit (Text.isDigit_of_mem_digits digit)
  have space : ∀ c ∈ [' '], Text.isBlank c = true := List.forall_mem_singleton.mpr (by decide)
  have gives := givesLength_of_ascii ascii
  rw [Text.trim_between_blanks solid space blank] at gives
  exact ⟨n, (Tells.length gives read).eq_ofBytes⟩

/-- A start of a length line is one of its text, if its last byte is missing. -/
theorem exists_text_of_start {length : Nat} {cut missing : Bytes}
    (split : lengthLine length = cut ++ missing) (proper : missing ≠ [])
    : ∃ first last,
        lengthName ++ ':' :: ([' '] ++ Text.digits length ++ ['\r']) = first ++ last
        ∧ cut = Text.encode first := by
  obtain ⟨first, last, whole, rfl⟩ :=
    Text.exists_prefix_of_encode (lengthLine_isAscii length) split
  have lacking : last ≠ [] := by
    rintro rfl
    rw [List.append_nil] at whole
    rw [lengthLine, whole] at split
    exact proper (List.self_eq_append_right.mp split)
  have ending
      : lengthName ++ ':' :: ([' '] ++ Text.digits length ++ ['\r', '\n'])
        = (lengthName ++ ':' :: ([' '] ++ Text.digits length ++ ['\r'])) ++ ['\n'] := by
    simp
  have start := congrArg List.dropLast (ending.symm.trans whole)
  rw [List.dropLast_concat, List.dropLast_append_of_ne_nil lacking] at start
  exact ⟨first, last.dropLast, start, rfl⟩

/-- A length line that is cut goes on, unless its value is lacking. -/
theorem read_of_cut_line {length : Nat} {cut missing : Bytes} (small : length < Text.word64)
    (split : lengthLine length = cut ++ missing) (begun : cut ≠ []) (proper : missing ≠ [])
    (valued : ¬ LacksValue cut) (limit : Nat)
    : read limit cut = (.error .unexpectedEof, []) := by
  have unended : IsUnended cut := by
    obtain ⟨content, fresh, whole⟩ := lengthLine_isLine length
    have start := congrArg List.dropLast (whole.symm.trans split)
    rw [List.dropLast_concat, List.dropLast_append_of_ne_nil proper] at start
    exact ⟨begun, fun member => fresh (start ▸ List.mem_append_left _ member)⟩
  refine read_of_unended unended ?_ limit
  obtain ⟨first, last, text, rfl⟩ := exists_text_of_start split proper
  rcases List.append_eq_append_iff.mp text with ⟨rest, rfl, colon⟩ | ⟨rest, name, _⟩
  · cases rest with
    | nil =>
        have whole : lengthName = (lengthName ++ []) ++ [] := by simp
        exact .inl (ofBytes_of_name whole (by decide))
    | cons c value =>
        obtain ⟨rfl, spaced⟩ := List.cons.inj colon
        cases value with
        | nil => exact absurd (.inl rfl) valued
        | cons c digits =>
            obtain ⟨rfl, numbered⟩ := List.cons.inj spaced
            refine .inr (ofBytes_of_value small numbered ?_)
            rintro rfl
            exact valued (.inr rfl)
  · refine .inl (ofBytes_of_name name ?_)
    rintro rfl
    exact begun rfl

/-- Without a digit, the value is taken for one that cannot be read. -/
theorem read_of_lacksValue {cut : Bytes} (lacking : LacksValue cut) (limit : Nat)
    : read limit cut = (.error (.invalidContentLength ""), []) := by
  rcases lacking with rfl | rfl
  · exact read_of_failed (by decide +kernel) limit
  · exact read_of_failed (by decide +kernel) limit

-----------------------------------------------------------------------------------------
-- A frame that is cut
-----------------------------------------------------------------------------------------

/-- Where a cut falls in a frame: in its length line, behind it, in its blank line or in its body. -/
inductive CutAt (body cut rest : Bytes) : Prop
  | line {missing} (split : lengthLine body.length = cut ++ missing) (proper : missing ≠ [])
  | afterLine (same : cut = lengthLine body.length)
  | blank (same : cut = lengthLine body.length ++ [0x0D]) (last : rest = 0x0A :: body)
  | body {start} (same : cut = lengthLine body.length ++ blankLine ++ start)
      (split : body = start ++ rest)

theorem cutAt_of_split {body cut rest : Bytes} (split : encode body = cut ++ rest)
    : CutAt body cut rest := by
  have blank : blankLine = [0x0D, 0x0A] := by decide
  rw [encode, header_eq, List.append_assoc, List.append_eq_append_iff] at split
  rcases split with ⟨start, rfl, later⟩ | ⟨missing, line, _⟩
  · simp only [blank, List.cons_append, List.nil_append] at later
    cases start with
    | nil => exact .afterLine (List.append_nil _)
    | cons b start =>
        obtain ⟨rfl, afterReturn⟩ := List.cons.inj later
        cases start with
        | nil => exact .blank rfl afterReturn.symm
        | cons b start =>
            obtain ⟨rfl, afterFeed⟩ := List.cons.inj afterReturn
            exact .body (by simp [blank]) afterFeed
  · cases missing with
    | nil => exact .afterLine (by simpa using line.symm)
    | cons b missing => exact .line line (by simp)

/-- After its length line alone, the reader still waits for the end of the block. -/
theorem read_lengthLine {length : Nat} (small : length < Text.word64) (limit : Nat)
    : read limit (lengthLine length) = (.error .unexpectedEof, []) := by
  have gives : Line.ofBytes (lengthLine length) = .length length :=
    (Tells.length (lengthLine_givesLength length) (Text.readBounded_digits small)).eq_ofBytes
  have first : StandsFirst (lengthLine length) [] := .inl (lengthLine_isLine length)
  have block := readBlock_append first none false
  rw [List.append_nil, gives] at block
  refine read_of_failed (block.trans ?_) limit
  simp [readBlock]

/-- A carriage return at the end of the stream is a blank line, and all of the body is missing. -/
theorem read_of_open_blank {length limit : Nat} (small : length < Text.word64)
    (within : length ≤ limit) (filled : 0 < length)
    : read limit (lengthLine length ++ [0x0D]) = (.error .unexpectedEof, []) := by
  obtain ⟨block, gives⟩ := header_isBlock small
  have unended : IsUnended [0x0D] := ⟨by simp, by decide⟩
  have blank : Text.trim (Text.decodeLossy [0x0D]) = [] := by decide +kernel
  have closed : IsBlock [lengthLine length] [0x0D] := { block with blank }
  have parts
      : lengthLine length ++ [0x0D] = [lengthLine length].flatten ++ [0x0D] ++ [] := by
    simp
  rw [parts, read_of_isBlock closed (.inr ⟨unended, rfl⟩) gives, if_neg (Nat.not_lt.mpr within),
    if_pos (show ([] : Bytes).length < length from filled)]

/-- A body that is not there as a whole is missing. -/
theorem read_of_cut_body {limit : Nat} {body start rest : Bytes}
    (small : body.length < Text.word64) (within : body.length ≤ limit)
    (split : body = start ++ rest) (proper : rest ≠ [])
    : read limit (lengthLine body.length ++ blankLine ++ start) = (.error .unexpectedEof, []) := by
  obtain ⟨block, gives⟩ := header_isBlock small
  have short : start.length < body.length := by
    have positive : 0 < rest.length := List.length_pos_of_ne_nil proper
    rw [split, List.length_append]
    omega
  have parts
      : lengthLine body.length ++ blankLine ++ start
        = [lengthLine body.length].flatten ++ blankLine ++ start := by
    simp
  rw [parts, read_of_isBlock block (.inl blankLine_isLine) gives, if_neg (Nat.not_lt.mpr within),
    if_pos short]

theorem CutAt.read_eq {limit : Nat} {body cut rest : Bytes} (place : CutAt body cut rest)
    (small : body.length < Text.word64) (within : body.length ≤ limit) (begun : cut ≠ [])
    (proper : rest ≠ []) (valued : ¬ LacksValue cut) (closed : ¬ (body = [] ∧ rest = [0x0A]))
    : read limit cut = (.error .unexpectedEof, []) := by
  cases place with
  | line split missing => exact read_of_cut_line small split begun missing valued limit
  | afterLine same =>
      rw [same]
      exact read_lengthLine small limit
  | blank same last =>
      rw [same]
      refine read_of_open_blank small within (List.length_pos_of_ne_nil ?_)
      rintro rfl
      exact closed ⟨rfl, last⟩
  | body same split =>
      rw [same]
      exact read_of_cut_body small within split proper

/-- An empty body is read from its frame although the last byte of the blank line is missing. -/
theorem read_of_open_empty {cut : Bytes} (split : encode [] = cut ++ [0x0A]) (limit : Nat)
    : read limit cut = (.ok (some []), []) := by
  have start := congrArg List.dropLast split
  rw [List.dropLast_concat] at start
  have block : readBlock none false (encode []).dropLast = (.length 0, []) := by decide +kernel
  rw [← start, read_of_length block]
  simp

/-- A stream that ends inside a frame, of which something is there and something missing, is
reported as such, unless it ends between the name of the length and its first digit, or only the last
byte of the blank line before an empty body is missing. In the first of these places the length is
reported as one that cannot be read; in the second the empty body is read.
-/
theorem cut_frame_is_reported_iff (limit : Nat) (body cut rest : Bytes) (word : limit < Text.word64)
    (within : body.length ≤ limit) (split : encode body = cut ++ rest) (begun : cut ≠ [])
    (proper : rest ≠ [])
    : (read limit cut = (.error .unexpectedEof, [])
        ↔ ¬ LacksValue cut ∧ ¬ (body = [] ∧ rest = [0x0A]))
      ∧ (LacksValue cut → read limit cut = (.error (.invalidContentLength ""), []))
      ∧ (body = [] ∧ rest = [0x0A] → read limit cut = (.ok (some []), [])) := by
  have lacking (value : LacksValue cut) := read_of_lacksValue value limit
  have openEmpty (empty : body = [] ∧ rest = [0x0A])
      : read limit cut = (.ok (some []), []) := by
    obtain ⟨rfl, rfl⟩ := empty
    exact read_of_open_empty split limit
  refine ⟨⟨fun reported => ⟨fun value => ?_, fun empty => ?_⟩, fun ⟨valued, closed⟩ => ?_⟩, lacking,
    openEmpty⟩
  · rw [lacking value] at reported
    simp at reported
  · rw [openEmpty empty] at reported
    simp at reported
  · exact (cutAt_of_split split).read_eq (Nat.lt_of_le_of_lt within word) within begun proper valued
      closed

/-- A frame cut inside its body. -/
theorem half_a_body_is_reported
    : let body := Text.bytes "[]"
      let cut := Text.bytes "Content-Length: 2\r\n\r\n["
      let rest := Text.bytes "]"
      (20 < Text.word64 ∧ body.length ≤ 20 ∧ encode body = cut ++ rest ∧ cut ≠ [] ∧ rest ≠ [])
      ∧ ¬ LacksValue cut
      ∧ read 20 cut = (.error .unexpectedEof, []) := by
  intro body cut rest
  have within : body.length ≤ 20 := by decide
  have split : encode body = cut ++ rest := by decide
  have valued : ¬ LacksValue cut := not_or.mpr ⟨by decide, by decide⟩
  have reported :=
    (cut_frame_is_reported_iff 20 body cut rest (by decide) within split (by decide) (by decide)).1
  exact ⟨⟨by decide, within, split, by decide, by decide⟩, valued,
    reported.mpr ⟨valued, by decide⟩⟩

/-- Frames that are cut short without being reported: one after the name of its length, for which
the next call even finds the end of the stream in order, and an empty one before its last byte.
-/
theorem cuts_that_are_not_reported
    : let name := Text.bytes "Content-Length:"
      let empty := Text.bytes "Content-Length: 0\r\n\r"
      (∃ rest, rest ≠ [] ∧ encode (Text.bytes "[]") = name ++ rest)
      ∧ readAll 20 name 2 = [.error (.invalidContentLength ""), .ok none]
      ∧ (∃ rest, rest ≠ [] ∧ encode [] = empty ++ rest)
      ∧ readAll 20 empty 2 = [.ok (some []), .ok none] := by
  intro name empty
  refine ⟨⟨Text.bytes " 2\r\n\r\n[]", by decide, by decide⟩, by decide +kernel,
    ⟨[0x0A], by decide, by decide⟩, by decide +kernel⟩

end LanguageClient.Frame
