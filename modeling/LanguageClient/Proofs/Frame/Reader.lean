import LanguageClient.Proofs.Frame.RoundTrip
import Mathlib.Logic.Function.Iterate

/-! A reader that goes through a stream call by call and hands on what it finds. A call takes a part
off the front of the stream, and its answer depends on that part alone. So the calls come to an end,
their parts lie one behind the other, and what is handed on stands in the order of the stream.
-/

namespace LanguageClient.Frame

/-- What a call answers: a body, nothing at the end of the stream, or an error. -/
abbrev Answer := Except ClientError (Option Bytes)

-----------------------------------------------------------------------------------------
-- What a call takes
-----------------------------------------------------------------------------------------

theorem StandsFirst.of_append {line front back : Bytes} (first : StandsFirst line (front ++ back))
    : StandsFirst line front := by
  rcases first with ended | ⟨unended, nothing⟩
  · exact .inl ended
  · exact .inr ⟨unended, (List.append_eq_nil_iff.mp nothing).1⟩

/-- The part of a stream that a block is, of which the reader looks at nothing more: whatever starts
like the stream and goes on after that part is read in the same way.
-/
structure BlockTaken (length : Option Nat) (begun : Bool) (stream taken : Bytes) : Prop where
  split : stream = taken ++ (readBlock length begun stream).2
  alike : ∀ more later, (readBlock length begun stream).2 = more ++ later →
    readBlock length begun (taken ++ more) = ((readBlock length begun stream).1, more)

/-- A line that ends its block is all of it. -/
theorem BlockTaken.last {length : Option Nat} {begun : Bool} {line rest : Bytes} {what : Block}
    (first : StandsFirst line rest)
    (ends : ∀ more, StandsFirst line more → readBlock length begun (line ++ more) = (what, more))
    : BlockTaken length begun (line ++ rest) line where
  split := by rw [ends rest first]
  alike more later split := by
    rw [ends rest first] at split ⊢
    obtain rfl : rest = more ++ later := split
    exact ends more first.of_append

/-- A line that does not end its block stands before what follows of it. -/
theorem BlockTaken.further {length known : Option Nat} {begun : Bool} {line rest taken : Bytes}
    (first : StandsFirst line rest) (block : BlockTaken known true rest taken)
    (goes : ∀ more, StandsFirst line more →
      readBlock length begun (line ++ more) = readBlock known true more)
    : BlockTaken length begun (line ++ rest) (line ++ taken) where
  split := by
    rw [goes rest first, List.append_assoc, ← block.split]
  alike more later split := by
    rw [goes rest first] at split ⊢
    have stands : StandsFirst line (taken ++ more) := by
      rw [block.split, split, ← List.append_assoc] at first
      exact first.of_append
    rw [List.append_assoc, goes _ stands, block.alike more later split]

/-- Induction on the stream line by line. -/
theorem exists_blockTaken (stream : Bytes) (length : Option Nat) (begun : Bool)
    : ∃ taken, BlockTaken length begun stream taken := by
  induction stream using line_induction generalizing length begun with
  | empty =>
      have nothing : (readBlock length begun []).2 = [] := by simp [readBlock]
      refine ⟨[], by rw [nothing, List.append_nil], fun more later split => ?_⟩
      rw [nothing] at split
      obtain rfl := (List.append_eq_nil_iff.mp split.symm).1
      exact Prod.ext rfl nothing
  | line line rest first ih =>
      cases said : Line.ofBytes line with
      | blank | badLength =>
          exact ⟨line, .last first fun more stands => by rw [readBlock_append stands, said]⟩
      | length n =>
          obtain ⟨taken, block⟩ := ih (some n) true
          exact ⟨line ++ taken,
            .further first block fun more stands => by rw [readBlock_append stands, said]⟩
      | other =>
          obtain ⟨taken, block⟩ := ih length true
          exact ⟨line ++ taken,
            .further first block fun more stands => by rw [readBlock_append stands, said]⟩

/-- How the reading of a block ends: before its first line at the end of the stream, inside it at
the end of the stream, with an error that leaves the rest to later calls, or with a length.
-/
inductive BlockEnds (begun : Bool) (stream : Bytes) : Block × Bytes → Prop
  | absent (fresh : begun = false) (empty : stream = []) : BlockEnds begun stream (.absent, [])
  | cut (inside : begun = true ∨ stream ≠ []) : BlockEnds begun stream (.failed .unexpectedEof, [])
  | unusable {error rest} (filled : stream ≠ []) (bearable : error.isFatal = false)
    : BlockEnds begun stream (.failed error, rest)
  | length {n rest} (filled : stream ≠ []) : BlockEnds begun stream (.length n, rest)

theorem blockEnds (stream : Bytes) (length : Option Nat) (begun : Bool)
    : BlockEnds begun stream (readBlock length begun stream) := by
  induction stream using line_induction generalizing length begun with
  | empty =>
      rw [readBlock]
      cases begun with
      | true => exact .cut (.inl rfl)
      | false => exact .absent rfl rfl
  | line line rest first ih =>
      have filled : line ++ rest ≠ [] := List.append_ne_nil_of_left_ne_nil first.ne_nil rest
      have further (known : Option Nat)
          : BlockEnds begun (line ++ rest) (readBlock known true rest) := by
        have later := ih known true
        generalize readBlock known true rest = found at later
        cases later with
        | absent fresh => cases fresh
        | cut => exact .cut (.inr filled)
        | unusable _ bearable => exact .unusable filled bearable
        | length => exact .length filled
      rw [readBlock_append first]
      cases Line.ofBytes line with
      | blank =>
          cases length with
          | none => exact .unusable filled rfl
          | some n => exact .length filled
      | badLength => exact .unusable filled rfl
      | length n => exact further (some n)
      | other => exact further length

/-- A call took a part off the front of a stream. To that part alone it would have answered the
same; it finds the end of the stream exactly where nothing is left; and it fails for good only where
nothing is left after it.
-/
structure Takes (limit : Nat) (stream taken : Bytes) (answer : Answer) (rest : Bytes) : Prop where
  split : stream = taken ++ rest
  alone : read limit taken = (answer, [])
  none_iff : answer = .ok none ↔ stream = []
  fatal : ∀ error, answer = .error error → error.isFatal = true →
    error = .unexpectedEof ∧ rest = []

/-- A call that fails at the end of the stream has taken all of it. -/
theorem Takes.of_cut {limit : Nat} {stream : Bytes} (filled : stream ≠ [])
    (cut : read limit stream = (.error .unexpectedEof, []))
    : Takes limit stream stream (.error .unexpectedEof) [] :=
  ⟨by simp, cut, by simp [filled], by simp⟩

/-- After a block that gives a length, the call takes as many bytes, or all that there are. -/
theorem exists_takes_of_length {limit n : Nat} {stream block rest : Bytes} (filled : stream ≠ [])
    (taken : BlockTaken none false stream block)
    (found : readBlock none false stream = (.length n, rest))
    : ∃ taken, Takes limit stream taken (read limit stream).1 (read limit stream).2 := by
  obtain ⟨whole, alike⟩ := taken
  rw [found] at whole alike
  have split : stream = block ++ rest.take n ++ rest.drop n := by
    rw [List.append_assoc, List.take_append_drop]
    exact whole
  have alone
      : readBlock none false (block ++ rest.take n) = (.length n, rest.take n) :=
    alike (rest.take n) (rest.drop n) (List.take_append_drop n rest).symm
  have most : (rest.take n).length ≤ n := List.length_take_le n rest
  by_cases large : limit < n
  · have same : read limit stream = (.error (.messageTooLarge n limit), rest.drop n) := by
      rw [read_of_length found, if_pos large]
    rw [same]
    refine ⟨block ++ rest.take n, split, ?_, by simp [filled], by simp [ClientError.isFatal]⟩
    rw [read_of_length alone, if_pos large, List.drop_eq_nil_of_le most]
  · by_cases short : rest.length < n
    · have same : read limit stream = (.error .unexpectedEof, []) := by
        rw [read_of_length found, if_neg large, if_pos short]
      rw [same]
      exact ⟨stream, .of_cut filled same⟩
    · have same : read limit stream = (.ok (some (rest.take n)), rest.drop n) := by
        rw [read_of_length found, if_neg large, if_neg short]
      have enough : ¬ (rest.take n).length < n := by
        rw [List.length_take]
        omega
      rw [same]
      refine ⟨block ++ rest.take n, split, ?_, by simp [filled], by simp⟩
      rw [read_of_length alone, if_neg large, if_neg enough, List.take_of_length_le most,
        List.drop_eq_nil_of_le most]

theorem exists_takes (limit : Nat) (stream : Bytes)
    : ∃ taken, Takes limit stream taken (read limit stream).1 (read limit stream).2 := by
  obtain ⟨block, taken⟩ := exists_blockTaken stream none false
  have ends := blockEnds stream none false
  cases found : readBlock none false stream with
  | mk what rest =>
      rw [found] at ends
      cases ends with
      | absent _ empty =>
          rw [empty, read_nil]
          exact ⟨[], rfl, read_nil limit, by simp, by simp⟩
      | cut inside =>
          have same := read_of_failed found limit
          rw [same]
          exact ⟨stream, .of_cut (inside.resolve_left (by decide)) same⟩
      | unusable filled bearable =>
          rw [read_of_failed found]
          have split := taken.split
          have alone := taken.alike [] rest (by rw [found, List.nil_append])
          rw [found] at split alone
          rw [List.append_nil] at alone
          refine ⟨block, split, read_of_failed alone limit, by simp [filled], ?_⟩
          rintro _ ⟨⟩ fatal
          rw [bearable] at fatal
          cases fatal
      | length filled => exact exists_takes_of_length filled taken found

/-- A call on a stream that is not empty takes something off it. -/
theorem Takes.ne_nil {limit : Nat} {stream taken rest : Bytes} {answer : Answer}
    (takes : Takes limit stream taken answer rest) (filled : stream ≠ [])
    : taken ≠ [] := by
  rintro rfl
  have ended : (.ok none, []) = (answer, ([] : Bytes)) := (read_nil limit).symm.trans takes.alone
  exact filled (takes.none_iff.mp (Prod.mk.inj ended).1.symm)

-----------------------------------------------------------------------------------------
-- The loop
-----------------------------------------------------------------------------------------

/-- A reader of a stream, between two calls. -/
structure Reader where
  /-- What is left of the stream. -/
  rest : Bytes
  /-- How many calls were made. -/
  calls : Nat
  /-- What was handed on: bodies, and errors in the places of those that could not be read. -/
  sent : List (Except ClientError Bytes)
  /-- Whether there will be another call. -/
  running : Bool
deriving DecidableEq

namespace Reader

/-- A reader that has made no call yet. -/
def ofStream (stream : Bytes) : Reader :=
  { rest := stream, calls := 0, sent := [], running := true }

/-- Hand something on. A reader stops when nobody takes what it hands on. -/
def handOn (reader : Reader) (taken : Bool) (item : Except ClientError Bytes) : Reader :=
  if taken then { reader with sent := reader.sent ++ [item] } else { reader with running := false }

/-- One call, and what follows from its answer: bodies and errors are handed on, and the reader
stops at the end of the stream and after an error with which the stream is lost. `listens` tells of
which calls somebody takes what is handed on.
-/
def pass (limit : Nat) (listens : Nat → Bool) (reader : Reader) : Reader :=
  if reader.running then
    let (answer, rest) := read limit reader.rest
    let called := { reader with rest, calls := reader.calls + 1 }
    match answer with
    | .ok (some body) => called.handOn (listens reader.calls) (.ok body)
    | .ok none => { called with running := false }
    | .error error =>
        let told := called.handOn (listens reader.calls) (.error error)
        if error.isFatal then { told with running := false } else told
  else reader

/-- The reader of a stream after so many passes of its loop. -/
def after (limit : Nat) (listens : Nat → Bool) (stream : Bytes) (count : Nat) : Reader :=
  (pass limit listens)^[count] (ofStream stream)

end Reader

/-- A call: the part of the stream that it took, and its answer. -/
structure Call where
  taken : Bytes
  answer : Answer

/-- What is handed on of an answer: all but the end of the stream. -/
def itemOf? : Answer → Option (Except ClientError Bytes)
  | .ok (some body) => some (.ok body)
  | .ok none => none
  | .error error => some (.error error)

/-- Whether a reader goes on after an answer, if somebody takes what it hands on. -/
def goesOn : Answer → Bool
  | .ok (some _) => true
  | .ok none => false
  | .error error => !error.isFatal

/-- A pass of a reader that runs, told without its cases. -/
theorem Reader.pass_of_running {limit : Nat} {listens : Nat → Bool} {reader : Reader}
    {answer : Answer} {rest : Bytes} (running : reader.running = true)
    (call : read limit reader.rest = (answer, rest))
    : reader.pass limit listens
      = { rest, calls := reader.calls + 1
          sent := reader.sent ++ if listens reader.calls then (itemOf? answer).toList else []
          running := goesOn answer && listens reader.calls } := by
  rw [pass, if_pos running, call]
  rcases answer with error | _ | body
  · cases fatal : error.isFatal <;> cases heard : listens reader.calls <;>
      simp [handOn, itemOf?, goesOn, fatal, running]
  · simp [itemOf?, goesOn]
  · cases heard : listens reader.calls <;>
      simp [handOn, itemOf?, goesOn, running]

theorem Reader.pass_of_stopped {limit : Nat} {listens : Nat → Bool} {reader : Reader}
    (stopped : reader.running = false)
    : reader.pass limit listens = reader := by
  simp [pass, stopped]

-----------------------------------------------------------------------------------------
-- Runs of the loop
-----------------------------------------------------------------------------------------

/-- Successive calls on a stream, each made where the one before it stopped, and what they leave. -/
inductive Calls (limit : Nat) (stream : Bytes) : List Call → Bytes → Prop
  | none : Calls limit stream [] stream
  | next {calls taken answer rest} (before : Calls limit stream calls (taken ++ rest))
      (call : read limit (taken ++ rest) = (answer, rest))
    : Calls limit stream (calls ++ [⟨taken, answer⟩]) rest

/-- The parts that calls take lie one behind the other, from the front of the stream on. -/
theorem Calls.covers {limit : Nat} {stream rest : Bytes} {calls : List Call}
    (made : Calls limit stream calls rest)
    : stream = calls.flatMap Call.taken ++ rest := by
  induction made with
  | none => rfl
  | next _ _ ih => simpa using ih

/-- Each call answers to the part that it takes. -/
theorem Calls.alone {limit : Nat} {stream rest : Bytes} {calls : List Call}
    (made : Calls limit stream calls rest)
    : ∀ call ∈ calls, read limit call.taken = (call.answer, []) := by
  induction made with
  | none => simp
  | @next calls taken answer rest _ call ih =>
      intro other member
      rcases List.mem_append.mp member with earlier | last
      · exact ih other earlier
      · obtain rfl := List.mem_singleton.mp last
        obtain ⟨part, takes⟩ := exists_takes limit (taken ++ rest)
        rw [call] at takes
        obtain rfl := List.append_cancel_right takes.split
        exact takes.alone

/-- What calls hand on, in order. -/
def items (calls : List Call) : List (Except ClientError Bytes) :=
  calls.filterMap fun call => itemOf? call.answer

/-- What a reader has done with its stream so far, if these are its calls. -/
structure Reader.Made (limit : Nat) (listens : Nat → Bool) (stream : Bytes) (calls : List Call)
    (reader : Reader)
    : Prop where
  made : Calls limit stream calls reader.rest
  counted : reader.calls = calls.length
  /-- All is handed on, except for the item of the last call where nobody took it. -/
  told : items calls = reader.sent
    ∨ reader.running = false
      ∧ listens (reader.calls - 1) = false
      ∧ ∃ last, items calls = reader.sent ++ [last]
  /-- As long as the reader runs, each call has taken something. -/
  advanced : reader.running = true → calls.length + reader.rest.length ≤ stream.length
  bounded : calls.length ≤ stream.length + 1

theorem Reader.Made.items_eq {limit : Nat} {listens : Nat → Bool} {stream : Bytes}
    {calls : List Call} {reader : Reader} (made : reader.Made limit listens stream calls)
    (running : reader.running = true)
    : items calls = reader.sent := by
  rcases made.told with told | ⟨stopped, _⟩
  · exact told
  · rw [running] at stopped
    cases stopped

/-- An answer after which the reader goes on is to a stream that was not empty. -/
theorem Takes.ne_nil_of_goesOn {limit : Nat} {stream taken rest : Bytes} {answer : Answer}
    (takes : Takes limit stream taken answer rest) (goesOn : goesOn answer = true)
    : stream ≠ [] := by
  intro empty
  rw [takes.none_iff.mpr empty] at goesOn
  cases goesOn

/-- One more call of a running reader. -/
theorem Reader.Made.pass {limit : Nat} {listens : Nat → Bool} {stream : Bytes} {calls : List Call}
    {reader : Reader} (made : reader.Made limit listens stream calls)
    : ∃ calls, (reader.pass limit listens).Made limit listens stream calls := by
  cases running : reader.running with
  | false => exact ⟨calls, (pass_of_stopped running).symm ▸ made⟩
  | true =>
      obtain ⟨taken, takes⟩ := exists_takes limit reader.rest
      cases call : read limit reader.rest with
      | mk answer rest =>
          rw [call] at takes
          have told := made.items_eq running
          have room := made.advanced running
          refine ⟨calls ++ [⟨taken, answer⟩], ?_⟩
          rw [pass_of_running running call]
          refine ⟨.next (takes.split ▸ made.made) (takes.split ▸ call), ?_, ?_, ?_, ?_⟩
          · simp [made.counted]
          · have more
                : items (calls ++ [⟨taken, answer⟩]) = reader.sent ++ (itemOf? answer).toList := by
              cases item : itemOf? answer <;> simp [items, item, ← told]
            rw [more]
            cases heard : listens reader.calls with
            | true => exact .inl rfl
            | false =>
                cases itemOf? answer with
                | none => exact .inl rfl
                | some item => exact .inr ⟨Bool.and_false _, heard, item, by simp⟩
          · intro goes
            have goesOn : goesOn answer = true := (Bool.and_eq_true_iff.mp goes).1
            have filled := takes.ne_nil_of_goesOn goesOn
            have positive : 0 < taken.length := List.length_pos_of_ne_nil (takes.ne_nil filled)
            have total := congrArg List.length takes.split
            simp only [List.length_append, List.length_singleton] at total ⊢
            omega
          · simp only [List.length_append, List.length_singleton]
            omega

theorem Reader.made_after (limit : Nat) (listens : Nat → Bool) (stream : Bytes) (count : Nat)
    : ∃ calls, (after limit listens stream count).Made limit listens stream calls := by
  induction count with
  | zero => exact ⟨[], .none, rfl, .inl rfl, fun _ => by simp [after, ofStream], by simp⟩
  | succ count ih =>
      obtain ⟨calls, made⟩ := ih
      rw [after, Function.iterate_succ_apply']
      exact made.pass

/-- A reader that still runs has made a call in every pass. -/
theorem Reader.calls_of_running {limit : Nat} {listens : Nat → Bool} {stream : Bytes} {count : Nat}
    (running : (after limit listens stream count).running = true)
    : (after limit listens stream count).calls = count := by
  induction count with
  | zero => rfl
  | succ count ih =>
      rw [after, Function.iterate_succ_apply'] at running ⊢
      cases before : (after limit listens stream count).running with
      | false =>
          rw [← after, pass_of_stopped before, before] at running
          cases running
      | true =>
          rw [← after, pass_of_running before rfl]
          exact congrArg (· + 1) (ih before)

/-- A reader stops within one call more than its stream has bytes, and stays as it is then. -/
theorem Reader.stopped_after (limit : Nat) (listens : Nat → Bool) {stream : Bytes} {count : Nat}
    (enough : stream.length < count)
    : (after limit listens stream count).running = false := by
  obtain ⟨calls, made⟩ := made_after limit listens stream count
  by_contra running
  rw [Bool.not_eq_false] at running
  have counted := made.counted
  have room := made.advanced running
  rw [calls_of_running running] at counted
  omega

theorem Reader.after_eq (limit : Nat) (listens : Nat → Bool) {stream : Bytes} {count : Nat}
    (enough : stream.length < count)
    : after limit listens stream count = after limit listens stream (stream.length + 1) := by
  induction count, enough using Nat.le_induction with
  | base => rfl
  | succ count enough ih =>
      rw [after, Function.iterate_succ_apply', ← after,
        pass_of_stopped (stopped_after limit listens enough), ih]

/-- An answer after which the reader does not go on leaves nothing of the stream. -/
theorem Takes.rest_eq_nil {limit : Nat} {stream taken rest : Bytes} {answer : Answer}
    (takes : Takes limit stream taken answer rest) (stops : goesOn answer = false)
    : rest = [] := by
  rcases answer with error | _ | body
  · exact (takes.fatal error rfl (by simpa [goesOn] using stops)).2
  · have empty := takes.none_iff.mp rfl
    rw [takes.split] at empty
    exact (List.append_eq_nil_iff.mp empty).2
  · cases stops

/-- A reader whose listener stays stops only when nothing is left. -/
theorem Reader.rest_eq_nil {limit : Nat} {listens : Nat → Bool} {stream : Bytes} {count : Nat}
    (listening : ∀ call, listens call = true)
    (stopped : (after limit listens stream count).running = false)
    : (after limit listens stream count).rest = [] := by
  induction count with
  | zero => cases stopped
  | succ count ih =>
      rw [after, Function.iterate_succ_apply', ← after] at stopped ⊢
      cases before : (after limit listens stream count).running with
      | false =>
          rw [pass_of_stopped before]
          exact ih before
      | true =>
          obtain ⟨taken, takes⟩ := exists_takes limit (after limit listens stream count).rest
          cases call : read limit (after limit listens stream count).rest with
          | mk answer rest =>
              rw [call] at takes
              rw [pass_of_running before call] at stopped ⊢
              exact takes.rest_eq_nil (by simpa [listening] using stopped)

theorem Reader.iterate_pass_of_stopped {limit : Nat} {listens : Nat → Bool} {reader : Reader}
    (stopped : reader.running = false) (count : Nat)
    : (pass limit listens)^[count] reader = reader :=
  Function.iterate_fixed (pass_of_stopped stopped) count

/-- A reader whose listener stays hands on what successive reads of its stream answer. Induction on
the reads, whatever was handed on before them.
-/
theorem Reader.sent_iterate {limit : Nat} {listens : Nat → Bool}
    (listening : ∀ call, listens call = true) (count : Nat) {reader : Reader}
    (running : reader.running = true)
    : ((pass limit listens)^[count] reader).sent
      = reader.sent ++ (readAll limit reader.rest count).filterMap itemOf? := by
  induction count generalizing reader with
  | zero => simp [readAll]
  | succ count ih =>
      cases call : read limit reader.rest with
      | mk answer rest =>
          rw [Function.iterate_succ_apply, pass_of_running running call, readAll, call]
          rcases answer with error | _ | body
          · cases fatal : error.isFatal with
            | true => rw [iterate_pass_of_stopped] <;> simp [goesOn, itemOf?, fatal, listening]
            | false => rw [ih] <;> simp [goesOn, itemOf?, fatal, listening]
          · rw [iterate_pass_of_stopped] <;> simp [goesOn, itemOf?, listening]
          · rw [ih] <;> simp [goesOn, itemOf?, listening]

-----------------------------------------------------------------------------------------
-- Every stream is read to its end
-----------------------------------------------------------------------------------------

/-- Every call on a stream that is not empty takes something off it; it finds the end of the stream
exactly where nothing is left, and fails with the end of the stream only when nothing is left after
it. So whoever listens, the reader stops after one call more at most than the stream has bytes. The
parts that its calls take lie one behind the other from the front of the stream on, and each alone
would be answered in the same way. What is handed on are the answers of the calls, each once and in
the order of the stream, up to the first that nobody takes; and if all is taken, the parts are the
whole stream, and what is handed on is what successive reads answer.
-/
theorem reading_ends (limit : Nat) (stream : Bytes) (listens : Nat → Bool)
    : (∀ remaining : Bytes,
        (remaining ≠ [] → (read limit remaining).2.length < remaining.length)
        ∧ ((read limit remaining).1 = .ok none ↔ remaining = [])
        ∧ ((read limit remaining).1 = .error .unexpectedEof → (read limit remaining).2 = []))
      ∧ ∃ (ended : Reader) (calls : List Call),
          (∀ count, stream.length < count → Reader.after limit listens stream count = ended)
          ∧ ended.running = false
          ∧ ended.calls = calls.length
          ∧ calls.length ≤ stream.length + 1
          ∧ Calls limit stream calls ended.rest
          ∧ stream = calls.flatMap Call.taken ++ ended.rest
          ∧ (∀ call ∈ calls, read limit call.taken = (call.answer, []))
          ∧ (items calls = ended.sent
            ∨ listens (ended.calls - 1) = false ∧ ∃ last, items calls = ended.sent ++ [last])
          ∧ ((∀ call, listens call = true) →
              ended.rest = []
              ∧ items calls = ended.sent
              ∧ ended.sent = (readAll limit stream (stream.length + 1)).filterMap itemOf?) := by
  refine ⟨fun remaining => ?_, ?_⟩
  · obtain ⟨taken, takes⟩ := exists_takes limit remaining
    refine ⟨fun filled => ?_, takes.none_iff, fun cut => (takes.fatal _ cut rfl).2⟩
    have positive : 0 < taken.length := List.length_pos_of_ne_nil (takes.ne_nil filled)
    have total := congrArg List.length takes.split
    rw [List.length_append] at total
    omega
  · have stopped : (Reader.after limit listens stream (stream.length + 1)).running = false :=
      Reader.stopped_after limit listens (Nat.lt_succ_self _)
    obtain ⟨calls, made⟩ := Reader.made_after limit listens stream (stream.length + 1)
    refine ⟨_, calls, fun count enough => Reader.after_eq limit listens enough, stopped,
      made.counted, made.bounded, made.made, made.made.covers, made.made.alone,
      made.told.imp_right And.right, fun listening => ⟨?_, ?_, ?_⟩⟩
    · exact Reader.rest_eq_nil listening stopped
    · rcases made.told with told | ⟨_, deaf, _⟩
      · exact told
      · rw [listening] at deaf
        cases deaf
    · exact Reader.sent_iterate listening (stream.length + 1) rfl

end LanguageClient.Frame
