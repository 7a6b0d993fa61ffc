import LanguageClient.Transport
import Mathlib.Data.List.Basic

/-! Talks with a transport. What comes of a talk depends on the answers of the transport alone: two
transports that give the same answers are told the same, and the talk ends in the same way.
-/

namespace LanguageClient

namespace Transport

/-- A talk with a transport: messages that are sent to it and receipts that are asked of it, each
chosen by the answers so far, and a result at the end.
-/
inductive Talk (α : Type) where
  | done (result : α)
  | send (message : Json) (next : Except ClientError Unit → Talk α)
  | receive (next : Except ClientError (Option Bytes) → Talk α)

namespace Talk

variable {τ α β : Type}

/-- Hold a talk with a transport. -/
def hold [Transport τ] : Talk α → τ → τ × α
  | .done result, transport => (transport, result)
  | .send message next, transport =>
      let (transport, answer) := Transport.send transport message
      (next answer).hold transport
  | .receive next, transport =>
      let (transport, answer) := Transport.receive transport
      (next answer).hold transport

/-- The same talk with something else made of its result. -/
def map (change : α → β) : Talk α → Talk β
  | .done result => .done (change result)
  | .send message next => .send message fun answer => (next answer).map change
  | .receive next => .receive fun answer => (next answer).map change

theorem hold_map [Transport τ] (change : α → β) (talk : Talk α) (transport : τ)
    : (talk.map change).hold transport
      = ((talk.hold transport).1, change (talk.hold transport).2) := by
  induction talk generalizing transport with
  | done => rfl
  | send message next ih => exact ih _ _
  | receive next ih => exact ih _ _

end Talk

/-- What a transport answers: what became of a message, or what it has received. -/
inductive Answer where
  | sent (result : Except ClientError Unit)
  | received (result : Except ClientError (Option Bytes))
deriving DecidableEq

end Transport

/-- A transport with all that it has answered, and the messages that it has taken. -/
structure Overheard (τ : Type) where
  inner : τ
  answers : List Transport.Answer
  written : List Json

namespace Overheard

open Transport (Talk)

variable {τ α : Type}

/-- A transport over which nothing was heard yet. -/
def fresh (inner : τ) : Overheard τ :=
  { inner, answers := [], written := [] }

/-- The same with another transport inside. -/
def alter (change : τ → τ) (transport : Overheard τ) : Overheard τ :=
  { transport with inner := change transport.inner }

/-- What was answered between two moments. -/
def since (before after : Overheard τ) : List Transport.Answer :=
  after.answers.drop before.answers.length

variable [Transport τ]

/-- Hand a message over to the transport inside, and note whether it is taken. -/
def send (transport : Overheard τ) (message : Json) : Overheard τ × Except ClientError Unit :=
  match Transport.send transport.inner message with
  | (inner, .ok ()) =>
      ({ inner, answers := transport.answers ++ [.sent (.ok ())]
         written := transport.written ++ [message] },
        .ok ())
  | (inner, .error error) =>
      ({ transport with inner, answers := transport.answers ++ [.sent (.error error)] },
        .error error)

/-- Receive from the transport inside, and note what. -/
def receive (transport : Overheard τ) : Overheard τ × Except ClientError (Option Bytes) :=
  let (inner, result) := Transport.receive transport.inner
  ({ transport with inner, answers := transport.answers ++ [.received result] }, result)

instance : Transport (Overheard τ) where
  send := send
  receive := receive
  isRunning transport := Transport.isRunning transport.inner

theorem send_answers (transport : Overheard τ) (message : Json)
    : (Transport.send transport message).1.answers
      = transport.answers ++ [.sent (Transport.send transport message).2] := by
  simp only [Transport.send, send]
  rcases Transport.send transport.inner message with ⟨inner, error | _⟩ <;> rfl

theorem receive_answers (transport : Overheard τ)
    : (Transport.receive transport).1.answers
      = transport.answers ++ [.received (Transport.receive transport).2] := rfl

theorem receive_written (transport : Overheard τ)
    : (Transport.receive transport).1.written = transport.written := rfl

/-- A message that is refused is not written. -/
theorem send_written_of_error {transport : Overheard τ} {message : Json} {error : ClientError}
    (refused : (Transport.send transport message).2 = .error error)
    : (Transport.send transport message).1.written = transport.written := by
  simp only [Transport.send, send] at refused ⊢
  rcases inside : Transport.send transport.inner message with ⟨inner, error | _⟩
  · rfl
  · simp [inside] at refused

theorem send_written_of_ok {transport : Overheard τ} {message : Json}
    (taken : (Transport.send transport message).2 = .ok ())
    : (Transport.send transport message).1.written = transport.written ++ [message] := by
  simp only [Transport.send, send] at taken ⊢
  rcases inside : Transport.send transport.inner message with ⟨inner, error | _⟩
  · simp [inside] at taken
  · rfl

omit [Transport τ] in
theorem since_eq {before after : Overheard τ} {more : List Transport.Answer}
    (answers : after.answers = before.answers ++ more)
    : before.since after = more := by
  rw [since, answers, List.drop_left]

/-- What was answered before a talk stays on record. -/
theorem exists_answers (talk : Talk α) (transport : Overheard τ)
    : ∃ more, (talk.hold transport).1.answers = transport.answers ++ more := by
  induction talk generalizing transport with
  | done => exact ⟨[], by simp [Talk.hold]⟩
  | send message next ih =>
      obtain ⟨more, later⟩ := ih (Transport.send transport message).2
        (Transport.send transport message).1
      rw [send_answers, List.append_assoc] at later
      exact ⟨_, later⟩
  | receive next ih =>
      obtain ⟨more, later⟩ := ih (Transport.receive transport).2 (Transport.receive transport).1
      rw [receive_answers, List.append_assoc] at later
      exact ⟨_, later⟩

/-- The answers in a talk are the first of them and those in the rest of the talk. -/
theorem since_hold {transport next : Overheard τ} {answer : Transport.Answer}
    (first : next.answers = transport.answers ++ [answer]) (talk : Talk α)
    : transport.since (talk.hold next).1 = answer :: next.since (talk.hold next).1 := by
  obtain ⟨more, later⟩ := exists_answers talk next
  rw [since_eq later]
  rw [first, List.append_assoc] at later
  exact since_eq later

/-- Two transports that give the same answers in a talk bring it to the same result, and have taken
the same messages in it. Induction on the talk.
-/
theorem hold_alike (talk : Talk α) {one two : Overheard τ}
    (alike : one.since (talk.hold one).1 = two.since (talk.hold two).1)
    (written : one.written = two.written)
    : (talk.hold one).2 = (talk.hold two).2
      ∧ (talk.hold one).1.written = (talk.hold two).1.written := by
  induction talk generalizing one two with
  | done => exact ⟨rfl, written⟩
  | send message next ih =>
      simp only [Talk.hold] at alike ⊢
      rw [since_hold (send_answers one message), since_hold (send_answers two message)] at alike
      obtain ⟨same, later⟩ := List.cons.inj alike
      have same := Transport.Answer.sent.inj same
      rw [same] at later ⊢
      refine ih _ later ?_
      cases result : (Transport.send two message).2 with
      | ok =>
          rw [send_written_of_ok result, send_written_of_ok (same.trans result), written]
      | error =>
          rw [send_written_of_error result, send_written_of_error (same.trans result), written]
  | receive next ih =>
      simp only [Talk.hold] at alike ⊢
      rw [since_hold (receive_answers one), since_hold (receive_answers two)] at alike
      obtain ⟨same, later⟩ := List.cons.inj alike
      have same := Transport.Answer.received.inj same
      rw [same] at later ⊢
      exact ih _ later written

end Overheard

end LanguageClient
