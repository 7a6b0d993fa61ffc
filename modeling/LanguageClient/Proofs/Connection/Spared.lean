import LanguageClient.Proofs.Connection.Failure
import LanguageClient.Proofs.Connection.Talk

/-! A bad message costs only itself. A poll that ends with an error that is not fatal changes the
transport alone, and a run goes on as if that poll had been spared.
-/

namespace LanguageClient.Connection

variable {τ κ : Type}

-----------------------------------------------------------------------------------------
-- Connections that differ in their transports
-----------------------------------------------------------------------------------------

section

variable {first second : Connection (Overheard τ) κ}

/-- Two connections differ in their transports alone, which have taken the same messages. -/
structure Alike (first second : Connection (Overheard τ) κ) : Prop where
  same : second = first.through second.transport
  written : second.transport.written = first.transport.written

theorem Alike.symm (alike : Alike first second) : Alike second first :=
  ⟨by rw [alike.same]; rfl, alike.written.symm⟩

theorem Alike.trans {third : Connection (Overheard τ) κ} (one : Alike first second)
    (two : Alike second third)
    : Alike first third :=
  ⟨by rw [two.same, one.same]; rfl, two.written.trans one.written⟩

variable [Transport τ]

/-- What the transport answers in the course of an operation. -/
def answersIn (connection : Connection (Overheard τ) κ) (operation : Operation (Overheard τ) κ)
    : List Transport.Answer :=
  connection.transport.since (connection.after operation).transport

/-- Where the transports answer the same in the course of an operation, it ends in the same way, and
connections that were alike stay so.
-/
theorem Alike.perform {operation : Operation (Overheard τ) κ} (alike : Alike first second)
    (own : ∀ change, operation ≠ .disturb change)
    (answers : first.answersIn operation = second.answersIn operation)
    : Alike (first.after operation) (second.after operation)
      ∧ (first.perform operation).2 = (second.perform operation).2 := by
  obtain ⟨talk, held⟩ := isTalk_perform first own
  have one : first.perform operation = _ := held first.transport
  have two : (first.through second.transport).perform operation = _ := held second.transport
  rw [← alike.same] at two
  simp only [answersIn, after, one, two] at answers ⊢
  obtain ⟨result, written⟩ := Overheard.hold_alike talk answers alike.written.symm
  rw [result]
  exact ⟨⟨rfl, written.symm⟩, rfl⟩

-----------------------------------------------------------------------------------------
-- Polls that find a bad message
-----------------------------------------------------------------------------------------

/-- A poll that ends with an error that is not fatal takes one item from the transport, and changes
nothing else. A reply that the transport refuses is not written.
-/
theorem poll_alike_of_bearable {connection : Connection (Overheard τ) κ} {error : ClientError}
    (failed : connection.poll.2 = .error error) (bearable : error.isFatal = false)
    : Alike connection connection.poll.1
      ∧ ∃ item,
          connection.answersIn .poll = [.received item]
          ∨ connection.answersIn .poll = [.received item, .sent (.error error)] := by
  have failure := pollFailed_of_error failed
  simp only [answersIn, after, perform]
  generalize connection.poll.1 = after at failure ⊢
  cases failure with
  | lost _ fatal => simp [bearable] at fatal
  | useless received =>
      have answers := Overheard.receive_answers connection.transport
      have written := Overheard.receive_written connection.transport
      rw [received] at answers written
      exact ⟨⟨rfl, written⟩, _, .inl (Overheard.since_eq answers)⟩
  | @unreplied transport _ id method params _ received _ sent =>
      have answers := Overheard.receive_answers connection.transport
      have written := Overheard.receive_written connection.transport
      have refusal := Overheard.send_answers transport (Message.reply id method params)
      have unwritten := Overheard.send_written_of_error (congrArg (·.2) sent)
      rw [received] at answers written
      rw [sent] at refusal unwritten
      rw [answers, List.append_assoc] at refusal
      exact ⟨⟨rfl, unwritten.trans written⟩, _, .inr (Overheard.since_eq refusal)⟩

end

-----------------------------------------------------------------------------------------
-- Runs without them
-----------------------------------------------------------------------------------------

variable [Transport τ]

/-- What the operations of a run answer. -/
def outcomes (connection : Connection τ κ) : List (Operation τ κ) → List Outcome
  | [] => []
  | operation :: rest =>
      (connection.perform operation).2 :: (connection.after operation).outcomes rest

/-- A second run goes as a first one does, but is spared some polls that ended with an error that
is not fatal. In all that is kept the transports answer the same; what happens to them by themselves
may differ.
-/
inductive Spared
    : Connection (Overheard τ) κ → List (Operation (Overheard τ) κ) →
      Connection (Overheard τ) κ → List (Operation (Overheard τ) κ) → Prop
  | done {first second} : Spared first [] second []
  | spared {first second operations kept error} (failed : first.poll.2 = .error error)
    (bearable : error.isFatal = false)
    (rest : Spared (first.after .poll) operations second kept)
    : Spared first (.poll :: operations) second kept
  | kept {first second operation operations kept}
    (own : ∀ change, operation ≠ .disturb change)
    (answers : first.answersIn operation = second.answersIn operation)
    (rest : Spared (first.after operation) operations (second.after operation) kept)
    : Spared first (operation :: operations) second (operation :: kept)
  | disturbed {first second operations kept} (one two : τ → τ)
    (rest
      : Spared (first.after (.disturb (Overheard.alter one))) operations
          (second.after (.disturb (Overheard.alter two))) kept)
    : Spared first (.disturb (Overheard.alter one) :: operations)
        second (.disturb (Overheard.alter two) :: kept)

/-- Connections that were alike are so after both runs. Induction on the runs: a poll that is spared
leaves them alike, and what is kept cannot tell them apart.
-/
theorem Spared.alike {first second : Connection (Overheard τ) κ}
    {operations kept : List (Operation (Overheard τ) κ)}
    (spared : Spared first operations second kept) (alike : Alike first second)
    : Alike (first.run operations) (second.run kept)
      ∧ (second.outcomes kept).Sublist (first.outcomes operations) := by
  induction spared with
  | done => exact ⟨alike, .slnil⟩
  | spared failed bearable _ ih =>
      obtain ⟨alike, outcomes⟩ := ih ((poll_alike_of_bearable failed bearable).1.symm.trans alike)
      exact ⟨alike, outcomes.cons _⟩
  | kept own answers _ ih =>
      obtain ⟨next, outcome⟩ := alike.perform own answers
      obtain ⟨alike, outcomes⟩ := ih next
      simp only [Connection.outcomes, outcome]
      exact ⟨alike, outcomes.cons_cons _⟩
  | disturbed one two _ ih =>
      obtain ⟨alike, outcomes⟩ := ih ⟨by rw [alike.same]; rfl, alike.written⟩
      exact ⟨alike, outcomes.cons_cons _⟩

/-- A poll fails with what is wrong with the item that it receives, or with the error of a reply that
is refused. If that is not fatal, the poll takes the item from the transport and changes nothing else.
Two runs of new connections, one of them spared such polls, leave all but the transport the same and
have sent the same messages, and the one answers what the other does, less those polls.
-/
theorem bad_messages_cost_themselves
    : (∀ (connection : Connection (Overheard τ) κ) (error : ClientError),
          connection.poll.2 = .error error
          ↔ connection.fault? (Transport.receive connection.transport).2 = some error
            ∨ connection.RefusesReply error)
      ∧ (∀ (connection : Connection (Overheard τ) κ) (error : ClientError),
          connection.poll.2 = .error error →
            error.isFatal = false →
              Alike connection connection.poll.1
              ∧ ∃ item,
                  connection.answersIn .poll = [.received item]
                  ∨ connection.answersIn .poll = [.received item, .sent (.error error)])
      ∧ ∀ (one two : τ) (operations kept : List (Operation (Overheard τ) κ)),
          Spared (fresh (Overheard.fresh one)) operations (fresh (Overheard.fresh two)) kept →
            Alike ((fresh (Overheard.fresh one)).run operations)
              ((fresh (Overheard.fresh two)).run kept)
            ∧ ((fresh (Overheard.fresh two)).outcomes kept).Sublist
                ((fresh (Overheard.fresh one)).outcomes operations) :=
  ⟨fun _ _ => poll_eq_error_iff,
    fun _ _ failed bearable => poll_alike_of_bearable failed bearable,
    fun _ _ _ _ spared => spared.alike ⟨rfl, rfl⟩⟩

/-- A body that is no message, between a request and a notification. -/
theorem illegible_body_costs_itself
    : let notification := Text.bytes "\x7b\"method\":\"ready\"\x7d"
      let whole := ((Channel.fresh 0).push (.ok (Text.bytes "?"))).push (.ok notification)
      let rest := (Channel.fresh 0).push (.ok notification)
      let start : List (Operation (Overheard Channel) String) :=
        [.listen "editor", .request "ask" none "one"]
      let first : Connection (Overheard Channel) String := fresh (Overheard.fresh whole)
      let second : Connection (Overheard Channel) String := fresh (Overheard.fresh rest)
      Spared first (start ++ [.poll, .poll]) second (start ++ [.poll])
      ∧ Alike (first.run (start ++ [.poll, .poll])) (second.run (start ++ [.poll])) := by
  intro notification whole rest start first second
  have spared : Spared first (start ++ [.poll, .poll]) second (start ++ [.poll]) := by
    refine .kept (by simp) rfl (.kept (by simp) rfl ?_)
    have failed : (first.run start).poll.2 = .error .json := by decide +kernel
    exact .spared failed rfl (.kept (by simp) (by decide +kernel) .done)
  exact ⟨spared, (bad_messages_cost_themselves.2.2 whole rest _ _ spared).1⟩

end LanguageClient.Connection
