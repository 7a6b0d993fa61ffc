import LanguageClient.Channel
import LanguageClient.Proofs.Connection.Operation
import Mathlib.Data.List.Basic

/-! How a poll fails, and who is told. A loss that is noticed on receiving fails all requests that
wait; a loss that is noticed on replying to a request of the server leaves them waiting.
-/

namespace LanguageClient.Connection

variable {τ κ : Type} [Transport τ] {connection : Connection τ κ} {error : ClientError}

/-- The ways in which a poll can fail: nothing can be received any more, what was received is of no
use, or a request of the server cannot be replied to.
-/
inductive PollFailed (connection : Connection τ κ) (error : ClientError) : Connection τ κ → Prop
  | lost {transport}
    (received : Transport.receive connection.transport = (transport, .error error))
    (fatal : error.isFatal = true)
    : PollFailed connection error { connection with transport }.failPending
  | useless {transport item}
    (received : Transport.receive connection.transport = (transport, item))
    (bearable : error.isFatal = false)
    : PollFailed connection error { connection with transport }
  | unreplied {received' body id method params transport}
    (received : Transport.receive connection.transport = (received', .ok (some body)))
    (read : Message.Incoming.ofBytes? body = some (.request id method params))
    (sent : Transport.send received' (Message.reply id method params) = (transport, .error error))
    : PollFailed connection error { connection with transport }

omit [Transport τ] in
theorem map_eq_error_iff {α β : Type} {result : Except ClientError α} {change : α → β}
    : result.map change = .error error ↔ result = .error error := by
  cases result <;> simp [Except.map]

theorem pollFailed_of_error (failed : connection.poll.2 = .error error)
    : PollFailed connection error connection.poll.1 := by
  obtain ⟨after, result, written, polled⟩ := connection.poll_cases
  rw [written] at failed ⊢
  cases polled with
  | lost received fatal =>
      obtain rfl := Except.error.inj failed
      exact .lost received fatal
  | spoiled received bearable | unmatched received _ _ bearable =>
      obtain rfl := Except.error.inj failed
      exact .useless received bearable
  | illegible received =>
      obtain rfl := Except.error.inj failed
      exact .useless received rfl
  | replied received read sent =>
      obtain rfl := map_eq_error_iff.mp failed
      exact .unreplied received read sent
  | idle | noticed | answered | openingAnswered => simp at failed

/-- What is wrong with an item that is received: it is an error, it is no message, or it is a response
that no request waits for.
-/
def fault? (connection : Connection τ κ) : Except ClientError (Option Bytes) → Option ClientError
  | .error error => some error
  | .ok none => none
  | .ok (some body) =>
      match Message.Incoming.ofBytes? body with
      | none => some .json
      | some (.response given _) =>
          match given.bind Json.u32? with
          | none => some .responseWithoutId
          | some id =>
              if (connection.pending.lookup id).isNone then some (.unknownRequestId id) else none
      | some _ => none

/-- A request of the server has arrived, and the transport does not take the reply to it. -/
def RefusesReply (connection : Connection τ κ) (error : ClientError) : Prop :=
  ∃ body id method params,
    (Transport.receive connection.transport).2 = .ok (some body)
    ∧ Message.Incoming.ofBytes? body = some (.request id method params)
    ∧ (Transport.send (Transport.receive connection.transport).1
        (Message.reply id method params)).2
      = .error error

/-- A poll fails with what is wrong with the item that it receives, or with the error of a reply that
is refused; it does not fail otherwise.
-/
theorem poll_eq_error_iff
    : connection.poll.2 = .error error
      ↔ connection.fault? (Transport.receive connection.transport).2 = some error
        ∨ connection.RefusesReply error := by
  rcases received : Transport.receive connection.transport with ⟨transport, reason | _ | body⟩
  · simp [poll, received, fault?, RefusesReply]
  · simp [poll, received, fault?, RefusesReply]
  · cases read : Message.Incoming.ofBytes? body with
    | none => simp [poll, received, fault?, RefusesReply, read]
    | some incoming =>
        simp only [poll, received, fault?, RefusesReply, read]
        cases incoming with
        | notification method params => simp [handle, read, map_eq_error_iff]
        | request id method params =>
            rcases sent : Transport.send transport (Message.reply id method params) with
              ⟨replied, reason | _⟩
            · simp [handle, write, sent, read, map_eq_error_iff]
            · simp [handle, write, sent, read, map_eq_error_iff]
        | response given outcome =>
            cases named : given.bind Json.u32? with
            | none => simp [handle, handleResponse, named, read, map_eq_error_iff]
            | some id =>
                cases found : connection.pending.lookup id with
                | none => simp [handle, handleResponse, named, found, read, map_eq_error_iff]
                | some ticket => simp [handle, handleResponse, named, found, read, map_eq_error_iff]

-----------------------------------------------------------------------------------------
-- The loss of the transport
-----------------------------------------------------------------------------------------

/-- All requests that waited were told that the process is not there, and none waits any more. -/
structure AllFailed (connection after : Connection τ κ) : Prop where
  pending : after.pending = []
  answers
    : after.answers
      = connection.answers ++
          connection.pending.map fun (_, ticket) => (ticket, .error .processNotRunning)

/-- A fatal error comes from receiving, and then all requests fail; or it comes from a reply, and
then all but the transport is left as it was.
-/
theorem poll_of_fatal (failed : connection.poll.2 = .error error) (fatal : error.isFatal = true)
    : ((Transport.receive connection.transport).2 = .error error
        ∧ connection.AllFailed connection.poll.1)
      ∨ (connection.RefusesReply error
        ∧ connection.poll.1 = { connection with transport := connection.poll.1.transport }) := by
  have failure := pollFailed_of_error failed
  generalize connection.poll.1 = after at failure ⊢
  cases failure with
  | lost received => exact .inl ⟨by rw [received], rfl, rfl⟩
  | useless _ bearable => simp [bearable] at fatal
  | unreplied received read sent =>
      exact .inr ⟨⟨_, _, _, _, by rw [received], read, by rw [received, sent]⟩, rfl⟩

/-- A poll that ends with a fatal error fails all requests exactly when the error comes from
receiving, or nobody waits. Any other fatal error comes from a reply, and those who wait go on
waiting.
-/
theorem fatal_poll_fails_pending_iff (failed : connection.poll.2 = .error error)
    (fatal : error.isFatal = true)
    : (connection.AllFailed connection.poll.1
        ↔ (Transport.receive connection.transport).2 = .error error ∨ connection.pending = [])
      ∧ ((Transport.receive connection.transport).2 ≠ .error error →
          connection.RefusesReply error
          ∧ connection.poll.1 = { connection with transport := connection.poll.1.transport }) := by
  rcases poll_of_fatal failed fatal with ⟨received, all⟩ | ⟨refused, same⟩
  · exact ⟨⟨fun _ => .inl received, fun _ => all⟩, fun other => absurd received other⟩
  · refine ⟨⟨fun all => .inr ?_, ?_⟩, fun _ => ⟨refused, same⟩⟩
    · have nobody := all.pending
      rwa [same] at nobody
    · rintro (received | nobody)
      · obtain ⟨_, _, _, _, arrived, _⟩ := refused
        simp [received] at arrived
      · rw [same]
        exact ⟨nobody, by simp [nobody]⟩

/-- Where nothing has arrived, the loss is noticed on receiving. -/
theorem silent_loss_fails_pending
    : let connection : Connection Channel String :=
        (fresh (Channel.fresh 0)).run
          [.request "ask" none "one", .disturb fun channel => { channel with dead := true }]
      connection.poll.2 = .error .processNotRunning
      ∧ connection.pending = [(0, "one")]
      ∧ connection.AllFailed connection.poll.1 := by
  intro connection
  have failed : connection.poll.2 = .error .processNotRunning := by decide +kernel
  have received : (Transport.receive connection.transport).2 = .error .processNotRunning := by
    decide +kernel
  exact ⟨failed, by decide +kernel,
    (fatal_poll_fails_pending_iff failed rfl).1.mpr (.inl received)⟩

/-- Where a request of the server has arrived before the loss, the loss is noticed on replying, and
whoever waits is not told.
-/
theorem loss_on_reply_leaves_waiting
    : ¬ ∀ (channel : Channel) (operations : List (Operation Channel String)) (error : ClientError),
        let connection := (fresh channel : Connection Channel String).run operations
        connection.poll.2 = .error error →
          error.isFatal = true →
            connection.AllFailed connection.poll.1 := by
  intro told
  have all :=
    told (Channel.fresh 0)
      [.request "ask" none "one",
        .disturb (·.push
          (.ok (Text.bytes "\x7b\"id\":7,\"method\":\"workspace/configuration\"\x7d"))),
        .disturb fun channel => { channel with dead := true }]
      .processNotRunning (by decide +kernel) rfl
  exact absurd all.pending (by decide +kernel)

end LanguageClient.Connection
