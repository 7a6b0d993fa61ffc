import LanguageClient.Message.Incoming
import LanguageClient.Message.Outgoing
import LanguageClient.Transport

/-! A transport that keeps a ledger of all that was asked of it, with its answers. It behaves as the
transport inside it does, so whatever is shown of ledgers holds of every transport.
-/

namespace LanguageClient

/-- Something that was asked of a transport, and what it answered. -/
inductive Call where
  | sent (message : Json) (result : Except ClientError Unit)
  | received (result : Except ClientError (Option Bytes))
  | restarted (result : Except ClientError Unit)
  | stopped

/-- A transport with all that was asked of it, first to last. -/
structure Ledger (τ : Type) where
  inner : τ
  calls : List Call

namespace Ledger

variable {τ : Type}

/-- A ledger of a transport of which nothing was asked yet. -/
def fresh (inner : τ) : Ledger τ :=
  { inner, calls := [] }

/-- Hand a message over, and note what comes of it. -/
def send [Transport τ] (ledger : Ledger τ) (message : Json) : Ledger τ × Except ClientError Unit :=
  let (inner, result) := Transport.send ledger.inner message
  ({ inner, calls := ledger.calls ++ [.sent message result] }, result)

/-- Take the next body, and note what comes of it. -/
def receive [Transport τ] (ledger : Ledger τ) : Ledger τ × Except ClientError (Option Bytes) :=
  let (inner, result) := Transport.receive ledger.inner
  ({ inner, calls := ledger.calls ++ [.received result] }, result)

/-- Start again, and note what comes of it. -/
def restart [SupervisedTransport τ] (ledger : Ledger τ) : Ledger τ × Except ClientError Unit :=
  let (inner, result) := SupervisedTransport.restart ledger.inner
  ({ inner, calls := ledger.calls ++ [.restarted result] }, result)

/-- Stop, and note it. -/
def stop [SupervisedTransport τ] (ledger : Ledger τ) : Ledger τ :=
  { inner := SupervisedTransport.stop ledger.inner, calls := ledger.calls ++ [.stopped] }

instance [SupervisedTransport τ] : SupervisedTransport (Ledger τ) where
  send := send
  receive := receive
  isRunning ledger := Transport.isRunning ledger.inner
  restart := restart
  stop := stop
  attemptsLeft ledger := SupervisedTransport.attemptsLeft ledger.inner
  backlog ledger := SupervisedTransport.backlog ledger.inner

variable [SupervisedTransport τ]

theorem calls_of_sent {ledger after : Ledger τ} {message : Json} {result : Except ClientError Unit}
    (sent : Transport.send ledger message = (after, result))
    : after.calls = ledger.calls ++ [.sent message result] := by
  obtain ⟨rfl, rfl⟩ := Prod.mk.inj sent
  rfl

theorem calls_of_received {ledger after : Ledger τ} {result : Except ClientError (Option Bytes)}
    (received : Transport.receive ledger = (after, result))
    : after.calls = ledger.calls ++ [.received result] := by
  obtain ⟨rfl, rfl⟩ := Prod.mk.inj received
  rfl

end Ledger

-----------------------------------------------------------------------------------------
-- Listening
-----------------------------------------------------------------------------------------

/-- The reply that is owed to what was received, if that is a request. -/
def replyTo? : Except ClientError (Option Bytes) → Option Json
  | .ok (some body) =>
      match Message.Incoming.ofBytes? body with
      | some (.request id method params) => some (Message.reply id method params)
      | _ => none
  | _ => none

/-- Nothing but messages was asked of a transport, and nothing was sent over it but replies: each
request that was received has its reply before anything else is received.
-/
inductive IsListening : List Call → Prop
  | nothing : IsListening []
  | heard {result later} (unasked : replyTo? result = none) (rest : IsListening later)
    : IsListening (.received result :: later)
  | replied {received reply result later} (asked : replyTo? received = some reply)
    (rest : IsListening later)
    : IsListening (.received received :: .sent reply result :: later)

/-- Who listens for some time, and then for some more, listens all the time. -/
theorem IsListening.append {first second : List Call} (one : IsListening first)
    (two : IsListening second)
    : IsListening (first ++ second) := by
  induction one with
  | nothing => exact two
  | heard unasked _ ih => exact .heard unasked ih
  | replied asked _ ih => exact .replied asked ih

end LanguageClient
