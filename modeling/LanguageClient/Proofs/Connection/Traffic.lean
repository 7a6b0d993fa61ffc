import LanguageClient.Proofs.Connection.Documents
import LanguageClient.Proofs.Document
import LanguageClient.Proofs.Message.Outgoing
import LanguageClient.Proofs.Transport.Used
import LanguageClient.Workspace.Operations

/-! What operations of a connection do with its transport: they send and receive over it, and only
steps on documents send notifications about documents.
-/

namespace LanguageClient

/-- The methods of questions about documents. -/
def questionMethods : List String :=
  ["textDocument/completion", "textDocument/hover", "textDocument/definition",
    "textDocument/references", "textDocument/formatting", "textDocument/codeAction",
    "textDocument/documentSymbol", "textDocument/signatureHelp", "textDocument/prepareRename",
    "textDocument/rename"]

/-- A question has one of these methods. -/
theorem Question.method_mem (question : Question) : question.method ∈ questionMethods := by
  cases question <;> simp [Question.method, questionMethods]

/-- A message is no notification about a document. -/
def Message.IsAside (message : Json) : Prop :=
  ∀ method ∈ documentMethods, Message.method? message ≠ some method

namespace Connection

variable {τ κ : Type} [Transport τ] {connection : Connection τ κ}

/-- A request sends itself alone. -/
theorem Requested.used {kind : Json → Prop} {after : Connection τ κ} {method : String}
    {params : Option Json} {ticket : κ} {result : Except ClientError Nat}
    (requested : Requested connection method params ticket after result)
    (fits : kind (Message.request connection.freshId method params))
    : Transport.Used kind connection.transport after.transport := by
  cases requested with
  | refused => exact .unused
  | unsent _ sent | sent _ sent => exact .sent .unused fits sent

theorem openSession_used (connection : Connection τ κ) (params : Json) (ticket : κ)
    : Transport.Used Message.IsAside connection.transport
        (connection.openSession params ticket).1.transport := by
  obtain ⟨after, result, written, opened⟩ := connection.openSession_cases params ticket
  rw [written]
  cases opened with
  | refused => exact .unused
  | unsent _ requested | sent _ requested =>
      exact requested.used (by simp [Message.IsAside, documentMethods])

theorem shutdown_used (connection : Connection τ κ) (ticket : κ)
    : Transport.Used Message.IsAside connection.transport
        (connection.shutdown ticket).1.transport := by
  obtain ⟨after, result, written, closed⟩ := connection.shutdown_cases ticket
  rw [written]
  cases closed with
  | refused => exact .unused
  | unsent _ requested | sent _ requested =>
      exact requested.used (by simp [Message.IsAside, documentMethods])

theorem ask_used (connection : Connection τ κ) (uri : String) (question : Question) (ticket : κ)
    : Transport.Used Message.IsAside connection.transport
        (connection.ask uri question ticket).1.transport := by
  obtain ⟨after, result, written, asked⟩ := connection.ask_cases uri question ticket
  rw [written]
  cases asked with
  | unready => exact .unused
  | requested _ requested =>
      refine requested.used fun method about same => ?_
      have apart : ∀ method ∈ documentMethods, method ∉ questionMethods := by decide
      obtain rfl : question.method = method := by simpa using same
      exact apart _ about question.method_mem

theorem exit_used (connection : Connection τ κ)
    : Transport.Used Message.IsAside connection.transport connection.exit.1.transport := by
  obtain ⟨after, result, written, ended⟩ := connection.exit_cases
  rw [written]
  cases ended with
  | refused => exact .unused
  | ended _ sent => exact .sent .unused (by simp [Message.IsAside, documentMethods]) sent

/-- Handling a message sends a reply at most, or tells the server that the session is open. -/
theorem poll_used (connection : Connection τ κ)
    : Transport.Used Message.IsAside connection.transport connection.poll.1.transport := by
  obtain ⟨after, result, written, polled⟩ := connection.poll_cases
  rw [written]
  cases polled with
  | idle received | lost received | spoiled received | illegible received | unmatched received
  | answered received => exact .received .unused received
  | noticed received =>
      rw [handleNotification_transport]
      exact .received .unused received
  | replied received _ sent =>
      exact .sent (.received .unused received) (by simp [Message.IsAside]) sent
  | openingAnswered received _ _ _ finished =>
      have heard : Transport.Used Message.IsAside connection.transport _ :=
        .received .unused received
      cases finished with
      | opened _ sent => exact .sent heard (by simp [Message.IsAside, documentMethods]) sent
      | failed | late => exact heard

theorem sync_used (connection : Connection τ κ) (documents : Documents)
    (step : Documents → Except ClientError (Documents × DocumentNotice))
    : Transport.Used (fun _ => True) connection.transport
        (connection.sync documents step).1.transport := by
  obtain ⟨after, synced, result, written, cases⟩ := connection.sync_cases documents step
  rw [written]
  cases cases with
  | unready | illegal => exact .unused
  | unsent _ _ sent | sent _ _ sent => exact .sent .unused trivial sent

end Connection

namespace Workspace

variable {τ κ : Type} [SupervisedTransport τ]

theorem openSession_used {host : Host τ} {connection after : Connection τ (Purpose κ)}
    {rootUri : Option String} {options : Option Json} {result : Except ClientError Nat}
    (opened : openSession host connection rootUri options = (after, result))
    : Transport.Used Message.IsAside connection.transport after.transport := by
  have used := connection.openSession_used (Message.opening host.processId rootUri options) .session
  rwa [← openSession, opened] at used

/-- Waiting for an answer handles messages. Induction on how often it is looked for. -/
theorem awaitAnswer_used (connection : Connection τ (Purpose κ)) (id count : Nat)
    : Transport.Used Message.IsAside connection.transport
        (awaitAnswer id connection count).transport := by
  induction count generalizing connection with
  | zero => exact .unused
  | succ count ih =>
      rw [awaitAnswer]
      have polled := connection.poll_used
      split
      · split
        · next same =>
            rw [same] at polled
            exact polled.trans (ih _)
        · next same =>
            rw [same] at polled
            split
            · exact polled
            · exact polled.trans (ih _)
      · exact .unused

theorem closeSession_used (connection : Connection τ (Purpose κ)) (patience : τ → Nat)
    : Transport.Used Message.IsAside connection.transport
        (closeSession patience connection).transport := by
  rw [closeSession]
  have closed := connection.shutdown_used .session
  split
  · split
    · next same =>
        rw [same] at closed
        exact (closed.trans (awaitAnswer_used _ _ _)).trans (Connection.exit_used _)
    · next same => rwa [same] at closed
  · exact .unused

end Workspace

end LanguageClient
