import LanguageClient.Proofs.Connection.Steps

/-! Runs of a connection: operations in any order, over a transport that answers as it likes and
that may change between the operations.
-/

namespace LanguageClient.Connection

variable {τ κ : Type} [Transport τ]

/-- What is done with a connection. The last case is what happens to the transport by itself. -/
inductive Operation (τ κ : Type) where
  | openSession (params : Json) (ticket : κ)
  | request (method : String) (params : Option Json) (ticket : κ)
  | notify (method : String) (params : Option Json)
  | shutdown (ticket : κ)
  | exit
  | reset
  | poll
  | listen (listener : String)
  | disturb (change : τ → τ)

/-- What an operation answers. -/
inductive Outcome where
  | requested (result : Except ClientError Nat)
  | written (result : Except ClientError Unit)
  | polled (result : Except ClientError Bool)
  | done

/-- The ticket that an operation hands over. -/
def Operation.ticket? : Operation τ κ → Option κ
  | .openSession _ ticket | .request _ _ ticket | .shutdown ticket => some ticket
  | _ => none

/-- Do something with a connection. -/
def perform (connection : Connection τ κ) : Operation τ κ → Connection τ κ × Outcome
  | .openSession params ticket =>
      ((connection.openSession params ticket).1,
        .requested (connection.openSession params ticket).2)
  | .request method params ticket =>
      ((connection.request method params ticket).1,
        .requested (connection.request method params ticket).2)
  | .notify method params =>
      ((connection.notify method params).1, .written (connection.notify method params).2)
  | .shutdown ticket =>
      ((connection.shutdown ticket).1, .requested (connection.shutdown ticket).2)
  | .exit => (connection.exit.1, .written connection.exit.2)
  | .reset => (connection.reset, .done)
  | .poll => (connection.poll.1, .polled connection.poll.2)
  | .listen listener => (connection.listen listener, .done)
  | .disturb change => ({ connection with transport := change connection.transport }, .done)

/-- The connection after an operation. -/
def after (connection : Connection τ κ) (operation : Operation τ κ) : Connection τ κ :=
  (connection.perform operation).1

/-- The connection after a run. -/
def run (connection : Connection τ κ) (operations : List (Operation τ κ)) : Connection τ κ :=
  operations.foldl after connection

@[simp]
theorem run_nil (connection : Connection τ κ) : connection.run [] = connection := rfl

@[simp]
theorem run_cons (connection : Connection τ κ) (operation : Operation τ κ)
    (rest : List (Operation τ κ))
    : connection.run (operation :: rest) = (connection.after operation).run rest := rfl

theorem run_append (connection : Connection τ κ) (first second : List (Operation τ κ))
    : connection.run (first ++ second) = (connection.run first).run second :=
  List.foldl_append

/-- What holds at first and is kept by every operation holds after every run. -/
theorem run_induction {P : Connection τ κ → Prop}
    (kept : ∀ connection operation, P connection → P (connection.after operation))
    {connection : Connection τ κ} (start : P connection) (operations : List (Operation τ κ))
    : P (connection.run operations) := by
  induction operations generalizing connection with
  | nil => exact start
  | cons operation rest ih => exact ih (kept connection operation start)

/-- The id and the ticket of the request that an operation adds to those that wait. -/
def accepted? (connection : Connection τ κ) (operation : Operation τ κ) : Option (Nat × κ) :=
  match operation.ticket?, (connection.perform operation).2 with
  | some ticket, .requested (.ok id) => some (id, ticket)
  | _, _ => none

/-- The response that the next message is, if it is one. -/
def heard? (connection : Connection τ κ) : Option (Nat × Except ClientError Json) :=
  match (Transport.receive connection.transport).2 with
  | .ok (some body) => Message.responseIn? body
  | _ => none

/-- Whether the transport takes a message. -/
def takes (connection : Connection τ κ) (message : Json) : Prop :=
  (Transport.send connection.transport message).2 = .ok ()

end LanguageClient.Connection
