import LanguageClient.Message.Incoming
import LanguageClient.Message.Outgoing
import LanguageClient.Transport

/-!
A conversation with a server. Requests are sent at once and answered later: each carries a ticket,
and when its response arrives, or can arrive no more, the ticket and what became of the request
are put among the answers. Notifications of the server go to the listener.
-/

namespace LanguageClient

/-- A notification of the server, and who it was told to. -/
structure Notice where
  listener : String
  method : String
  params : Json
deriving DecidableEq, Repr

/-- A conversation over a transport, whose requests carry tickets. -/
structure Connection (τ κ : Type) where
  transport : τ
  phase : Phase
  nextId : Nat
  /-- The requests without answer, with their ids. -/
  pending : List (Nat × κ)
  /-- The request that opens the session, while it has no answer. -/
  openingId : Option Nat
  /-- What the server says it can do. -/
  capabilities : Option Json
  listener : Option String
  /-- What became of requests, in the order in which it became known. -/
  answers : List (κ × Except ClientError Json)
  /-- The notifications that were listened to, in the order of their arrival. -/
  notices : List Notice

namespace Connection

variable {τ κ : Type} [Transport τ]

/-- A connection on which nothing has happened. -/
def fresh (transport : τ) : Connection τ κ :=
  { transport, phase := .uninitialized, nextId := 0, pending := [], openingId := none
    capabilities := none, listener := none, answers := [], notices := [] }

/-- Whether documents and requests may be sent. -/
def isReady (connection : Connection τ κ) : Bool :=
  connection.phase = .initialized

/-- A request with this id has no answer yet. -/
def isPending (connection : Connection τ κ) (id : Nat) : Bool :=
  connection.pending.any (·.1 = id)

/-- The ids that come up for the next request, in turn. -/
def candidates (connection : Connection τ κ) : List Nat :=
  (List.range (connection.pending.length + 1)).map fun i =>
    (connection.nextId + i) % Text.word32

/-- The id of the next request: the first in turn that is not pending. -/
def freshId (connection : Connection τ κ) : Nat :=
  (connection.candidates.find? fun id => ! connection.isPending id).getD connection.nextId

/-- Hand a message over to the transport. -/
def write (connection : Connection τ κ) (message : Json)
    : Connection τ κ × Except ClientError Unit :=
  let (transport, result) := Transport.send connection.transport message
  ({ connection with transport }, result)

/-- Answer a request. -/
def answer (connection : Connection τ κ) (ticket : κ) (result : Except ClientError Json)
    : Connection τ κ :=
  { connection with answers := connection.answers ++ [(ticket, result)] }

/-- Answer all pending requests with the loss of the process. -/
def failPending (connection : Connection τ κ) : Connection τ κ :=
  { connection with
    pending := []
    openingId := none
    answers := connection.answers ++
      connection.pending.map fun (_, ticket) => (ticket, .error .processNotRunning) }

/-- Send a request, and answer its id. After the end of the session nothing is sent. -/
def request (connection : Connection τ κ) (method : String) (params : Option Json) (ticket : κ)
    : Connection τ κ × Except ClientError Nat :=
  if connection.phase = .exited then (connection, .error (.invalidState .exited "send"))
  else
    let id := connection.freshId
    let connection := { connection with nextId := (id + 1) % Text.word32 }
    match connection.write (Message.request id method params) with
    | (connection, .ok ()) =>
        ({ connection with pending := connection.pending ++ [(id, ticket)] }, .ok id)
    | (connection, .error error) => (connection, .error error)

/-- Send a notification. After the end of the session nothing is sent. -/
def notify (connection : Connection τ κ) (method : String) (params : Option Json)
    : Connection τ κ × Except ClientError Unit :=
  if connection.phase = .exited then (connection, .error (.invalidState .exited "send"))
  else connection.write (Message.notification method params)

/-- Send the request that opens the session. -/
def openSession (connection : Connection τ κ) (params : Json) (ticket : κ)
    : Connection τ κ × Except ClientError Nat :=
  match connection.phase with
  | .uninitialized =>
      match connection.request "initialize" (some params) ticket with
      | (connection, .ok id) =>
          ({ connection with openingId := some id, phase := .initializing }, .ok id)
      | (connection, .error error) => (connection, .error error)
  | .initializing | .initialized => (connection, .error .alreadyInitialized)
  | .shuttingDown => (connection, .error (.invalidState .shuttingDown "initialize"))
  | .exited => (connection, .error (.invalidState .exited "initialize"))

/-- Send the request that closes the session. -/
def shutdown (connection : Connection τ κ) (ticket : κ)
    : Connection τ κ × Except ClientError Nat :=
  match connection.phase with
  | .initialized =>
      match connection.request "shutdown" none ticket with
      | (connection, .ok id) => ({ connection with phase := .shuttingDown }, .ok id)
      | (connection, .error error) => (connection, .error error)
  | .uninitialized | .initializing => (connection, .error .notInitialized)
  | .shuttingDown => (connection, .error (.invalidState .shuttingDown "shutdown"))
  | .exited => (connection, .error (.invalidState .exited "shutdown"))

/-- Tell the server to leave, and end the session, whether the server hears it or not. -/
def exit (connection : Connection τ κ) : Connection τ κ × Except ClientError Unit :=
  match connection.phase with
  | .shuttingDown =>
      let (connection, result) := connection.write (Message.notification "exit" none)
      ({ connection with phase := .exited }.failPending, result)
  | phase => (connection, .error (.invalidState phase "exit"))

/-- Forget the session, so that another can be opened. -/
def reset (connection : Connection τ κ) : Connection τ κ :=
  { connection.failPending with phase := .uninitialized, capabilities := none }

/-- Let another listener have the notifications from now on. -/
def listen (connection : Connection τ κ) (listener : String) : Connection τ κ :=
  { connection with listener := some listener }

/-- Take note of the answer to the request that opens the session. An answer that comes when no
session is being opened does not count; an error leaves the session closed. The server is told of
the session; whether it hears that does not matter here. -/
def finishOpening (connection : Connection τ κ) (result : Except ClientError Json)
    : Connection τ κ :=
  let connection := { connection with openingId := none }
  if connection.phase = .initializing then
    match result with
    | .ok value =>
        let capabilities := some ((value.get? "capabilities").getD .null)
        ({ connection with capabilities, phase := .initialized }.write
          (Message.notification "initialized" (some (.object [])))).1
    | .error _ => { connection with phase := .uninitialized }
  else connection

/-- What a response tells about its request. -/
def resultOf : Message.Outcome → Except ClientError Json
  | .result value => .ok value
  | .failed failure => .error (.serverError failure.code failure.text)
  | .malformed => .error .json

/-- Answer the request that a response is for. -/
def handleResponse (connection : Connection τ κ) (id : Option Json) (outcome : Message.Outcome)
    : Connection τ κ × Except ClientError Unit :=
  match id.bind Json.u32? with
  | none => (connection, .error .responseWithoutId)
  | some id =>
      match connection.pending.lookup id with
      | none => (connection, .error (.unknownRequestId id))
      | some ticket =>
          let result := resultOf outcome
          let connection := { connection with
            pending := connection.pending.filter (·.1 ≠ id) }
          let connection :=
            if connection.openingId = some id then connection.finishOpening result
            else connection
          (connection.answer ticket result, .ok ())

/-- Tell the listener of a notification. Where nobody listens it is dropped. -/
def handleNotification (connection : Connection τ κ) (method : String) (params : Json)
    : Connection τ κ :=
  match connection.listener with
  | some listener =>
      { connection with notices := connection.notices ++ [{ listener, method, params }] }
  | none => connection

/-- Handle a message of the server. Its requests are replied to at once. -/
def handle (connection : Connection τ κ) :
    Message.Incoming → Connection τ κ × Except ClientError Unit
  | .response id outcome => connection.handleResponse id outcome
  | .notification method params => (connection.handleNotification method params, .ok ())
  | .request id method params => connection.write (Message.reply id method params)

/-- Handle the next message that has arrived, and answer whether there was one. An error concerns
one message; only when the transport is lost, all pending requests fail. -/
def poll (connection : Connection τ κ) : Connection τ κ × Except ClientError Bool :=
  let (transport, received) := Transport.receive connection.transport
  let connection := { connection with transport }
  match received with
  | .ok none => (connection, .ok false)
  | .error error => (if error.isFatal then connection.failPending else connection, .error error)
  | .ok (some body) =>
      match Message.Incoming.ofBytes? body with
      | none => (connection, .error .json)
      | some incoming =>
          let (connection, result) := connection.handle incoming
          (connection, result.map fun () => true)

/-- End the conversation. -/
def close (connection : Connection τ κ) : Connection τ κ :=
  connection.failPending

end Connection

end LanguageClient
