import LanguageClient.Proofs.Connection.Operation
import LanguageClient.Proofs.Transport.Talk
import Mathlib.Tactic.Choose

/-! Every operation of a connection is a talk with its transport. What becomes of the connection
depends on the answers of the transport, and on nothing else about it.
-/

namespace LanguageClient.Connection

open Transport (Talk)

variable {τ κ α β : Type}

/-- The same connection over another transport. -/
def through (connection : Connection τ κ) (transport : τ) : Connection τ κ :=
  { connection with transport }

@[simp]
theorem through_transport (connection : Connection τ κ) (transport : τ)
    : (connection.through transport).transport = transport := rfl

@[simp]
theorem through_phase (connection : Connection τ κ) (transport : τ)
    : (connection.through transport).phase = connection.phase := rfl

@[simp]
theorem through_pending (connection : Connection τ κ) (transport : τ)
    : (connection.through transport).pending = connection.pending := rfl

@[simp]
theorem through_openingId (connection : Connection τ κ) (transport : τ)
    : (connection.through transport).openingId = connection.openingId := rfl

@[simp]
theorem through_listener (connection : Connection τ κ) (transport : τ)
    : (connection.through transport).listener = connection.listener := rfl

@[simp]
theorem through_freshId (connection : Connection τ κ) (transport : τ)
    : (connection.through transport).freshId = connection.freshId := rfl

variable [Transport τ]

/-- What is done over a transport is a talk with it, whose result is a connection over the transport
as the talk leaves it, and an answer.
-/
def IsTalk (act : τ → Connection τ κ × α) : Prop :=
  ∃ talk : Talk (Connection τ κ × α),
    ∀ transport,
      act transport
        = ((talk.hold transport).2.1.through (talk.hold transport).1, (talk.hold transport).2.2)

-----------------------------------------------------------------------------------------
-- Talks in parts
-----------------------------------------------------------------------------------------

namespace IsTalk

variable {act other : τ → Connection τ κ × α}

theorem of_eq (talks : IsTalk other) (same : ∀ transport, act transport = other transport)
    : IsTalk act := by
  rwa [funext same]

theorem done (connection : Connection τ κ) (result : α)
    : IsTalk fun transport => (connection.through transport, result) :=
  ⟨.done (connection, result), fun _ => rfl⟩

/-- What comes to the same over every transport says nothing to it. -/
theorem of_done (finished : Connection τ κ)
    (same : ∃ result, ∀ transport, act transport = (finished.through transport, result))
    : IsTalk act := by
  obtain ⟨result, same⟩ := same
  exact (done finished result).of_eq same

theorem send (message : Json) {next : Except ClientError Unit → τ → Connection τ κ × α}
    (rest : ∀ answer, IsTalk (next answer))
    : IsTalk fun transport =>
        next (Transport.send transport message).2 (Transport.send transport message).1 := by
  choose talk held using rest
  exact ⟨.send message talk, fun _ => held _ _⟩

theorem receive {next : Except ClientError (Option Bytes) → τ → Connection τ κ × α}
    (rest : ∀ answer, IsTalk (next answer))
    : IsTalk fun transport =>
        next (Transport.receive transport).2 (Transport.receive transport).1 := by
  choose talk held using rest
  exact ⟨.receive talk, fun _ => held _ _⟩

/-- What is done after a talk without regard to the transport belongs to the talk. -/
theorem finish (talks : IsTalk act) (last : Connection τ κ × α → Connection τ κ × β)
    (blind
      : ∀ connection transport result,
          last (connection.through transport, result)
            = ((last (connection, result)).1.through transport, (last (connection, result)).2))
    : IsTalk fun transport => last (act transport) := by
  obtain ⟨talk, held⟩ := talks
  refine ⟨talk.map last, fun transport => ?_⟩
  simp only [held, Talk.hold_map, blind]

/-- The same talk with something else made of its answer. -/
theorem answer (talks : IsTalk act) (change : α → β)
    : IsTalk fun transport => ((act transport).1, change (act transport).2) :=
  talks.finish (fun finished => (finished.1, change finished.2)) fun _ _ _ => rfl

end IsTalk

-----------------------------------------------------------------------------------------
-- Sending
-----------------------------------------------------------------------------------------

theorem isTalk_write (connection : Connection τ κ) (message : Json)
    : IsTalk fun transport => (connection.through transport).write message :=
  .send message (.done connection)

/-- The connection after the transport has answered to a request. -/
def requested (connection : Connection τ κ) (ticket : κ)
    : Except ClientError Unit → τ → Connection τ κ × Except ClientError Nat
  | .ok (), transport =>
      ({ connection with
          transport
          nextId := (connection.freshId + 1) % Text.word32
          pending := connection.pending ++ [(connection.freshId, ticket)] },
        .ok connection.freshId)
  | .error error, transport =>
      ({ connection with transport, nextId := (connection.freshId + 1) % Text.word32 },
        .error error)

theorem isTalk_requested (connection : Connection τ κ) (ticket : κ)
    (answer : Except ClientError Unit)
    : IsTalk (connection.requested ticket answer) := by
  cases answer with
  | ok =>
      exact .done
        { connection with
          nextId := (connection.freshId + 1) % Text.word32
          pending := connection.pending ++ [(connection.freshId, ticket)] }
        _
  | error error =>
      exact .done { connection with nextId := (connection.freshId + 1) % Text.word32 } _

theorem isTalk_request (connection : Connection τ κ) (method : String) (params : Option Json)
    (ticket : κ)
    : IsTalk fun transport => (connection.through transport).request method params ticket := by
  by_cases ended : connection.phase = .exited
  · exact (IsTalk.done connection _).of_eq fun transport => if_pos ended
  · refine (IsTalk.send (Message.request connection.freshId method params)
      (isTalk_requested connection ticket)).of_eq fun transport => ?_
    simp only [request, through_phase, ended, ↓reduceIte, write, through_freshId, through_transport]
    rcases Transport.send transport _ with ⟨after, error | _⟩ <;> rfl

theorem isTalk_notify (connection : Connection τ κ) (method : String) (params : Option Json)
    : IsTalk fun transport => (connection.through transport).notify method params := by
  by_cases ended : connection.phase = .exited
  · exact (IsTalk.done connection _).of_eq fun transport => if_pos ended
  · exact (isTalk_write connection _).of_eq fun transport => if_neg ended

/-- The connection after the request that opens a session, if it was sent. -/
def opened : Connection τ κ × Except ClientError Nat → Connection τ κ × Except ClientError Nat
  | (connection, .ok id) =>
      ({ connection with openingId := some id, phase := .initializing }, .ok id)
  | (connection, .error error) => (connection, .error error)

theorem isTalk_openSession (connection : Connection τ κ) (params : Json) (ticket : κ)
    : IsTalk fun transport => (connection.through transport).openSession params ticket := by
  cases phase : connection.phase with
  | uninitialized =>
      have asked := (isTalk_request connection "initialize" (some params) ticket).finish opened
        (by rintro other transport (error | id) <;> rfl)
      refine asked.of_eq fun transport => ?_
      simp only [openSession, through_phase, phase]
      rcases request _ _ _ _ with ⟨after, error | id⟩ <;> rfl
  | initializing | initialized | shuttingDown | exited =>
      exact .of_done connection
        ⟨_, fun transport => by simp only [openSession, through_phase, phase]; rfl⟩

/-- The connection after the request that closes the session, if it was sent. -/
def closed : Connection τ κ × Except ClientError Nat → Connection τ κ × Except ClientError Nat
  | (connection, .ok id) => ({ connection with phase := .shuttingDown }, .ok id)
  | (connection, .error error) => (connection, .error error)

theorem isTalk_shutdown (connection : Connection τ κ) (ticket : κ)
    : IsTalk fun transport => (connection.through transport).shutdown ticket := by
  cases phase : connection.phase with
  | initialized =>
      have asked := (isTalk_request connection "shutdown" none ticket).finish closed
        (by rintro other transport (error | id) <;> rfl)
      refine asked.of_eq fun transport => ?_
      simp only [shutdown, through_phase, phase]
      rcases request _ _ _ _ with ⟨after, error | id⟩ <;> rfl
  | uninitialized | initializing | shuttingDown | exited =>
      exact .of_done connection
        ⟨_, fun transport => by simp only [shutdown, through_phase, phase]; rfl⟩

theorem isTalk_exit (connection : Connection τ κ)
    : IsTalk fun transport => (connection.through transport).exit := by
  cases phase : connection.phase with
  | shuttingDown =>
      have told := (isTalk_write connection (Message.notification "exit" none)).finish
        (fun written => ({ written.1 with phase := .exited }.failPending, written.2))
        fun _ _ _ => rfl
      refine told.of_eq fun transport => ?_
      simp only [exit, through_phase, phase]
  | uninitialized | initializing | initialized | exited =>
      exact .of_done connection
        ⟨_, fun transport => by simp only [exit, through_phase, phase]; rfl⟩

-----------------------------------------------------------------------------------------
-- Receiving
-----------------------------------------------------------------------------------------

/-- Finishing the opening of a session may tell the server of it. -/
theorem isTalk_finishOpening (connection : Connection τ κ) (result : Except ClientError Json)
    : IsTalk fun transport => ((connection.through transport).finishOpening result, ()) := by
  by_cases opening : connection.phase = .initializing
  · cases result with
    | ok value =>
        have told := isTalk_write
          { connection with
            openingId := none
            capabilities := some ((value.get? "capabilities").getD .null)
            phase := .initialized }
          (Message.notification "initialized" (some (.object [])))
        refine (told.answer fun _ => ()).of_eq fun transport => ?_
        simp only [finishOpening, through_phase, opening, ↓reduceIte]
        rfl
    | error error =>
        refine (IsTalk.done { connection with openingId := none, phase := .uninitialized }
          ()).of_eq fun transport => ?_
        simp only [finishOpening, through_phase, opening, ↓reduceIte]
        rfl
  · refine (IsTalk.done { connection with openingId := none } ()).of_eq fun transport => ?_
    simp only [finishOpening, through_phase, opening, ↓reduceIte]
    rfl

theorem isTalk_handleResponse (connection : Connection τ κ) (id : Option Json)
    (outcome : Message.Outcome)
    : IsTalk fun transport => (connection.through transport).handleResponse id outcome := by
  cases named : id.bind Json.u32? with
  | none =>
      exact .of_done connection ⟨_, fun transport => by simp only [handleResponse, named]; rfl⟩
  | some id =>
      cases found : connection.pending.lookup id with
      | none =>
          exact .of_done connection
            ⟨_, fun transport => by simp only [handleResponse, named, through_pending, found]; rfl⟩
      | some ticket =>
          let rest := { connection with pending := connection.pending.filter (·.1 ≠ id) }
          by_cases opening : connection.openingId = some id
          · have told := (isTalk_finishOpening rest (resultOf outcome)).finish
              (fun finished =>
                (finished.1.answer ticket (resultOf outcome), (.ok () : Except ClientError Unit)))
              fun _ _ _ => rfl
            refine told.of_eq fun transport => ?_
            simp only [handleResponse, named, through_pending, found, through_openingId, opening,
              ↓reduceIte]
            rfl
          · refine (IsTalk.done (rest.answer ticket (resultOf outcome))
              (.ok ())).of_eq fun transport => ?_
            simp only [handleResponse, named, through_pending, found, through_openingId, opening,
              ↓reduceIte]
            rfl

theorem isTalk_handle (connection : Connection τ κ) (incoming : Message.Incoming)
    : IsTalk fun transport => (connection.through transport).handle incoming := by
  cases incoming with
  | response id outcome => exact isTalk_handleResponse connection id outcome
  | notification method params =>
      refine (IsTalk.done (connection.handleNotification method params)
        (.ok ())).of_eq fun transport => ?_
      simp only [handle, handleNotification, through_listener]
      cases connection.listener <;> rfl
  | request id method params => exact isTalk_write connection _

/-- The connection after something was received. -/
def received (connection : Connection τ κ)
    : Except ClientError (Option Bytes) → τ → Connection τ κ × Except ClientError Bool
  | .ok none, transport => (connection.through transport, .ok false)
  | .error error, transport =>
      (if error.isFatal then (connection.through transport).failPending
        else connection.through transport,
        .error error)
  | .ok (some body), transport =>
      match Message.Incoming.ofBytes? body with
      | none => (connection.through transport, .error .json)
      | some incoming =>
          (((connection.through transport).handle incoming).1,
            ((connection.through transport).handle incoming).2.map fun () => true)

theorem isTalk_received (connection : Connection τ κ)
    (answer : Except ClientError (Option Bytes))
    : IsTalk (connection.received answer) := by
  rcases answer with error | _ | body
  · cases fatal : error.isFatal with
    | true =>
        exact .of_done connection.failPending
          ⟨_, fun transport => by simp only [received, fatal]; rfl⟩
    | false =>
        exact .of_done connection ⟨_, fun transport => by simp only [received, fatal]; rfl⟩
  · exact .done connection _
  · cases read : Message.Incoming.ofBytes? body with
    | none =>
        exact .of_done connection ⟨_, fun transport => by simp only [received, read]; rfl⟩
    | some incoming =>
        have handled := (isTalk_handle connection incoming).answer (·.map fun () => true)
        exact handled.of_eq fun transport => by simp only [received, read]

theorem isTalk_poll (connection : Connection τ κ)
    : IsTalk fun transport => (connection.through transport).poll := by
  refine (IsTalk.receive (isTalk_received connection)).of_eq fun transport => ?_
  simp only [poll, through_transport]
  rcases Transport.receive transport with ⟨after, error | _ | body⟩
  · rfl
  · rfl
  · simp only [received]
    cases Message.Incoming.ofBytes? body <;> rfl

/-- All that is done with a connection is a talk with its transport, but for what happens to the
transport by itself.
-/
theorem isTalk_perform (connection : Connection τ κ) {operation : Operation τ κ}
    (own : ∀ change, operation ≠ .disturb change)
    : IsTalk fun transport => (connection.through transport).perform operation := by
  cases operation with
  | openSession params ticket =>
      exact (isTalk_openSession connection params ticket).answer Outcome.requested
  | request method params ticket =>
      exact (isTalk_request connection method params ticket).answer Outcome.requested
  | notify method params =>
      exact (isTalk_notify connection method params).answer Outcome.written
  | shutdown ticket => exact (isTalk_shutdown connection ticket).answer Outcome.requested
  | exit => exact (isTalk_exit connection).answer Outcome.written
  | reset => exact .done connection.reset Outcome.done
  | poll => exact (isTalk_poll connection).answer Outcome.polled
  | listen listener => exact .done (connection.listen listener) Outcome.done
  | disturb change => exact absurd rfl (own change)

end LanguageClient.Connection
