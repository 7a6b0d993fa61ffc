import LanguageClient.Proofs.Message.Response

/-! What each operation of a connection can do, case by case, refusals and failed writes included.
All that is shown of connections rests on these case distinctions.
-/

namespace LanguageClient.Connection

variable {τ κ : Type} [Transport τ]

-----------------------------------------------------------------------------------------
-- What the parts of the operations leave as it is
-----------------------------------------------------------------------------------------

omit [Transport τ]

/-- A notification is noted where somebody listens, and nothing else comes of it. -/
theorem handleNotification_eq (connection : Connection τ κ) (method : String) (params : Json)
    : let noted := connection.listener.map fun listener => Notice.mk listener method params
      connection.handleNotification method params
        = { connection with notices := connection.notices ++ noted.toList } := by
  intro noted
  unfold handleNotification
  split
  · next listener listens =>
      have told : noted.toList = [⟨listener, method, params⟩] := by
        simp only [noted, listens]
        rfl
      rw [told]
  · next silent =>
      have nothing : noted.toList = [] := by
        simp only [noted, silent]
        rfl
      rw [nothing, List.append_nil]

@[simp]
theorem handleNotification_transport (connection : Connection τ κ) (method : String) (params : Json)
    : (connection.handleNotification method params).transport = connection.transport := by
  rw [handleNotification_eq]

@[simp]
theorem handleNotification_phase (connection : Connection τ κ) (method : String) (params : Json)
    : (connection.handleNotification method params).phase = connection.phase := by
  rw [handleNotification_eq]

@[simp]
theorem handleNotification_nextId (connection : Connection τ κ) (method : String) (params : Json)
    : (connection.handleNotification method params).nextId = connection.nextId := by
  rw [handleNotification_eq]

@[simp]
theorem handleNotification_pending (connection : Connection τ κ) (method : String) (params : Json)
    : (connection.handleNotification method params).pending = connection.pending := by
  rw [handleNotification_eq]

@[simp]
theorem handleNotification_openingId (connection : Connection τ κ) (method : String) (params : Json)
    : (connection.handleNotification method params).openingId = connection.openingId := by
  rw [handleNotification_eq]

@[simp]
theorem handleNotification_capabilities (connection : Connection τ κ) (method : String)
    (params : Json)
    : (connection.handleNotification method params).capabilities = connection.capabilities := by
  rw [handleNotification_eq]

@[simp]
theorem handleNotification_answers (connection : Connection τ κ) (method : String) (params : Json)
    : (connection.handleNotification method params).answers = connection.answers := by
  rw [handleNotification_eq]

variable [Transport τ]

-----------------------------------------------------------------------------------------
-- Sending
-----------------------------------------------------------------------------------------

/-- The ways in which a request can end: it is refused after the end of the session, it cannot be
written, or it is written and waits for its response. An id is used up in both latter cases.
-/
inductive Requested (connection : Connection τ κ) (method : String) (params : Option Json)
    (ticket : κ)
    : Connection τ κ → Except ClientError Nat → Prop
  | refused (ended : connection.phase = .exited)
    : Requested connection method params ticket connection
        (.error (.invalidState .exited "send"))
  | unsent {transport error} (live : connection.phase ≠ .exited)
    (sent
      : Transport.send connection.transport (Message.request connection.freshId method params)
        = (transport, .error error))
    : Requested connection method params ticket
        { connection with transport, nextId := (connection.freshId + 1) % Text.word32 }
        (.error error)
  | sent {transport} (live : connection.phase ≠ .exited)
    (sent
      : Transport.send connection.transport (Message.request connection.freshId method params)
        = (transport, .ok ()))
    : Requested connection method params ticket
        { connection with
          transport
          nextId := (connection.freshId + 1) % Text.word32
          pending := connection.pending ++ [(connection.freshId, ticket)] }
        (.ok connection.freshId)

theorem request_cases (connection : Connection τ κ) (method : String) (params : Option Json)
    (ticket : κ)
    : ∃ after result,
        connection.request method params ticket = (after, result)
        ∧ Requested connection method params ticket after result := by
  by_cases ended : connection.phase = .exited
  · exact ⟨_, _, by simp only [request, if_pos ended], .refused ended⟩
  · rcases sent : Transport.send connection.transport
      (Message.request connection.freshId method params) with ⟨transport, error | _⟩
    · exact ⟨_, _, by simp only [request, if_neg ended, write, sent], .unsent ended sent⟩
    · exact ⟨_, _, by simp only [request, if_neg ended, write, sent], .sent ended sent⟩

/-- Opening a session: only a request that was written counts. -/
inductive SessionOpened (connection : Connection τ κ) (params : Json) (ticket : κ)
    : Connection τ κ → Except ClientError Nat → Prop
  | refused {error} (begun : connection.phase ≠ .uninitialized)
    : SessionOpened connection params ticket connection (.error error)
  | unsent {after error} (closed : connection.phase = .uninitialized)
    (requested
      : Requested connection "initialize" (some params) ticket after (.error error))
    : SessionOpened connection params ticket after (.error error)
  | sent {after id} (closed : connection.phase = .uninitialized)
    (requested : Requested connection "initialize" (some params) ticket after (.ok id))
    : SessionOpened connection params ticket
        { after with openingId := some id, phase := .initializing } (.ok id)

theorem openSession_cases (connection : Connection τ κ) (params : Json) (ticket : κ)
    : ∃ after result,
        connection.openSession params ticket = (after, result)
        ∧ SessionOpened connection params ticket after result := by
  cases phase : connection.phase with
  | uninitialized =>
      obtain ⟨after, error | id, written, requested⟩ :=
        connection.request_cases "initialize" (some params) ticket
      · exact ⟨_, _, by simp only [openSession, phase, written], .unsent phase requested⟩
      · exact ⟨_, _, by simp only [openSession, phase, written], .sent phase requested⟩
  | initializing | initialized | shuttingDown | exited =>
      exact ⟨_, _, by simp only [openSession, phase]; rfl, .refused (by simp [phase])⟩

/-- Closing a session: only a request that was written counts. -/
inductive SessionClosed (connection : Connection τ κ) (ticket : κ)
    : Connection τ κ → Except ClientError Nat → Prop
  | refused {error} (unready : connection.phase ≠ .initialized)
    : SessionClosed connection ticket connection (.error error)
  | unsent {after error} (ready : connection.phase = .initialized)
    (requested : Requested connection "shutdown" none ticket after (.error error))
    : SessionClosed connection ticket after (.error error)
  | sent {after id} (ready : connection.phase = .initialized)
    (requested : Requested connection "shutdown" none ticket after (.ok id))
    : SessionClosed connection ticket { after with phase := .shuttingDown } (.ok id)

theorem shutdown_cases (connection : Connection τ κ) (ticket : κ)
    : ∃ after result,
        connection.shutdown ticket = (after, result)
        ∧ SessionClosed connection ticket after result := by
  cases phase : connection.phase with
  | initialized =>
      obtain ⟨after, error | id, written, requested⟩ :=
        connection.request_cases "shutdown" none ticket
      · exact ⟨_, _, by simp only [shutdown, phase, written], .unsent phase requested⟩
      · exact ⟨_, _, by simp only [shutdown, phase, written], .sent phase requested⟩
  | uninitialized | initializing | shuttingDown | exited =>
      exact ⟨_, _, by simp only [shutdown, phase]; rfl, .refused (by simp [phase])⟩

/-- A notification changes nothing but the transport, and does nothing after the end of the
session.
-/
inductive Notified (connection : Connection τ κ) (method : String) (params : Option Json)
    : Connection τ κ → Except ClientError Unit → Prop
  | refused (ended : connection.phase = .exited)
    : Notified connection method params connection (.error (.invalidState .exited "send"))
  | written {transport result} (live : connection.phase ≠ .exited)
    (sent
      : Transport.send connection.transport (Message.notification method params)
        = (transport, result))
    : Notified connection method params { connection with transport } result

theorem notify_cases (connection : Connection τ κ) (method : String) (params : Option Json)
    : ∃ after result,
        connection.notify method params = (after, result)
        ∧ Notified connection method params after result := by
  by_cases ended : connection.phase = .exited
  · exact ⟨_, _, by simp only [notify, if_pos ended], .refused ended⟩
  · rcases sent : Transport.send connection.transport (Message.notification method params) with
      ⟨transport, result⟩
    exact ⟨_, _, by simp only [notify, if_neg ended, write, sent], .written ended sent⟩

/-- Ending the session counts also where the server cannot be told. -/
inductive Ended (connection : Connection τ κ)
    : Connection τ κ → Except ClientError Unit → Prop
  | refused (open' : connection.phase ≠ .shuttingDown)
    : Ended connection connection (.error (.invalidState connection.phase "exit"))
  | ended {transport result} (closing : connection.phase = .shuttingDown)
    (sent
      : Transport.send connection.transport (Message.notification "exit" none)
        = (transport, result))
    : Ended connection { connection with transport, phase := .exited }.failPending result

theorem exit_cases (connection : Connection τ κ)
    : ∃ after result, connection.exit = (after, result) ∧ Ended connection after result := by
  cases phase : connection.phase with
  | shuttingDown =>
      rcases sent : Transport.send connection.transport (Message.notification "exit" none) with
        ⟨transport, result⟩
      exact ⟨_, _, by simp only [exit, phase, write, sent], .ended phase sent⟩
  | uninitialized | initializing | initialized | exited =>
      exact ⟨_, _, by simp only [exit, phase], .refused (by simp [phase])⟩

-----------------------------------------------------------------------------------------
-- Receiving
-----------------------------------------------------------------------------------------

/-- The response to the request that opens the session: the session is open, or closed as before.
The last case is a response that comes when no session is being opened.
-/
inductive OpeningFinished (connection : Connection τ κ)
    : Except ClientError Json → Connection τ κ → Prop
  | opened {value transport result} (opening : connection.phase = .initializing)
    (sent
      : Transport.send connection.transport
          (Message.notification "initialized" (some (.object [])))
        = (transport, result))
    : OpeningFinished connection (.ok value)
        { connection with
          transport
          openingId := none
          capabilities := some ((value.get? "capabilities").getD .null)
          phase := .initialized }
  | failed {error} (opening : connection.phase = .initializing)
    : OpeningFinished connection (.error error)
        { connection with openingId := none, phase := .uninitialized }
  | late {result} (other : connection.phase ≠ .initializing)
    : OpeningFinished connection result { connection with openingId := none }

/-- The response to the request that opens the session touches neither the requests that wait nor
their answers.
-/
theorem OpeningFinished.frame {connection after : Connection τ κ} {result : Except ClientError Json}
    (finished : OpeningFinished connection result after)
    : after.nextId = connection.nextId
      ∧ after.pending = connection.pending
      ∧ after.answers = connection.answers
      ∧ after.openingId = none := by
  cases finished <;> exact ⟨rfl, rfl, rfl, rfl⟩

theorem finishOpening_cases (connection : Connection τ κ) (result : Except ClientError Json)
    : OpeningFinished connection result (connection.finishOpening result) := by
  by_cases opening : connection.phase = .initializing
  · cases result with
    | ok value => simpa only [finishOpening, if_pos opening, write] using .opened opening rfl
    | error error => simpa only [finishOpening, if_pos opening] using .failed opening
  · simpa only [finishOpening, if_neg opening] using .late opening

/-- What handling the next message can do. An error that is not fatal leaves all but the transport
as it was; a fatal one fails all pending requests, unless it comes from a reply that cannot be
written.
-/
inductive Polled (connection : Connection τ κ) : Connection τ κ → Except ClientError Bool → Prop
  | idle {transport}
    (received : Transport.receive connection.transport = (transport, .ok none))
    : Polled connection { connection with transport } (.ok false)
  | lost {transport error}
    (received : Transport.receive connection.transport = (transport, .error error))
    (fatal : error.isFatal = true)
    : Polled connection { connection with transport }.failPending (.error error)
  | spoiled {transport error}
    (received : Transport.receive connection.transport = (transport, .error error))
    (bearable : error.isFatal = false)
    : Polled connection { connection with transport } (.error error)
  | illegible {transport body}
    (received : Transport.receive connection.transport = (transport, .ok (some body)))
    (read : Message.Incoming.ofBytes? body = none)
    : Polled connection { connection with transport } (.error .json)
  | noticed {transport body method params}
    (received : Transport.receive connection.transport = (transport, .ok (some body)))
    (read : Message.Incoming.ofBytes? body = some (.notification method params))
    : Polled connection ({ connection with transport }.handleNotification method params) (.ok true)
  | replied {received' body id method params transport result}
    (received : Transport.receive connection.transport = (received', .ok (some body)))
    (read : Message.Incoming.ofBytes? body = some (.request id method params))
    (sent : Transport.send received' (Message.reply id method params) = (transport, result))
    : Polled connection { connection with transport } (result.map fun () => true)
  | unmatched {transport body given outcome error}
    (received : Transport.receive connection.transport = (transport, .ok (some body)))
    (read : Message.Incoming.ofBytes? body = some (.response given outcome))
    (nobody : ∀ id, given.bind Json.u32? = some id → connection.pending.lookup id = none)
    (bearable : error.isFatal = false)
    : Polled connection { connection with transport } (.error error)
  | answered {transport body id result ticket}
    (received : Transport.receive connection.transport = (transport, .ok (some body)))
    (read : Message.responseIn? body = some (id, result))
    (found : connection.pending.lookup id = some ticket)
    (other : connection.openingId ≠ some id)
    : Polled connection
        ({ connection with
            transport
            pending := connection.pending.filter (·.1 ≠ id) }.answer ticket result)
        (.ok true)
  | openingAnswered {transport body id result ticket after}
    (received : Transport.receive connection.transport = (transport, .ok (some body)))
    (read : Message.responseIn? body = some (id, result))
    (found : connection.pending.lookup id = some ticket)
    (opening : connection.openingId = some id)
    (finished
      : OpeningFinished
          { connection with transport, pending := connection.pending.filter (·.1 ≠ id) }
          result after)
    : Polled connection (after.answer ticket result) (.ok true)

theorem poll_cases (connection : Connection τ κ)
    : ∃ after result, connection.poll = (after, result) ∧ Polled connection after result := by
  rcases received : Transport.receive connection.transport with ⟨transport, error | _ | body⟩
  · by_cases fatal : error.isFatal = true
    · exact ⟨_, _, by simp only [poll, received, if_pos fatal], .lost received fatal⟩
    · exact ⟨_, _, by simp only [poll, received, if_neg fatal],
        .spoiled received (by simpa using fatal)⟩
  · exact ⟨_, _, by simp only [poll, received], .idle received⟩
  · cases read : Message.Incoming.ofBytes? body with
    | none => exact ⟨_, _, by simp only [poll, received, read], .illegible received read⟩
    | some incoming =>
        cases incoming with
        | notification method params =>
            exact ⟨_, _, by simp only [poll, received, read, handle]; rfl, .noticed received read⟩
        | request id method params =>
            rcases sent : Transport.send transport (Message.reply id method params) with
              ⟨replied, result⟩
            exact ⟨_, _, by simp only [poll, received, read, handle, write, sent],
              .replied received read sent⟩
        | response given outcome =>
            cases named : given.bind Json.u32? with
            | none =>
                exact ⟨_, _, by simp only [poll, received, read, handle, handleResponse, named]; rfl,
                  .unmatched received read (by simp [named]) rfl⟩
            | some id =>
                have answers : Message.responseIn? body = some (id, resultOf outcome) :=
                  Message.responseIn?_eq_some_iff.mpr ⟨given, outcome, read, named, rfl⟩
                cases found : connection.pending.lookup id with
                | none =>
                    refine ⟨_, _,
                      by simp only [poll, received, read, handle, handleResponse, named, found]; rfl,
                      .unmatched received read ?_ rfl⟩
                    intro other same
                    rwa [← Option.some.inj (named.symm.trans same)]
                | some ticket =>
                    by_cases opening : connection.openingId = some id
                    · exact ⟨_, _,
                        by simp only [poll, received, read, handle, handleResponse, named, found,
                          if_pos opening]; rfl,
                        .openingAnswered received answers found opening
                          (finishOpening_cases _ _)⟩
                    · exact ⟨_, _,
                        by simp only [poll, received, read, handle, handleResponse, named, found,
                          if_neg opening]; rfl,
                        .answered received answers found opening⟩

end LanguageClient.Connection
