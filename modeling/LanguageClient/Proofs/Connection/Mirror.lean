import LanguageClient.Proofs.Connection.Traffic
import LanguageClient.Proofs.Transport.Mailbox

/-! Conversations over transports that are seen in some way. What is done over a transport comes to
the same when it is done over what is seen of the transport.
-/

namespace LanguageClient

namespace Connection

variable {τ σ κ : Type}

/-- The same conversation over what is seen of its transport. -/
def mapTransport (view : τ → σ) (connection : Connection τ κ) : Connection σ κ :=
  { connection with transport := view connection.transport }

variable [Transport τ] [Transport σ] {keeps : τ → Prop} {view : τ → σ}

theorem write_mirrored (mirrors : Transport.Mirrors keeps view) (connection : Connection τ κ)
    (kept : keeps connection.transport) (message : Json)
    : (connection.mapTransport view).write message
      = ((connection.write message).1.mapTransport view, (connection.write message).2) := by
  obtain ⟨_, same⟩ := mirrors.send connection.transport message kept
  simp only [write, mapTransport, same]

theorem notify_mirrored (mirrors : Transport.Mirrors keeps view) (connection : Connection τ κ)
    (kept : keeps connection.transport) (method : String) (params : Option Json)
    : (connection.mapTransport view).notify method params
      = ((connection.notify method params).1.mapTransport view,
          (connection.notify method params).2) := by
  by_cases ended : connection.phase = .exited
  · simp only [notify, mapTransport, ended, if_true]
  · have written := write_mirrored mirrors connection kept (Message.notification method params)
    simpa only [notify, mapTransport, ended, if_false] using written

theorem finishOpening_mirrored (mirrors : Transport.Mirrors keeps view)
    (connection : Connection τ κ) (kept : keeps connection.transport)
    (result : Except ClientError Json)
    : (connection.mapTransport view).finishOpening result
      = (connection.finishOpening result).mapTransport view := by
  by_cases opening : connection.phase = .initializing
  · cases result with
    | error error => simp only [finishOpening, mapTransport, opening, if_true]
    | ok value =>
        obtain ⟨_, same⟩ := mirrors.send connection.transport
          (Message.notification "initialized" (some (.object []))) kept
        simp only [finishOpening, mapTransport, opening, if_true, write, same]
  · simp only [finishOpening, mapTransport, opening, if_false]

theorem handleResponse_mirrored (mirrors : Transport.Mirrors keeps view)
    (connection : Connection τ κ) (kept : keeps connection.transport) (given : Option Json)
    (outcome : Message.Outcome)
    : (connection.mapTransport view).handleResponse given outcome
      = ((connection.handleResponse given outcome).1.mapTransport view,
          (connection.handleResponse given outcome).2) := by
  cases named : given.bind Json.u32? with
  | none => simp only [handleResponse, named]
  | some id =>
      cases found : connection.pending.lookup id with
      | none => simp only [handleResponse, named, mapTransport, found]
      | some ticket =>
          by_cases opening : connection.openingId = some id
          · let rest := { connection with pending := connection.pending.filter (·.1 ≠ id) }
            have finished
                : (rest.mapTransport view).finishOpening (resultOf outcome)
                  = (rest.finishOpening (resultOf outcome)).mapTransport view :=
              finishOpening_mirrored mirrors rest kept _
            have plain
                : connection.handleResponse given outcome
                  = ((rest.finishOpening (resultOf outcome)).answer ticket (resultOf outcome),
                      .ok ()) := by
              simp only [handleResponse, named, found, opening, if_true, rest]
            have seen
                : (connection.mapTransport view).handleResponse given outcome
                  = (((rest.mapTransport view).finishOpening (resultOf outcome)).answer ticket
                        (resultOf outcome),
                      .ok ()) := by
              simp only [handleResponse, named, mapTransport, found, opening, if_true, rest]
            rw [seen, plain, finished]
            rfl
          · simp only [handleResponse, named, mapTransport, found, opening, if_false, answer]

theorem handle_mirrored (mirrors : Transport.Mirrors keeps view) (connection : Connection τ κ)
    (kept : keeps connection.transport) (incoming : Message.Incoming)
    : (connection.mapTransport view).handle incoming
      = ((connection.handle incoming).1.mapTransport view, (connection.handle incoming).2) := by
  cases incoming with
  | response id outcome => exact handleResponse_mirrored mirrors connection kept id outcome
  | request id method params => exact write_mirrored mirrors connection kept _
  | notification method params =>
      simp only [handle, handleNotification_eq, mapTransport]

/-- Handling the next message of a server comes to the same over what is seen of its transport. -/
theorem poll_mirrored (mirrors : Transport.Mirrors keeps view) (connection : Connection τ κ)
    (kept : keeps connection.transport)
    : (connection.mapTransport view).poll
      = (connection.poll.1.mapTransport view, connection.poll.2) := by
  obtain ⟨still, same⟩ := mirrors.receive connection.transport kept
  rcases received : Transport.receive connection.transport with ⟨transport, error | _ | body⟩
  · rw [received] at same
    cases fatal : error.isFatal <;>
      simp only [poll, mapTransport, same, received, fatal, failPending] <;> rfl
  · rw [received] at same
    simp only [poll, mapTransport, same, received]
  · rw [received] at same still
    cases read : Message.Incoming.ofBytes? body with
    | none => simp only [poll, mapTransport, same, received, read]
    | some incoming =>
        let heard : Connection τ κ := { connection with transport }
        have handled
            : (heard.mapTransport view).handle incoming
              = ((heard.handle incoming).1.mapTransport view, (heard.handle incoming).2) :=
          handle_mirrored mirrors heard still incoming
        simp only [mapTransport, heard] at handled
        simp only [poll, mapTransport, same, received, read, handled]

/-- Taking a step on documents comes to the same over what is seen of the transport. -/
theorem sync_mirrored (mirrors : Transport.Mirrors keeps view) (connection : Connection τ κ)
    (kept : keeps connection.transport) (documents : Documents)
    (step : Documents → Except ClientError (Documents × DocumentNotice))
    : (connection.mapTransport view).sync documents step
      = ((connection.sync documents step).1.mapTransport view,
          (connection.sync documents step).2) := by
  have ready : (connection.mapTransport view).isReady = connection.isReady := rfl
  unfold sync
  rw [ready]
  split
  · rcases step documents with error | ⟨stepped, notice⟩
    · rfl
    · dsimp only
      rw [notify_mirrored mirrors connection kept]
      rcases connection.notify notice.method (some notice.params) with ⟨after, error | _⟩ <;> rfl
  · rfl

-----------------------------------------------------------------------------------------
-- Conversations over mailboxes
-----------------------------------------------------------------------------------------

variable {connection : Connection Mailbox κ}

/-- Handling a message takes one item of those that wait. -/
theorem poll_inbound (connection : Connection Mailbox κ)
    : connection.poll.1.transport.inbound = connection.transport.inbound.tail := by
  obtain ⟨after, result, polled, cases⟩ := connection.poll_cases
  rw [polled]
  cases cases with
  | idle received | lost received | spoiled received | illegible received | unmatched received
  | answered received => exact (Mailbox.inbound_of_received received).1
  | noticed received =>
      rw [handleNotification_transport]
      exact (Mailbox.inbound_of_received received).1
  | replied received _ sent =>
      exact (Mailbox.inbound_of_sent sent).trans (Mailbox.inbound_of_received received).1
  | openingAnswered received _ _ _ finished =>
      cases finished with
      | opened _ sent =>
          exact (Mailbox.inbound_of_sent sent).trans (Mailbox.inbound_of_received received).1
      | failed | late => exact (Mailbox.inbound_of_received received).1

/-- Where nothing waits, nothing happens. -/
theorem poll_of_empty (nothing : connection.transport.inbound = [])
    : connection.poll = (connection, .ok false) := by
  have idle : Transport.receive connection.transport = (connection.transport, .ok none) := by
    rw [Mailbox.receive_eq, Mailbox.receive, nothing]
  simp only [poll, idle]

/-- Where something waits, it is handled, and does not tell of the loss of the transport. -/
theorem poll_of_waiting {item : Except ClientError Bytes} {rest : List (Except ClientError Bytes)}
    (waiting : connection.transport.inbound = item :: rest) (calm : connection.transport.IsCalm)
    : connection.poll.2 = .ok true
      ∨ ∃ error, connection.poll.2 = .error error ∧ error.isFatal = false := by
  obtain ⟨after, result, polled, cases⟩ := connection.poll_cases
  rw [polled]
  have first {transport : Mailbox} {result : Except ClientError (Option Bytes)}
      (received : Transport.receive connection.transport = (transport, result))
      : result = item.map some := by
    rw [(Mailbox.inbound_of_received received).2, waiting]
    rfl
  cases cases with
  | idle received => cases item <;> exact nomatch first received
  | lost received fatal =>
      cases item with
      | ok body => exact nomatch first received
      | error error =>
          have same : _ = error := Except.error.inj (first received)
          have bearable := calm error (waiting ▸ List.mem_cons_self)
          rw [same] at fatal
          exact nomatch bearable.symm.trans fatal
  | spoiled _ bearable | unmatched _ _ _ bearable => exact .inr ⟨_, rfl, bearable⟩
  | illegible => exact .inr ⟨_, rfl, rfl⟩
  | noticed | answered | openingAnswered => exact .inl rfl
  | replied _ _ sent =>
      obtain ⟨_, rfl⟩ := Prod.mk.inj sent
      exact .inl rfl

/-- A step on documents takes nothing of what waits. -/
theorem sync_inbound (connection : Connection Mailbox κ) (documents : Documents)
    (step : Documents → Except ClientError (Documents × DocumentNotice))
    : (connection.sync documents step).1.transport.inbound = connection.transport.inbound := by
  obtain ⟨after, synced, result, written, cases⟩ := connection.sync_cases documents step
  rw [written]
  cases cases with
  | unready | illegal => rfl
  | unsent _ _ sent | sent _ _ sent => exact Mailbox.inbound_of_sent sent

end Connection

end LanguageClient
