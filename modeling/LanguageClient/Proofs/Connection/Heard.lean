import LanguageClient.Proofs.Connection.Documents
import LanguageClient.Proofs.Transport.Recorder
import LanguageClient.Workspace.Operations

/-! What a listener is told: the notifications among the bodies that a connection receives, each once
and in their order. Sending receives nothing, and a new session forgets nothing that was told.
-/

namespace LanguageClient

/-- The body that was handed out. -/
def Traffic.body? : Traffic → Option Bytes
  | .sent _ => none
  | .received body => some body

namespace Recorder

variable {τ : Type}

/-- The bodies that were handed out in all sessions, first to last. -/
def received (recorder : Recorder τ) : List Bytes :=
  recorder.sessions.flatten.filterMap Traffic.body?

theorem received_of_same {recorder after : Recorder τ}
    (same : after.journal = recorder.journal ∧ after.earlier = recorder.earlier)
    : after.received = recorder.received := by
  rw [received, sessions, same.1, same.2]
  rfl

/-- What is noted in the journal of the session adds to what was handed out. -/
theorem received_of_noted {recorder after : Recorder τ} {traffic : Traffic}
    (noted
      : after.journal = recorder.journal ++ [traffic] ∧ after.earlier = recorder.earlier)
    : after.received = recorder.received ++ traffic.body?.toList := by
  simp only [received, sessions, noted.1, noted.2, List.flatten_append, List.filterMap_append,
    List.flatten_cons, List.flatten_nil, List.append_nil, List.append_assoc]
  cases traffic <;> rfl

variable [SupervisedTransport τ]

theorem received_send {recorder after : Recorder τ} {message : Json}
    {result : Except ClientError Unit} (sent : Transport.send recorder message = (after, result))
    : after.received = recorder.received := by
  rcases result with error | _
  · exact received_of_same (send_of_error sent)
  · rw [received_of_noted (send_of_ok sent)]
    exact List.append_nil _

theorem received_receive {recorder after : Recorder τ} {result : Except ClientError (Option Bytes)}
    (received : Transport.receive recorder = (after, result))
    : after.received = recorder.received ++ (result.toOption.join).toList := by
  rcases result with error | _ | body
  · rw [received_of_same (receive_of_none received (by simp))]
    exact (List.append_nil _).symm
  · rw [received_of_same (receive_of_none received (by simp))]
    exact (List.append_nil _).symm
  · exact received_of_noted (receive_of_some received)

end Recorder

/-- The notification in a body, as a listener is told of it. -/
def noticeIn? (listener : String) (body : Bytes) : Option Notice :=
  match Message.Incoming.ofBytes? body with
  | some (.notification method params) => some ⟨listener, method, params⟩
  | _ => none

namespace Connection

variable {τ κ : Type} [SupervisedTransport τ] {listener : String} {bodies : List Bytes}
variable {connection middle after : Connection (Recorder τ) κ}

/-- A connection has received some bodies, and its listener was told of the notifications in them. -/
structure Heard (listener : String) (bodies : List Bytes)
    (before after : Connection (Recorder τ) κ)
    : Prop where
  received : after.transport.received = before.transport.received ++ bodies
  notices : after.notices = before.notices ++ bodies.filterMap (noticeIn? listener)
  listener : after.listener = before.listener

namespace Heard

omit [SupervisedTransport τ]

/-- Nothing was received. -/
theorem of_silent (received : after.transport.received = connection.transport.received)
    (notices : after.notices = connection.notices)
    (same : after.listener = connection.listener)
    : Heard listener [] connection after :=
  ⟨received.trans (List.append_nil _).symm, notices.trans (List.append_nil _).symm, same⟩

theorem refl (listener : String) (connection : Connection (Recorder τ) κ)
    : Heard listener [] connection connection :=
  of_silent rfl rfl rfl

/-- One body was received. -/
theorem of_body {body : Bytes}
    (received : after.transport.received = connection.transport.received ++ [body])
    (notices : after.notices = connection.notices ++ (noticeIn? listener body).toList)
    (same : after.listener = connection.listener)
    : Heard listener [body] connection after := by
  refine ⟨received, notices.trans ?_, same⟩
  rw [List.filterMap_cons]
  cases noticeIn? listener body <;> rfl

/-- One body was received that is no notification. -/
theorem of_other {body : Bytes} (other : noticeIn? listener body = none)
    (received : after.transport.received = connection.transport.received ++ [body])
    (notices : after.notices = connection.notices)
    (same : after.listener = connection.listener)
    : Heard listener [body] connection after :=
  of_body received (by rw [other, notices]; exact (List.append_nil _).symm) same

theorem trans {more : List Bytes} (one : Heard listener bodies connection middle)
    (two : Heard listener more middle after)
    : Heard listener (bodies ++ more) connection after where
  received := by rw [two.received, one.received, List.append_assoc]
  notices := by rw [two.notices, one.notices, List.filterMap_append, List.append_assoc]
  listener := two.listener.trans one.listener

end Heard

-----------------------------------------------------------------------------------------
-- Sending
-----------------------------------------------------------------------------------------

theorem Requested.heard {method : String} {params : Option Json} {ticket : κ}
    {result : Except ClientError Nat}
    (requested : Requested connection method params ticket after result) (listener : String)
    : Heard listener [] connection after := by
  cases requested with
  | refused => exact .refl listener connection
  | unsent _ sent | sent _ sent => exact .of_silent (Recorder.received_send sent) rfl rfl

theorem openSession_heard (connection : Connection (Recorder τ) κ) (params : Json) (ticket : κ)
    (listener : String)
    : Heard listener [] connection (connection.openSession params ticket).1 := by
  obtain ⟨after, result, written, opened⟩ := connection.openSession_cases params ticket
  rw [written]
  cases opened with
  | refused => exact .refl listener connection
  | unsent _ requested => exact requested.heard listener
  | sent _ requested =>
      obtain ⟨received, notices, same⟩ := requested.heard listener
      exact ⟨received, notices, same⟩

theorem shutdown_heard (connection : Connection (Recorder τ) κ) (ticket : κ) (listener : String)
    : Heard listener [] connection (connection.shutdown ticket).1 := by
  obtain ⟨after, result, written, closed⟩ := connection.shutdown_cases ticket
  rw [written]
  cases closed with
  | refused => exact .refl listener connection
  | unsent _ requested => exact requested.heard listener
  | sent _ requested =>
      obtain ⟨received, notices, same⟩ := requested.heard listener
      exact ⟨received, notices, same⟩

theorem exit_heard (connection : Connection (Recorder τ) κ) (listener : String)
    : Heard listener [] connection connection.exit.1 := by
  obtain ⟨after, result, written, ended⟩ := connection.exit_cases
  rw [written]
  cases ended with
  | refused => exact .refl listener connection
  | ended _ sent => exact .of_silent (Recorder.received_send sent) rfl rfl

theorem ask_heard (connection : Connection (Recorder τ) κ) (uri : String) (question : Question)
    (ticket : κ) (listener : String)
    : Heard listener [] connection (connection.ask uri question ticket).1 := by
  obtain ⟨after, result, written, asked⟩ := connection.ask_cases uri question ticket
  rw [written]
  cases asked with
  | unready => exact .refl listener connection
  | requested _ requested => exact requested.heard listener

theorem sync_heard (connection : Connection (Recorder τ) κ) (documents : Documents)
    (step : Documents → Except ClientError (Documents × DocumentNotice)) (listener : String)
    : Heard listener [] connection (connection.sync documents step).1 := by
  obtain ⟨after, synced, result, written, cases⟩ := connection.sync_cases documents step
  rw [written]
  cases cases with
  | unready | illegal => exact .refl listener connection
  | unsent _ _ sent | sent _ _ sent => exact .of_silent (Recorder.received_send sent) rfl rfl

-----------------------------------------------------------------------------------------
-- Receiving
-----------------------------------------------------------------------------------------

/-- A response is no notification. -/
theorem noticeIn?_of_response {body : Bytes} {id : Nat} {result : Except ClientError Json}
    (read : Message.responseIn? body = some (id, result))
    : noticeIn? listener body = none := by
  obtain ⟨_, _, read, _⟩ := Message.responseIn?_eq_some_iff.mp read
  simp only [noticeIn?, read]

/-- Handling a message tells the listener of a notification, and of nothing else. -/
theorem poll_heard (listens : connection.listener = some listener)
    : ∃ bodies, Heard listener bodies connection connection.poll.1 := by
  obtain ⟨after, result, written, polled⟩ := connection.poll_cases
  rw [written]
  cases polled with
  | idle received | lost received | spoiled received =>
      exact ⟨[], .of_silent ((Recorder.received_receive received).trans (List.append_nil _)) rfl rfl⟩
  | @illegible _ body received read =>
      have other : noticeIn? listener body = none := by simp only [noticeIn?, read]
      exact ⟨[body], .of_other other (Recorder.received_receive received) rfl rfl⟩
  | @noticed transport body method params received read =>
      have told : noticeIn? listener body = some ⟨listener, method, params⟩ := by
        simp only [noticeIn?, read]
      have handled : ({ connection with transport }.handleNotification method params)
          = { connection with
              transport, notices := connection.notices ++ [⟨listener, method, params⟩] } := by
        simp only [handleNotification, listens]
      rw [handled]
      exact ⟨[body], .of_body (Recorder.received_receive received) (by rw [told]; rfl) rfl⟩
  | @replied _ body _ _ _ _ _ received read sent =>
      have other : noticeIn? listener body = none := by simp only [noticeIn?, read]
      have passed := (Recorder.received_send sent).trans (Recorder.received_receive received)
      exact ⟨[body], .of_other other passed rfl rfl⟩
  | @unmatched _ body _ _ _ received read =>
      have other : noticeIn? listener body = none := by simp only [noticeIn?, read]
      exact ⟨[body], .of_other other (Recorder.received_receive received) rfl rfl⟩
  | @answered _ body _ _ _ received read =>
      exact ⟨[body],
        .of_other (noticeIn?_of_response read) (Recorder.received_receive received) rfl rfl⟩
  | @openingAnswered _ body _ _ _ _ received read _ _ finished =>
      have other : noticeIn? listener body = none := noticeIn?_of_response read
      have passed := Recorder.received_receive received
      cases finished with
      | opened _ sent =>
          exact ⟨[body], .of_other other ((Recorder.received_send sent).trans passed) rfl rfl⟩
      | failed | late => exact ⟨[body], .of_other other passed rfl rfl⟩

end Connection

namespace Workspace

variable {τ κ : Type} [SupervisedTransport τ] {listener : String}
variable {connection : Connection (Recorder τ) (Purpose κ)}

theorem openSession_heard {host : Host (Recorder τ)} {after : Connection (Recorder τ) (Purpose κ)}
    {rootUri : Option String} {options : Option Json} {result : Except ClientError Nat}
    (opened : openSession host connection rootUri options = (after, result)) (listener : String)
    : connection.Heard listener [] after := by
  have heard := connection.openSession_heard (Message.opening host.processId rootUri options)
    Purpose.session listener
  rwa [← openSession, opened] at heard

/-- Waiting for an answer handles messages. Induction on how often it is looked for. -/
theorem awaitAnswer_heard (listens : connection.listener = some listener) (id count : Nat)
    : ∃ bodies, connection.Heard listener bodies (awaitAnswer id connection count) := by
  induction count generalizing connection with
  | zero => exact ⟨[], .refl listener connection⟩
  | succ count ih =>
      rw [awaitAnswer]
      obtain ⟨bodies, heard⟩ := Connection.poll_heard listens
      have later {after : Connection (Recorder τ) (Purpose κ)}
          (heard : connection.Heard listener bodies after)
          : ∃ bodies, connection.Heard listener bodies (awaitAnswer id after count) := by
        obtain ⟨more, rest⟩ := ih (heard.listener.trans listens)
        exact ⟨_, heard.trans rest⟩
      split
      · split
        · next same =>
            rw [same] at heard
            exact later heard
        · next same =>
            rw [same] at heard
            split
            · exact ⟨bodies, heard⟩
            · exact later heard
      · exact ⟨[], .refl listener connection⟩

theorem closeSession_heard (listens : connection.listener = some listener)
    (patience : Recorder τ → Nat)
    : ∃ bodies, connection.Heard listener bodies (closeSession patience connection) := by
  rw [closeSession]
  have asked := connection.shutdown_heard Purpose.session listener
  split
  · split
    · next closed id same =>
        rw [same] at asked
        obtain ⟨bodies, waited⟩ :=
          awaitAnswer_heard (asked.listener.trans listens) id (patience closed.transport)
        exact ⟨_, (asked.trans waited).trans (Connection.exit_heard _ listener)⟩
    · next same =>
        rw [same] at asked
        exact ⟨[], asked⟩
  · exact ⟨[], .refl listener connection⟩

end Workspace

end LanguageClient
