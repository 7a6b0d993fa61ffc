import LanguageClient.Proofs.Connection.ExactlyOnce
import LanguageClient.Proofs.Transport.Ledger
import LanguageClient.Workspace.Operations

/-! How the session of a server is closed. A server that is ready is asked to shut down, and if that
request was written, its messages are handled for some time and it is told to leave. Whatever it
answers, every request that waits is answered once.
-/

namespace LanguageClient

namespace Connection

variable {τ κ : Type} [Transport τ]

-----------------------------------------------------------------------------------------
-- Who is answered in a run and by its end
-----------------------------------------------------------------------------------------

/-- The tickets of the requests that a run sends, in turn. -/
def givenTickets (connection : Connection τ κ) : List (Operation τ κ) → List κ
  | [] => []
  | operation :: rest =>
      ((connection.accepted? operation).map (·.2)).toList
      ++ (connection.after operation).givenTickets rest

/-- Operations that hand over no ticket send no requests, and come to an end. -/
theorem givenTickets_of_silent {operations : List (Operation τ κ)}
    (silent : ∀ operation ∈ operations, operation.ticket? = none) (connection : Connection τ κ)
    : connection.givenTickets operations = [] ∧ connection.RunReturns operations := by
  induction operations generalizing connection with
  | nil => exact ⟨rfl, trivial⟩
  | cons operation rest ih =>
      have first := silent operation List.mem_cons_self
      obtain ⟨nobody, returns⟩ :=
        ih (fun other member => silent other (List.mem_cons_of_mem _ member))
          (connection.after operation)
      refine ⟨by simp [givenTickets, accepted?, first, nobody], fun looks => ?_, returns⟩
      obtain ⟨ticket, handed⟩ := ticket_of_looksForId looks
      cases first.symm.trans handed

/-- Whatever becomes of a request, it is its own ticket that is answered. -/
theorem fate_ticket (operations : List (Operation τ κ)) (connection : Connection τ κ)
    (id time : Nat) (ticket : κ)
    : (fate id ticket connection time operations).ticket = ticket := by
  induction operations generalizing connection time with
  | nil => rfl
  | cons operation rest ih =>
      rw [fate]
      split
      · rfl
      · exact ih _ _

theorem dues_tickets (operations : List (Operation τ κ)) (connection : Connection τ κ) (time : Nat)
    : (connection.dues time operations).map (·.ticket) = connection.givenTickets operations := by
  induction operations generalizing connection time with
  | nil => rfl
  | cons operation rest ih =>
      rw [dues, givenTickets, List.map_append, ih]
      cases connection.accepted? operation with
      | none => rfl
      | some entry => simp [fate_ticket]

/-- What was answered by the end of a connection after a run are the completions of the run.
Induction on the run; each operation adds its own answers to those before it.
-/
theorem answers_close_run (operations : List (Operation τ κ)) (connection : Connection τ κ)
    (time : Nat) (different : (connection.pending.map (·.1)).Nodup)
    (returns : connection.RunReturns operations)
    : (connection.run operations).close.answers
      = connection.answers
        ++ (connection.completions time operations).map fun completion =>
          (completion.ticket, completion.result) := by
  induction operations generalizing connection time with
  | nil => simp [completions, close, failPending]
  | cons operation rest ih =>
      have settles := settlement connection operation different
      rw [run_cons, ih _ (time + 1) (nodup_after different returns.1) returns.2, completions,
        settles.answers, List.drop_left]
      simp [Function.comp_def]

/-- By the end of a connection after a run, every request that waited at first and every request
that was sent was answered once.
-/
theorem answered_once_by_end (connection : Connection τ κ) (operations : List (Operation τ κ))
    (different : (connection.pending.map (·.1)).Nodup) (returns : connection.RunReturns operations)
    : ∃ told,
        (connection.run operations).close.answers = connection.answers ++ told
        ∧ (told.map (·.1)).Perm
            (connection.pending.map (·.2) ++ connection.givenTickets operations) := by
  refine ⟨_, answers_close_run operations connection 0 different returns, ?_⟩
  have fates := (completions_perm_fates operations connection 0 different returns).map (·.ticket)
  rw [List.map_append, dues_tickets, List.map_map] at fates
  simpa [List.map_map, Function.comp_def, fate_ticket] using fates

end Connection

namespace Workspace

variable {τ κ : Type} [SupervisedTransport τ]

-----------------------------------------------------------------------------------------
-- Taking leave
-----------------------------------------------------------------------------------------

/-- The request that closes a session, under the next id. -/
def closingRequest (connection : Connection τ (Purpose κ)) : Json :=
  Message.request connection.freshId "shutdown" none

/-- The session has been closed, as far as the server has heard of it, before the server is told to
leave.
-/
def closingSteps (polls : Nat) : List (Connection.Operation τ (Purpose κ)) :=
  .shutdown .session :: List.replicate polls .poll

/-- How a connection takes leave of its server: what is left of it, what was asked of the transport,
and which requests were added to those that wait. A server that is not ready is told nothing; one
that cannot be asked to shut down is told nothing else; and any other is listened to, and told to
leave in the phase where that is legal.
-/
inductive TakesLeave (connection : Connection (Ledger τ) (Purpose κ))
    : Connection (Ledger τ) (Purpose κ) → List Call → List (Purpose κ) → Prop
  | unready (unready : connection.isReady = false) : TakesLeave connection connection [] []
  | unheard {error} (ready : connection.isReady = true)
    (refused : (connection.shutdown .session).2 = .error error)
    : TakesLeave connection (connection.shutdown .session).1
        [.sent (closingRequest connection) (.error error)] []
  | heard {polls result meanwhile} (ready : connection.isReady = true)
    (asked : (connection.shutdown .session).2 = .ok connection.freshId)
    (closing : (connection.run (closingSteps polls)).phase = .shuttingDown)
    (listening : IsListening meanwhile)
    : TakesLeave connection (connection.run (closingSteps polls)).exit.1
        (.sent (closingRequest connection) (.ok ()) :: meanwhile
          ++ [.sent (Message.notification "exit" none) result])
        [.session]

variable {connection last : Connection (Ledger τ) (Purpose κ)}

/-- While a session is being closed, some messages were handled, and nothing was said but replies.
-/
structure Listened (connection last : Connection (Ledger τ) (Purpose κ)) (polls : Nat)
    (heard : List Call)
    : Prop where
  polled : last = connection.run (List.replicate polls .poll)
  calls : last.transport.calls = connection.transport.calls ++ heard
  listening : IsListening heard
  closing : last.phase = .shuttingDown

theorem Listened.refl (closing : connection.phase = .shuttingDown)
    : Listened connection connection 0 [] where
  polled := rfl
  calls := (List.append_nil _).symm
  listening := .nothing
  closing := closing

theorem Listened.next {polls : Nat} {heard later : List Call}
    (first : Listened connection connection.poll.1 1 heard)
    (rest : Listened connection.poll.1 last polls later)
    : Listened connection last (polls + 1) (heard ++ later) where
  polled := rest.polled
  calls := by rw [rest.calls, first.calls, List.append_assoc]
  listening := first.listening.append rest.listening
  closing := rest.closing

/-- Handling a message replies to it if it is a request, and says nothing else. -/
theorem poll_listened (closing : connection.phase = .shuttingDown)
    : ∃ heard, Listened connection connection.poll.1 1 heard := by
  suffices
      ∃ heard,
        connection.poll.1.transport.calls = connection.transport.calls ++ heard
        ∧ IsListening heard
        ∧ connection.poll.1.phase = .shuttingDown by
    obtain ⟨heard, calls, listening, still⟩ := this
    exact ⟨heard, rfl, calls, listening, still⟩
  have alone {result : Except ClientError (Option Bytes)} (unasked : replyTo? result = none)
      : IsListening [.received result] :=
    .heard unasked .nothing
  have response {body : Bytes} {id : Nat} {told : Except ClientError Json}
      (read : Message.responseIn? body = some (id, told))
      : replyTo? (.ok (some body)) = none := by
    obtain ⟨given, outcome, read, _⟩ := Message.responseIn?_eq_some_iff.mp read
    simp only [replyTo?, read]
  obtain ⟨after, result, polled, cases⟩ := connection.poll_cases
  rw [polled]
  cases cases with
  | idle received | lost received | spoiled received =>
      exact ⟨_, Ledger.calls_of_received received, alone rfl, closing⟩
  | illegible received read | unmatched received read =>
      exact ⟨_, Ledger.calls_of_received received, alone (by simp only [replyTo?, read]), closing⟩
  | @noticed _ body _ _ received read =>
      have unasked : replyTo? (.ok (some body)) = none := by simp only [replyTo?, read]
      rw [Connection.handleNotification_transport, Connection.handleNotification_phase]
      exact ⟨_, Ledger.calls_of_received received, alone unasked, closing⟩
  | @replied _ body id method params transport taken received read sent =>
      have asked : replyTo? (.ok (some body)) = some (Message.reply id method params) := by
        simp only [replyTo?, read]
      have listening
          : IsListening
              [.received (.ok (some body)), .sent (Message.reply id method params) taken] :=
        .replied asked .nothing
      refine ⟨_, ?_, listening, closing⟩
      change transport.calls = _
      rw [Ledger.calls_of_sent sent, Ledger.calls_of_received received, List.append_assoc]
      rfl
  | answered received read =>
      exact ⟨_, Ledger.calls_of_received received, alone (response read), closing⟩
  | openingAnswered received read _ _ finished =>
      cases finished with
      | opened opening | failed opening => exact nomatch closing.symm.trans opening
      | late => exact ⟨_, Ledger.calls_of_received received, alone (response read), closing⟩

/-- Waiting for an answer handles messages. Induction on how often it is looked for. -/
theorem awaitAnswer_listened (closing : connection.phase = .shuttingDown) (id count : Nat)
    : ∃ polls heard, Listened connection (awaitAnswer id connection count) polls heard := by
  induction count generalizing connection with
  | zero => exact ⟨0, [], .refl closing⟩
  | succ count ih =>
      obtain ⟨heard, first⟩ := poll_listened closing
      obtain ⟨polls, later, rest⟩ := ih first.closing
      rw [awaitAnswer]
      split
      · split
        · next polled =>
            rw [polled] at rest
            exact ⟨_, _, first.next (by rwa [polled])⟩
        · next polled =>
            rw [polled] at rest
            split
            · rw [polled] at first
              exact ⟨1, heard, first⟩
            · exact ⟨_, _, first.next (by rwa [polled])⟩
      · exact ⟨0, [], .refl closing⟩

/-- A ready connection that has asked its server to shut down takes leave of it. -/
theorem takesLeave_of_asked {closing : Connection (Ledger τ) (Purpose κ)}
    (ready : connection.isReady = true)
    (asked : connection.shutdown .session = (closing, .ok connection.freshId)) (count : Nat)
    : ∃ spoken,
        TakesLeave connection (awaitAnswer connection.freshId closing count).exit.1
          (.sent (closingRequest connection) (.ok ()) :: spoken) [.session]
        ∧ (awaitAnswer connection.freshId closing count).exit.1.transport.calls
          = closing.transport.calls ++ spoken := by
  have begun : closing.phase = .shuttingDown := by
    obtain ⟨_, _, written, closed⟩ := connection.shutdown_cases .session
    obtain ⟨rfl, rfl⟩ := Prod.mk.inj (written.symm.trans asked)
    cases closed
    rfl
  obtain ⟨polls, heard, waited⟩ := awaitAnswer_listened begun connection.freshId count
  have steps
      : awaitAnswer connection.freshId closing count = connection.run (closingSteps polls) := by
    rw [waited.polled, closingSteps, Connection.run_cons]
    change _ = (connection.shutdown .session).1.run _
    rw [asked]
  have still := waited.closing
  obtain ⟨last, told, left, ended⟩ :=
    (awaitAnswer connection.freshId closing count).exit_cases
  cases ended with
  | refused open' => exact absurd still open'
  | @ended transport _ _ sent =>
      refine ⟨heard ++ [.sent (Message.notification "exit" none) told], ?_, ?_⟩
      · rw [steps] at still ⊢
        exact .heard ready (by rw [asked]) still waited.listening
      · rw [left]
        change transport.calls = _
        rw [Ledger.calls_of_sent sent, waited.calls, List.append_assoc]

/-- Closing a session takes leave of the server, whatever it says and however long it is waited for.
-/
theorem closeSession_takesLeave (connection : Connection (Ledger τ) (Purpose κ))
    (patience : Ledger τ → Nat)
    : ∃ spoken own,
        TakesLeave connection (closeSession patience connection) spoken own
        ∧ (closeSession patience connection).transport.calls
          = connection.transport.calls ++ spoken := by
  cases ready : connection.isReady with
  | false =>
      refine ⟨[], [], ?_, ?_⟩ <;> simp only [closeSession, ready]
      · exact .unready ready
      · exact (List.append_nil _).symm
  | true =>
      have initialized : connection.phase = .initialized := of_decide_eq_true ready
      obtain ⟨asked, result, written, closed⟩ := connection.shutdown_cases .session
      cases closed with
      | refused unready => exact absurd initialized unready
      | @unsent _ error _ requested =>
          have same : closeSession patience connection = (connection.shutdown .session).1 := by
            simp only [closeSession, ready, written]
            rfl
          have left
              : TakesLeave connection (connection.shutdown .session).1
                  [.sent (closingRequest connection) (.error error)] [] :=
            .unheard ready (by rw [written])
          refine ⟨_, _, same ▸ left, ?_⟩
          rw [same, written]
          cases requested with
          | refused ended => exact nomatch ended.symm.trans initialized
          | unsent _ sent => exact Ledger.calls_of_sent sent
      | @sent after id _ requested =>
          cases requested with
          | @sent transport _ sent =>
              obtain ⟨spoken, left, calls⟩ :=
                takesLeave_of_asked ready written (patience transport)
              have same
                  : closeSession patience connection
                    = (awaitAnswer connection.freshId
                        { connection with
                          transport
                          nextId := (connection.freshId + 1) % Text.word32
                          pending := connection.pending ++ [(connection.freshId, .session)]
                          phase := .shuttingDown }
                        (patience transport)).exit.1 := by
                simp only [closeSession, ready, written, if_true]
              refine ⟨_, _, same ▸ left, ?_⟩
              rw [same, calls]
              change transport.calls ++ _ = _
              rw [Ledger.calls_of_sent sent, List.append_assoc]
              rfl

/-- Where a connection takes leave, every request that waits, and its own, is answered once. -/
theorem TakesLeave.answered_once {spoken : List Call} {own : List (Purpose κ)}
    (left : TakesLeave connection last spoken own)
    (different : (connection.pending.map (·.1)).Nodup)
    (returns : connection.Returns (.shutdown .session))
    : ∃ told,
        last.close.answers = connection.answers ++ told
        ∧ (told.map (·.1)).Perm (connection.pending.map (·.2) ++ own) := by
  cases left with
  | unready => exact connection.answered_once_by_end [] different trivial
  | unheard ready refused =>
      have nobody : connection.givenTickets [.shutdown .session] = [] := by
        simp [Connection.givenTickets, Connection.accepted?, Connection.perform, refused]
      have told := connection.answered_once_by_end [.shutdown .session] different ⟨returns, trivial⟩
      rwa [nobody] at told
  | @heard polls _ _ ready asked =>
      let waiting : List (Connection.Operation (Ledger τ) (Purpose κ)) :=
        List.replicate polls .poll ++ [.exit]
      have silent : ∀ operation ∈ waiting, operation.ticket? = none := by
        intro operation member
        rcases List.mem_append.mp member with poll | exit
        · rw [List.eq_of_mem_replicate poll]
          rfl
        · rw [List.mem_singleton.mp exit]
          rfl
      obtain ⟨nobody, ends⟩ :=
        Connection.givenTickets_of_silent silent (connection.after (.shutdown .session))
      have own : connection.givenTickets (.shutdown .session :: waiting) = [.session] := by
        rw [Connection.givenTickets, nobody]
        simp [Connection.accepted?, Connection.perform, Connection.Operation.ticket?, asked]
      have told := connection.answered_once_by_end (.shutdown .session :: waiting) different
        ⟨returns, ends⟩
      rw [own, ← List.cons_append, Connection.run_append] at told
      exact told

end Workspace

end LanguageClient
