import LanguageClient.Proofs.Connection.Documents
import LanguageClient.Proofs.Connection.Ids
import LanguageClient.Proofs.Message.Outgoing
import LanguageClient.Proofs.Transport.Mortal

/-! How a session is opened, read off its journal: it is asked for, and the first response to that
request settles whether it is open. The phase of the connection keeps pace with this, so a session
that was denied leaves the connection closed.
-/

namespace LanguageClient

/-- How far the opening of a session has come. -/
inductive Opening where
  | unasked
  | asked (id : Json)
  | answered (result : Except ClientError Json)

/-- The opening of a session after one thing more has passed. Only the first request that asks for
the session counts, and only the first response to it.
-/
def Opening.next : Opening → Traffic → Opening
  | .unasked, .sent message =>
      if Message.method? message = some "initialize" then .asked ((message.get? "id").getD .null)
      else .unasked
  | .asked id, .received body =>
      match Message.responseIn? body with
      | some (other, result) => if id = .nat other then .answered result else .asked id
      | none => .asked id
  | opening, _ => opening

/-- How far the opening of a session has come in its journal. -/
def Journal.opening (journal : Journal) : Opening :=
  journal.foldl Opening.next .unasked

theorem Journal.opening_concat (journal : Journal) (traffic : Traffic)
    : Journal.opening (journal ++ [traffic]) = (Journal.opening journal).next traffic := by
  rw [opening, List.foldl_append]
  rfl

/-- A session that was asked for is not asked for again. -/
theorem Opening.next_sent {opening : Opening} {message : Json}
    (other : opening ≠ .unasked ∨ Message.method? message ≠ some "initialize")
    : opening.next (.sent message) = opening := by
  cases opening with
  | unasked => exact if_neg (other.resolve_left (absurd rfl))
  | asked | answered => rfl

theorem Opening.next_request (id : Nat) (params : Option Json)
    : Opening.unasked.next (.sent (Message.request id "initialize" params)) = .asked (.nat id) := by
  have named : (Message.request id "initialize" params).get? "id" = some (.nat id) := by
    cases params <;>
      simp [Message.request, Json.get?_object, Message.paramsMember, Message.protocolMember,
        lookup_cons_eq]
  simp [Opening.next, named]

namespace Connection

section Closed

variable {τ κ : Type} [Transport τ] {connection : Connection τ κ}

/-- No message opens a connection that is closed. -/
theorem poll_closed (closed : connection.phase = .uninitialized)
    : connection.poll.1.phase = .uninitialized := by
  obtain ⟨after, result, written, polled⟩ := connection.poll_cases
  rw [written]
  cases polled with
  | idle | lost | spoiled | illegible | replied | unmatched | answered => exact closed
  | noticed =>
      rw [handleNotification_phase]
      exact closed
  | openingAnswered _ _ _ _ finished =>
      cases finished with
      | opened opening | failed opening => exact nomatch closed.symm.trans opening
      | late => exact closed

/-- A connection that is closed takes no step on documents. -/
theorem sync_closed (closed : connection.phase = .uninitialized) (documents : Documents)
    (step : Documents → Except ClientError (Documents × DocumentNotice))
    : connection.sync documents step = (connection, documents, .error .notInitialized) := by
  simp [sync, isReady, closed]

/-- A connection that is closed asks no question. -/
theorem ask_closed (closed : connection.phase = .uninitialized) (uri : String)
    (question : Question) (ticket : κ)
    : connection.ask uri question ticket = (connection, .error .notInitialized) := by
  simp [ask, isReady, closed]

end Closed

variable {τ κ : Type} [SupervisedTransport τ]

/-- The phase of a connection at each point of the opening of its session. A session that was not
asked for cannot be, since the transport is dead.
-/
inductive Opens (connection : Connection (Recorder τ) κ) : Opening → Prop
  | unasked (closed : connection.phase = .uninitialized)
    (dead : Transport.IsDead connection.transport)
    : Opens connection .unasked
  | asked {id} (opening : connection.phase = .initializing)
    (awaited : connection.openingId = some id) (waits : connection.isPending id = true)
    : Opens connection (.asked (.nat id))
  | granted {value} (ready : connection.phase = .initialized)
    : Opens connection (.answered (.ok value))
  | denied {error} (closed : connection.phase = .uninitialized)
    : Opens connection (.answered (.error error))

/-- The phase of a connection fits how far the opening of its session has come. -/
def KeepsPace (connection : Connection (Recorder τ) κ) : Prop :=
  connection.Opens (Journal.opening connection.transport.journal)

variable {connection after : Connection (Recorder τ) κ} {opening : Opening}

/-- What does not touch the request that opens the session keeps the phase fitting. -/
theorem Opens.keep (opens : connection.Opens opening) (phase : after.phase = connection.phase)
    (waits
      : ∀ id, connection.openingId = some id → connection.isPending id = true →
          after.openingId = some id ∧ after.isPending id = true)
    (dead : Transport.IsDead connection.transport → Transport.IsDead after.transport)
    : after.Opens opening := by
  cases opens with
  | unasked closed isDead => exact .unasked (phase.trans closed) (dead isDead)
  | asked opening awaited pending =>
      obtain ⟨still, stillPending⟩ := waits _ awaited pending
      exact .asked (phase.trans opening) still stillPending
  | granted ready => exact .granted (phase.trans ready)
  | denied closed => exact .denied (phase.trans closed)

/-- A body that is no response to the request that opens the session leaves the opening as it is. -/
theorem Opens.next_received (opens : connection.Opens opening) {body : Bytes}
    (other
      : ∀ id result, Message.responseIn? body = some (id, result) →
          connection.isPending id = true → connection.openingId ≠ some id)
    : opening.next (.received body) = opening := by
  cases opens with
  | unasked | granted | denied => rfl
  | @asked id _ awaited waits =>
      simp only [Opening.next]
      split
      · next answered result response =>
          refine if_neg fun same => ?_
          have same : id = answered := by
            simp only [Json.nat, Json.num.injEq, Json.Number.integer.injEq] at same
            omega
          subst same
          exact other id result response waits awaited
      · rfl

/-- Nothing that concerns the opening has passed or changed. -/
theorem KeepsPace.keep (pace : connection.KeepsPace)
    (same
      : Journal.opening after.transport.journal = Journal.opening connection.transport.journal)
    (phase : after.phase = connection.phase)
    (waits
      : ∀ id, connection.openingId = some id → connection.isPending id = true →
          after.openingId = some id ∧ after.isPending id = true)
    (dead : Transport.IsDead connection.transport → Transport.IsDead after.transport)
    : after.KeepsPace := by
  rw [KeepsPace, same]
  exact Opens.keep pace phase waits dead

theorem opening_of_received {recorder received : Recorder τ} {body : Bytes}
    (done : Transport.receive recorder = (received, .ok (some body)))
    : Journal.opening received.journal
      = (Journal.opening recorder.journal).next (.received body) := by
  rw [(Recorder.receive_of_some done).1, Journal.opening_concat]

/-- Whether it is taken or not, a message leaves the opening as it is, unless it asks for a
session.
-/
theorem opening_of_sent {recorder sent : Recorder τ} {message : Json}
    {result : Except ClientError Unit} (done : Transport.send recorder message = (sent, result))
    (other
      : Journal.opening recorder.journal ≠ .unasked
        ∨ Message.method? message ≠ some "initialize")
    : Journal.opening sent.journal = Journal.opening recorder.journal := by
  rcases result with error | _
  · rw [(Recorder.send_of_error done).1]
  · rw [(Recorder.send_of_ok done).1, Journal.opening_concat, Opening.next_sent other]

/-- A response that comes when no session is being opened is only noted. -/
theorem OpeningFinished.eq_of_late {result : Except ClientError Json}
    (finished : OpeningFinished connection result after)
    (other : connection.phase ≠ .initializing)
    : after = { connection with openingId := none } := by
  cases finished with
  | opened opening | failed opening => exact absurd opening other
  | late => rfl

/-- A body that does not read as a response is none. -/
theorem responseIn?_of_ofBytes? {body : Bytes} {incoming : Option Message.Incoming}
    (read : Message.Incoming.ofBytes? body = incoming)
    (other : ∀ given outcome, incoming ≠ some (.response given outcome))
    : Message.responseIn? body = none := by
  refine Option.eq_none_iff_forall_ne_some.mpr ?_
  rintro ⟨id, result⟩ response
  obtain ⟨given, outcome, same, _⟩ := Message.responseIn?_eq_some_iff.mp response
  exact other given outcome (read.symm.trans same)

variable [MortalTransport τ]

/-- Handling a message keeps pace, unless the transport is lost. -/
theorem KeepsPace.poll (pace : connection.KeepsPace)
    (alive : ∀ error, connection.poll.2 = .error error → error.isFatal = false)
    : connection.poll.1.KeepsPace := by
  obtain ⟨after, result, written, polled⟩ := connection.poll_cases
  rw [written] at alive ⊢
  -- What is heard but does not answer the request that opens the session.
  have heard {transport : Recorder τ} {body : Bytes}
      (received : Transport.receive connection.transport = (transport, .ok (some body)))
      (other
        : ∀ id result, Message.responseIn? body = some (id, result) →
            connection.isPending id = true → connection.openingId ≠ some id)
      : Journal.opening transport.journal = Journal.opening connection.transport.journal := by
    rw [opening_of_received received, Opens.next_received pace other]
  cases polled with
  | idle received | spoiled received =>
      have same := (Recorder.receive_of_none received (by simp)).1
      exact pace.keep (congrArg _ same) rfl (fun _ awaited waits => ⟨awaited, waits⟩)
        fun dead => dead.receive received
  | lost _ fatal => cases fatal.symm.trans (alive _ rfl)
  | illegible received read =>
      have none := responseIn?_of_ofBytes? read (by simp)
      exact pace.keep (heard received (by simp [none])) rfl
        (fun _ awaited waits => ⟨awaited, waits⟩) fun dead => dead.receive received
  | noticed received read =>
      have none := responseIn?_of_ofBytes? read (by simp)
      refine pace.keep ?_ (by simp) ?_ fun dead => by simpa using dead.receive received
      · simpa using heard received (by simp [none])
      · intro id awaited waits
        exact ⟨by simpa using awaited, by simpa [isPending] using waits⟩
  | @replied middle body id method params transport result received read sent =>
      have none := responseIn?_of_ofBytes? read (by simp)
      refine pace.keep ?_ rfl (fun _ awaited waits => ⟨awaited, waits⟩)
        fun dead => ((dead.receive received).send sent).1
      exact (opening_of_sent sent (.inr (by simp))).trans (heard received (by simp [none]))
  | unmatched received read nobody =>
      refine pace.keep (heard received fun id result response waits => ?_) rfl
        (fun _ awaited waits => ⟨awaited, waits⟩) fun dead => dead.receive received
      obtain ⟨given, outcome, same, named, _⟩ := Message.responseIn?_eq_some_iff.mp response
      cases read.symm.trans same
      obtain ⟨ticket, found⟩ := exists_lookup_of_isPending waits
      cases (nobody id named).symm.trans found
  | @answered _ _ id result ticket received read found other =>
      refine pace.keep (heard received fun same _ response _ => ?_) rfl ?_
        fun dead => dead.receive received
      · obtain ⟨rfl, _⟩ := Prod.mk.inj (Option.some.inj (read.symm.trans response))
        exact other
      · intro own awaited waits
        have apart : own ≠ id := by
          rintro rfl
          exact other awaited
        exact ⟨awaited, isPending_of_other waits apart rfl⟩
  | @openingAnswered _ _ id result ticket _ received read found asked finished =>
      have opens : connection.Opens (Journal.opening connection.transport.journal) := pace
      have passed := opening_of_received received
      generalize Journal.opening connection.transport.journal = opening at opens passed
      cases opens with
      | @asked own phase awaited =>
          obtain rfl : own = id := Option.some.inj (awaited.symm.trans asked)
          simp only [Opening.next, read, if_true] at passed
          cases finished with
          | opened _ sent =>
              have said := opening_of_sent sent (.inl (by simp [passed]))
              rw [KeepsPace, answer, said, passed]
              exact .granted rfl
          | failed =>
              rw [KeepsPace, answer, passed]
              exact .denied rfl
          | late other => exact absurd phase other
      | unasked closed dead =>
          obtain rfl := finished.eq_of_late (by simp [closed])
          rw [KeepsPace, answer, passed]
          exact .unasked closed (dead.receive received)
      | granted ready =>
          obtain rfl := finished.eq_of_late (by simp [ready])
          rw [KeepsPace, answer, passed]
          exact .granted ready
      | denied closed =>
          obtain rfl := finished.eq_of_late (by simp [closed])
          rw [KeepsPace, answer, passed]
          exact .denied closed

omit [MortalTransport τ] in
/-- What is sent while the session is open leaves it open. -/
theorem KeepsPace.work {message : Json} {transport : Recorder τ} {result : Except ClientError Unit}
    (pace : connection.KeepsPace) (ready : connection.phase = .initialized)
    (sent : Transport.send connection.transport message = (transport, result))
    (phase : after.phase = connection.phase) (same : after.transport = transport)
    : after.KeepsPace := by
  have opens : connection.Opens (Journal.opening connection.transport.journal) := pace
  generalize reached : Journal.opening connection.transport.journal = opening at opens
  cases opens with
  | granted =>
      rw [KeepsPace, same, opening_of_sent sent (.inl (by simp [reached])), reached]
      exact .granted (phase.trans ready)
  | unasked other | asked other | denied other => simp [ready] at other

omit [MortalTransport τ] in
theorem KeepsPace.sync (pace : connection.KeepsPace) (documents : Documents)
    (step : Documents → Except ClientError (Documents × DocumentNotice))
    : (connection.sync documents step).1.KeepsPace := by
  obtain ⟨after, synced, result, written, cases⟩ := connection.sync_cases documents step
  rw [written]
  cases cases with
  | unready | illegal => exact pace
  | unsent ready _ sent | sent ready _ sent => exact pace.work ready sent rfl rfl

omit [MortalTransport τ] in
theorem KeepsPace.ask (pace : connection.KeepsPace) (uri : String) (question : Question)
    (ticket : κ)
    : (connection.ask uri question ticket).1.KeepsPace := by
  obtain ⟨after, result, written, asked⟩ := connection.ask_cases uri question ticket
  rw [written]
  cases asked with
  | unready => exact pace
  | requested ready requested =>
      cases requested with
      | refused => exact pace
      | unsent _ sent | sent _ sent => exact pace.work ready sent rfl rfl

/-- A session that is opened first thing is asked for, or the transport is dead. -/
theorem KeepsPace.openSession (silent : connection.transport.journal = [])
    (closed : connection.phase = .uninitialized) (params : Json) (ticket : κ)
    : (connection.openSession params ticket).1.KeepsPace := by
  obtain ⟨after, result, written, opened⟩ := connection.openSession_cases params ticket
  rw [written]
  cases opened with
  | refused begun => exact absurd closed begun
  | unsent _ requested =>
      cases requested with
      | refused ended => simp [closed] at ended
      | unsent _ sent =>
          rw [KeepsPace, (Recorder.send_of_error sent).1, silent]
          exact .unasked closed (Transport.isDead_of_send sent)
  | sent _ requested =>
      cases requested with
      | sent _ sent =>
          rw [KeepsPace, (Recorder.send_of_ok sent).1, silent, Journal.opening_concat]
          change Opens _ (Opening.unasked.next _)
          rw [Opening.next_request]
          exact .asked rfl rfl (by simp [isPending])

end Connection

end LanguageClient
