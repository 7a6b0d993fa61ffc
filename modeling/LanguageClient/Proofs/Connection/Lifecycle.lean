import LanguageClient.Proofs.Connection.Ids
import Mathlib.Data.List.Induction

/-! The life of a session: which operations change the phase of a connection, and what the phase
says of the request that opens the session and of what the server can do.
-/

namespace LanguageClient.Connection

variable {τ κ : Type} [Transport τ]

-----------------------------------------------------------------------------------------
-- Hearing a response
-----------------------------------------------------------------------------------------

/-- The response that is heard is the one in the body that is received. -/
theorem heard?_of_received {connection : Connection τ κ} {transport : τ} {body : Bytes}
    (received : Transport.receive connection.transport = (transport, .ok (some body)))
    : connection.heard? = Message.responseIn? body := by
  simp only [heard?, received]

/-- A response is heard in a body that is received. -/
theorem received_of_heard {connection : Connection τ κ} {id : Nat}
    {result : Except ClientError Json} (heard : connection.heard? = some (id, result))
    : ∃ transport body,
        Transport.receive connection.transport = (transport, .ok (some body))
        ∧ Message.responseIn? body = some (id, result) := by
  rcases received : Transport.receive connection.transport with ⟨transport, error | _ | body⟩
  · simp [heard?, received] at heard
  · simp [heard?, received] at heard
  · exact ⟨transport, body, rfl, by rwa [heard?_of_received received] at heard⟩

/-- The response to the request that opens the session, when it is heard, finishes the opening. -/
theorem poll_of_opening_heard {connection : Connection τ κ} {id : Nat}
    {result : Except ClientError Json} (asked : connection.openingId = some id)
    (waits : connection.isPending id = true) (heard : connection.heard? = some (id, result))
    : ∃ transport ticket finished,
        connection.poll.1 = finished.answer ticket result
        ∧ OpeningFinished
            { connection with transport, pending := connection.pending.filter (·.1 ≠ id) }
            result finished := by
  obtain ⟨transport, body, received, answers⟩ := received_of_heard heard
  obtain ⟨given, outcome, read, named, rfl⟩ := Message.responseIn?_eq_some_iff.mp answers
  obtain ⟨ticket, found⟩ := exists_lookup_of_isPending waits
  refine ⟨transport, ticket, _, ?_, finishOpening_cases _ _⟩
  simp only [poll, received, read, handle, handleResponse, named, found, if_pos asked]

-----------------------------------------------------------------------------------------
-- Changes of the phase
-----------------------------------------------------------------------------------------

/-- The operations that change the phase, and the phase after them: a request that opens or closes a
session, once it is written; the response to the request that opens it; the end of the session,
which need not be written; and a reset.
-/
inductive LifeStep (connection : Connection τ κ) : Operation τ κ → Phase → Prop
  | opening {params ticket} (closed : connection.phase = .uninitialized)
    (written
      : connection.takes (Message.request connection.freshId "initialize" (some params)))
    : LifeStep connection (.openSession params ticket) .initializing
  | opened {id value} (opening : connection.phase = .initializing)
    (asked : connection.openingId = some id)
    (heard : connection.heard? = some (id, .ok value))
    : LifeStep connection .poll .initialized
  | notOpened {id error} (opening : connection.phase = .initializing)
    (asked : connection.openingId = some id)
    (heard : connection.heard? = some (id, .error error))
    : LifeStep connection .poll .uninitialized
  | closing {ticket} (ready : connection.phase = .initialized)
    (written : connection.takes (Message.request connection.freshId "shutdown" none))
    : LifeStep connection (.shutdown ticket) .shuttingDown
  | ended (closing : connection.phase = .shuttingDown) : LifeStep connection .exit .exited
  | reset : LifeStep connection .reset .uninitialized

/-- A request that is sent or refused, and no more than that, leaves the session as it was. -/
theorem Requested.session {connection after : Connection τ κ} {method : String}
    {params : Option Json} {ticket : κ} {result : Except ClientError Nat}
    (requested : Requested connection method params ticket after result)
    : after.phase = connection.phase
      ∧ after.openingId = connection.openingId
      ∧ after.capabilities = connection.capabilities := by
  cases requested <;> exact ⟨rfl, rfl, rfl⟩

/-- A request that the transport takes is written, outside an ended session. -/
theorem Requested.ok_of_takes {connection after : Connection τ κ} {method : String}
    {params : Option Json} {ticket : κ} {result : Except ClientError Nat}
    (requested : Requested connection method params ticket after result)
    (live : connection.phase ≠ .exited)
    (written : connection.takes (Message.request connection.freshId method params))
    : result = .ok connection.freshId := by
  cases requested with
  | refused ended => exact absurd ended live
  | unsent _ sent => simp [takes, sent] at written
  | sent => rfl

theorem Requested.takes {connection after : Connection τ κ} {method : String}
    {params : Option Json} {ticket : κ} {id : Nat}
    (requested : Requested connection method params ticket after (.ok id))
    : connection.takes (Message.request connection.freshId method params)
      ∧ id = connection.freshId := by
  cases requested with
  | sent _ sent => exact ⟨by simp [Connection.takes, sent], rfl⟩

/-- Where the phase changes at all, it does so by one of the steps. -/
theorem lifeStep_of_phase_ne {connection : Connection τ κ} {operation : Operation τ κ}
    (changed : (connection.after operation).phase ≠ connection.phase)
    : LifeStep connection operation (connection.after operation).phase := by
  cases operation with
  | reset => exact .reset
  | listen | disturb => exact absurd rfl changed
  | request method params ticket =>
      obtain ⟨_, _, written, requested⟩ := connection.request_cases method params ticket
      simp only [after, perform, written] at changed
      exact absurd requested.session.1 changed
  | notify method params =>
      obtain ⟨_, _, written, notified⟩ := connection.notify_cases method params
      simp only [after, perform, written] at changed
      cases notified <;> exact absurd rfl changed
  | openSession params ticket =>
      obtain ⟨_, _, written, opened⟩ := connection.openSession_cases params ticket
      simp only [after, perform, written] at changed ⊢
      cases opened with
      | refused => exact absurd rfl changed
      | unsent _ requested => exact absurd requested.session.1 changed
      | sent closed requested => exact .opening closed requested.takes.1
  | shutdown ticket =>
      obtain ⟨_, _, written, closed⟩ := connection.shutdown_cases ticket
      simp only [after, perform, written] at changed ⊢
      cases closed with
      | refused => exact absurd rfl changed
      | unsent _ requested => exact absurd requested.session.1 changed
      | sent ready requested => exact .closing ready requested.takes.1
  | exit =>
      obtain ⟨_, _, written, ended⟩ := connection.exit_cases
      simp only [after, perform, written] at changed ⊢
      cases ended with
      | refused => exact absurd rfl changed
      | ended closing => exact .ended closing
  | poll =>
      obtain ⟨_, _, polled, cases⟩ := connection.poll_cases
      simp only [after, perform, polled] at changed ⊢
      cases cases with
      | idle | lost | spoiled | illegible | replied | unmatched | answered =>
          exact absurd rfl changed
      | noticed => exact absurd (handleNotification_phase ..) changed
      | openingAnswered received read _ asked finished =>
          have heard := (heard?_of_received received).trans read
          cases finished with
          | opened opening => exact .opened opening asked heard
          | failed opening => exact .notOpened opening asked heard
          | late => exact absurd rfl changed

-----------------------------------------------------------------------------------------
-- What the phase says
-----------------------------------------------------------------------------------------

/-- What holds of a session at any time: the request that opens it is known only while it waits,
and what the server can do is known from its response on.
-/
structure SessionInvariant (connection : Connection τ κ) : Prop where
  opening
    : ∀ id, connection.openingId = some id →
        connection.phase = .initializing ∧ connection.isPending id = true
  capabilities
    : connection.capabilities.isSome = true
      ↔ connection.phase = .initialized
        ∨ connection.phase = .shuttingDown
        ∨ connection.phase = .exited

omit [Transport τ] in
/-- The invariant says nothing of the transport, and of those that wait only that they do. -/
theorem SessionInvariant.of_session {connection after : Connection τ κ}
    (invariant : connection.SessionInvariant) (phase : after.phase = connection.phase)
    (openingId : after.openingId = connection.openingId)
    (capabilities : after.capabilities = connection.capabilities)
    (waiting
      : ∀ id, connection.openingId = some id → connection.isPending id = true →
          after.isPending id = true)
    : after.SessionInvariant := by
  refine ⟨fun id asked => ?_, by rw [capabilities, phase]; exact invariant.capabilities⟩
  rw [openingId] at asked
  obtain ⟨opening, waits⟩ := invariant.opening id asked
  exact ⟨phase.trans opening, waiting id asked waits⟩

theorem Requested.isPending {connection after : Connection τ κ} {method : String}
    {params : Option Json} {ticket : κ} {result : Except ClientError Nat}
    (requested : Requested connection method params ticket after result) {id : Nat}
    (waits : connection.isPending id = true)
    : after.isPending id = true := by
  cases requested with
  | refused | unsent => exact waits
  | sent =>
      refine isPending_eq_true_iff.mpr ?_
      rw [List.map_append]
      exact List.mem_append_left _ (isPending_eq_true_iff.mp waits)

/-- A request that neither opens nor closes a session keeps the invariant. -/
theorem Requested.invariant {connection after : Connection τ κ} {method : String}
    {params : Option Json} {ticket : κ} {result : Except ClientError Nat}
    (requested : Requested connection method params ticket after result)
    (invariant : connection.SessionInvariant)
    : after.SessionInvariant := by
  obtain ⟨phase, openingId, capabilities⟩ := requested.session
  exact invariant.of_session phase openingId capabilities fun _ _ => requested.isPending

/-- Handling a message keeps the invariant. The response to the request that opens the session
takes it away from those that wait, and no session is being opened any more; any other response
leaves that request waiting.
-/
theorem Polled.invariant {connection after : Connection τ κ} {result : Except ClientError Bool}
    (polled : Polled connection after result) (invariant : connection.SessionInvariant)
    : after.SessionInvariant := by
  cases polled with
  | idle | spoiled | illegible | replied | unmatched =>
      exact invariant.of_session rfl rfl rfl fun _ _ waits => waits
  | noticed =>
      refine invariant.of_session (by simp) (by simp) (by simp) fun _ _ waits => ?_
      simpa [isPending] using waits
  | lost => exact ⟨fun _ asked => by simp [failPending] at asked, invariant.capabilities⟩
  | @answered _ _ named _ _ _ _ _ other =>
      refine invariant.of_session rfl rfl rfl fun id asked waits => ?_
      have different : id ≠ named := by
        rintro rfl
        exact other asked
      exact isPending_of_other waits different rfl
  | openingAnswered _ _ _ asked finished =>
      have opening := (invariant.opening _ asked).1
      have unknown := invariant.capabilities
      simp only [opening, reduceCtorEq, or_self, iff_false] at unknown
      cases finished with
      | opened => exact ⟨fun _ asked => by simp [answer] at asked, by simp [answer]⟩
      | failed => exact ⟨fun _ asked => by simp [answer] at asked, by simpa [answer] using unknown⟩
      | late other => exact absurd opening other

theorem SessionInvariant.after {connection : Connection τ κ}
    (invariant : connection.SessionInvariant) (operation : Operation τ κ)
    : (connection.after operation).SessionInvariant := by
  cases operation with
  | listen | disturb => exact invariant.of_session rfl rfl rfl fun _ _ waits => waits
  | reset =>
      refine ⟨fun id asked => ?_, by simp [Connection.after, perform, reset]⟩
      cases asked
  | poll =>
      obtain ⟨_, _, written, polled⟩ := connection.poll_cases
      simpa only [Connection.after, perform, written] using polled.invariant invariant
  | request method params ticket =>
      obtain ⟨_, _, written, requested⟩ := connection.request_cases method params ticket
      simpa only [Connection.after, perform, written] using requested.invariant invariant
  | notify method params =>
      obtain ⟨_, _, written, notified⟩ := connection.notify_cases method params
      simp only [Connection.after, perform, written]
      cases notified <;> exact invariant.of_session rfl rfl rfl fun _ _ waits => waits
  | openSession params ticket =>
      obtain ⟨_, _, written, opened⟩ := connection.openSession_cases params ticket
      simp only [Connection.after, perform, written]
      cases opened with
      | refused => exact invariant
      | unsent _ requested => exact requested.invariant invariant
      | sent closed requested =>
          cases requested with
          | sent =>
              have unknown := invariant.capabilities
              simp only [closed, reduceCtorEq, or_self, iff_false] at unknown
              refine ⟨fun id asked => ⟨rfl, ?_⟩, by simpa using unknown⟩
              obtain rfl := Option.some.inj asked
              simp [isPending]
  | shutdown ticket =>
      obtain ⟨_, _, written, closed⟩ := connection.shutdown_cases ticket
      simp only [Connection.after, perform, written]
      cases closed with
      | refused => exact invariant
      | unsent _ requested => exact requested.invariant invariant
      | sent ready requested =>
          obtain ⟨_, openingId, capabilities⟩ := requested.session
          refine ⟨fun id asked => ?_, by simpa [capabilities, ready] using invariant.capabilities⟩
          simpa [ready] using (invariant.opening id (openingId ▸ asked)).1
  | exit =>
      obtain ⟨_, _, written, ended⟩ := connection.exit_cases
      simp only [Connection.after, perform, written]
      cases ended with
      | refused => exact invariant
      | ended closing =>
          refine ⟨fun id asked => ?_, by simpa [failPending, closing] using invariant.capabilities⟩
          cases asked

theorem sessionInvariant_run (transport : τ) (operations : List (Operation τ κ))
    : ((fresh transport : Connection τ κ).run operations).SessionInvariant :=
  run_induction (P := SessionInvariant) (fun _ operation kept => kept.after operation)
    ⟨by simp [fresh], by simp [fresh]⟩ operations

-----------------------------------------------------------------------------------------
-- The request that opens the session
-----------------------------------------------------------------------------------------

/-- A request is known to open the session if it was before, or if it has just been sent. -/
theorem openingId_after {connection : Connection τ κ} {operation : Operation τ κ} {id : Nat}
    (asked : (connection.after operation).openingId = some id)
    : connection.openingId = some id
      ∨ ∃ params ticket,
          operation = .openSession params ticket
          ∧ connection.accepted? operation = some (id, ticket) := by
  cases operation with
  | listen | disturb => exact .inl asked
  | reset => cases asked
  | request method params ticket =>
      obtain ⟨_, _, written, requested⟩ := connection.request_cases method params ticket
      simp only [after, perform, written, requested.session.2.1] at asked
      exact .inl asked
  | notify method params =>
      obtain ⟨_, _, written, notified⟩ := connection.notify_cases method params
      simp only [after, perform, written] at asked
      cases notified <;> exact .inl asked
  | shutdown ticket =>
      obtain ⟨_, _, written, closed⟩ := connection.shutdown_cases ticket
      simp only [after, perform, written] at asked
      cases closed with
      | refused => exact .inl asked
      | unsent _ requested | sent _ requested => exact .inl (requested.session.2.1 ▸ asked)
  | exit =>
      obtain ⟨_, _, written, ended⟩ := connection.exit_cases
      simp only [after, perform, written] at asked
      cases ended with
      | refused => exact .inl asked
      | ended => cases asked
  | openSession params ticket =>
      obtain ⟨_, _, written, opened⟩ := connection.openSession_cases params ticket
      simp only [after, perform, written] at asked
      cases opened with
      | refused => exact .inl asked
      | unsent _ requested => exact .inl (requested.session.2.1 ▸ asked)
      | sent _ requested =>
          obtain rfl := Option.some.inj asked
          exact .inr ⟨params, ticket, rfl, by simp [accepted?, perform, written, Operation.ticket?]⟩
  | poll =>
      obtain ⟨_, _, written, polled⟩ := connection.poll_cases
      simp only [after, perform, written] at asked
      cases polled with
      | idle | spoiled | illegible | replied | unmatched | answered => exact .inl asked
      | noticed => exact .inl (by simpa using asked)
      | lost => cases asked
      | openingAnswered _ _ _ _ finished => simp [answer, finished.frame.2.2.2] at asked

/-- A request that is known to open the session was sent to open it, and nothing since has ended
that: no response, no loss, no reset. Induction on the run from its end.
-/
theorem opened_by {transport : τ} {operations : List (Operation τ κ)} {id : Nat}
    (asked : ((fresh transport : Connection τ κ).run operations).openingId = some id)
    : ∃ first params ticket second,
        operations = first ++ .openSession params ticket :: second
        ∧ ((fresh transport : Connection τ κ).run first).accepted? (.openSession params ticket)
          = some (id, ticket)
        ∧ ∀ between, between <+: second →
            ((fresh transport : Connection τ κ).run
                (first ++ .openSession params ticket :: between)).openingId
              = some id := by
  induction operations using List.reverseRecOn with
  | nil => simp [fresh] at asked
  | append_singleton operations operation ih =>
      have now := asked
      rw [run_append] at now
      rcases openingId_after now with before | ⟨params, ticket, rfl, accepted⟩
      · obtain ⟨first, params, ticket, second, rfl, accepted, since⟩ := ih before
        refine ⟨first, params, ticket, second ++ [operation], by simp, accepted, ?_⟩
        intro between part
        rcases List.prefix_concat_iff.mp part with rfl | part
        · simpa using asked
        · exact since between part
      · refine ⟨operations, params, ticket, [], rfl, accepted, ?_⟩
        intro between part
        obtain rfl := List.prefix_nil.mp part
        exact asked

-----------------------------------------------------------------------------------------
-- The life of a session
-----------------------------------------------------------------------------------------

/-- A step leads to the phase that it names. -/
theorem LifeStep.phase_after {connection : Connection τ κ} {operation : Operation τ κ}
    {phase : Phase} (step : LifeStep connection operation phase)
    (invariant : connection.SessionInvariant)
    : (connection.after operation).phase = phase := by
  cases step with
  | reset => rfl
  | ended closing => simp [after, perform, exit, closing, failPending]
  | @opening params ticket closed written =>
      obtain ⟨_, _, done, opened⟩ := connection.openSession_cases params ticket
      simp only [after, perform, done]
      cases opened with
      | refused begun => exact absurd closed begun
      | sent => rfl
      | unsent _ requested => cases requested.ok_of_takes (by simp [closed]) written
  | @closing ticket ready written =>
      obtain ⟨_, _, done, closed⟩ := connection.shutdown_cases ticket
      simp only [after, perform, done]
      cases closed with
      | refused unready => exact absurd ready unready
      | sent => rfl
      | unsent _ requested => cases requested.ok_of_takes (by simp [ready]) written
  | opened opening asked heard =>
      obtain ⟨_, _, _, polled, finished⟩ :=
        poll_of_opening_heard asked (invariant.opening _ asked).2 heard
      simp only [after, perform, polled]
      cases finished with
      | opened => rfl
      | late other => exact absurd opening other
  | notOpened opening asked heard =>
      obtain ⟨_, _, _, polled, finished⟩ :=
        poll_of_opening_heard asked (invariant.opening _ asked).2 heard
      simp only [after, perform, polled]
      cases finished with
      | failed => rfl
      | late other => exact absurd opening other

/-- After any run, the phase changes by the steps of the life of a session and by nothing else. A
request is known to open the session only while the session is being opened and the request waits;
it is the one that was sent to open it, and its response, when it comes, opens the session or fails
to, so it never comes too late. What the server can do is known exactly while it has a session.
-/
theorem phase_changes_by_lifeSteps (transport : τ) (operations : List (Operation τ κ))
    : let connection := (fresh transport : Connection τ κ).run operations
      (∀ operation phase, LifeStep connection operation phase →
        (connection.after operation).phase = phase)
      ∧ (∀ operation, (∀ phase, ¬ LifeStep connection operation phase) →
          (connection.after operation).phase = connection.phase)
      ∧ (∀ id, connection.openingId = some id →
          connection.phase = .initializing
          ∧ connection.isPending id = true
          ∧ (∃ first params ticket second,
              operations = first ++ .openSession params ticket :: second
              ∧ ((fresh transport : Connection τ κ).run first).accepted?
                  (.openSession params ticket)
                = some (id, ticket)
              ∧ ∀ between, between <+: second →
                  ((fresh transport : Connection τ κ).run
                      (first ++ .openSession params ticket :: between)).openingId
                    = some id)
          ∧ ∀ result, connection.heard? = some (id, result) →
              ∃ phase, LifeStep connection .poll phase)
      ∧ (connection.capabilities.isSome = true
        ↔ connection.phase = .initialized
          ∨ connection.phase = .shuttingDown
          ∨ connection.phase = .exited) := by
  intro connection
  have invariant : connection.SessionInvariant := sessionInvariant_run transport operations
  refine ⟨fun _ _ step => step.phase_after invariant, fun operation none => ?_, fun id asked => ?_,
    invariant.capabilities⟩
  · by_contra changed
    exact none _ (lifeStep_of_phase_ne changed)
  · obtain ⟨opening, waits⟩ := invariant.opening id asked
    refine ⟨opening, waits, opened_by asked, fun result heard => ?_⟩
    cases result with
    | ok value => exact ⟨_, .opened opening asked heard⟩
    | error error => exact ⟨_, .notOpened opening asked heard⟩

end LanguageClient.Connection
