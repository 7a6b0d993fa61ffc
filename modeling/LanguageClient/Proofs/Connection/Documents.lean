import LanguageClient.Connection.Documents
import LanguageClient.Connection.Question
import LanguageClient.Proofs.Connection.Steps
import LanguageClient.Proofs.Document

/-! What steps on documents and questions about them do to a connection: nothing before the session
is open, and then one message at most.
-/

namespace LanguageClient.Connection

variable {τ κ : Type} [Transport τ]

-----------------------------------------------------------------------------------------
-- Steps that are undone
-----------------------------------------------------------------------------------------

/-- Take a step on documents once the server was told of it. -/
def sync (connection : Connection τ κ) (documents : Documents)
    (step : Documents → Except ClientError (Documents × DocumentNotice))
    : Connection τ κ × Documents × Except ClientError Nat :=
  if connection.isReady then
    match step documents with
    | .error error => (connection, documents, .error error)
    | .ok (stepped, notice) =>
        match connection.notify notice.method (some notice.params) with
        | (connection, .ok ()) => (connection, stepped, .ok notice.version)
        | (connection, .error error) => (connection, documents, .error error)
  else (connection, documents, .error .notInitialized)

/-- A step that is undone where the server cannot be told of it is a step that is taken once the
server was told.
-/
theorem tell_eq_sync (connection : Connection τ κ) (documents : Documents) {uri : String}
    {step : Documents → Except ClientError (Documents × DocumentNotice)}
    (about : Documents.IsAbout uri step)
    : connection.tell documents uri step = connection.sync documents step := by
  unfold tell sync
  split
  · rcases legal : step documents with error | ⟨stepped, notice⟩
    · rfl
    · have undone : stepped.restore uri (documents.get? uri) = documents := about.restore legal
      dsimp only
      rcases connection.notify notice.method (some notice.params) with ⟨after, error | _⟩
      · change (after, stepped.restore uri (documents.get? uri), _) = (after, documents, _)
        rw [undone]
      · rfl
  · rfl

theorem didOpen_eq_sync (connection : Connection τ κ) (documents : Documents)
    (uri language text : String)
    : connection.didOpen documents uri language text
      = connection.sync documents (·.didOpen uri language text) :=
  connection.tell_eq_sync documents (Documents.didOpen_isAbout uri language text)

theorem didChange_eq_sync (connection : Connection τ κ) (documents : Documents) (uri text : String)
    : connection.didChange documents uri text
      = connection.sync documents (·.didChange uri text) :=
  connection.tell_eq_sync documents (Documents.didChange_isAbout uri text)

theorem didSave_eq_sync (connection : Connection τ κ) (documents : Documents) (uri : String)
    (text : Option String)
    : connection.didSave documents uri text = connection.sync documents (·.didSave uri text) :=
  connection.tell_eq_sync documents (Documents.didSave_isAbout uri text)

theorem didClose_eq_sync (connection : Connection τ κ) (documents : Documents) (uri : String)
    : connection.didClose documents uri = connection.sync documents (·.didClose uri) :=
  connection.tell_eq_sync documents (Documents.didClose_isAbout uri)

-----------------------------------------------------------------------------------------
-- Steps and questions
-----------------------------------------------------------------------------------------

/-- A step on documents: it is not legal, its notification cannot be written, or it is written, and
only then the documents are others than before.
-/
inductive Synced (connection : Connection τ κ) (documents : Documents)
    (step : Documents → Except ClientError (Documents × DocumentNotice))
    : Connection τ κ → Documents → Except ClientError Nat → Prop
  | unready (closed : connection.phase ≠ .initialized)
    : Synced connection documents step connection documents (.error .notInitialized)
  | illegal {error} (ready : connection.phase = .initialized)
    (illegal : step documents = .error error)
    : Synced connection documents step connection documents (.error error)
  | unsent {stepped notice transport error} (ready : connection.phase = .initialized)
    (legal : step documents = .ok (stepped, notice))
    (sent
      : Transport.send connection.transport (Message.notification notice.method (some notice.params))
        = (transport, .error error))
    : Synced connection documents step { connection with transport } documents (.error error)
  | sent {stepped notice transport} (ready : connection.phase = .initialized)
    (legal : step documents = .ok (stepped, notice))
    (sent
      : Transport.send connection.transport (Message.notification notice.method (some notice.params))
        = (transport, .ok ()))
    : Synced connection documents step { connection with transport } stepped (.ok notice.version)

theorem sync_cases (connection : Connection τ κ) (documents : Documents)
    (step : Documents → Except ClientError (Documents × DocumentNotice))
    : ∃ after synced result,
        connection.sync documents step = (after, synced, result)
        ∧ Synced connection documents step after synced result := by
  by_cases ready : connection.phase = .initialized
  · rcases legal : step documents with error | ⟨stepped, notice⟩
    · exact ⟨_, _, _, by simp [sync, isReady, ready, legal], .illegal ready legal⟩
    · obtain ⟨after, result, written, notified⟩ :=
        connection.notify_cases notice.method (some notice.params)
      cases notified with
      | refused ended => simp [ready] at ended
      | @written transport result _ sent =>
          rcases result with error | _
          · exact ⟨_, _, _, by simp [sync, isReady, ready, legal, written], .unsent ready legal sent⟩
          · exact ⟨_, _, _, by simp [sync, isReady, ready, legal, written], .sent ready legal sent⟩
  · exact ⟨_, _, _, by simp [sync, isReady, ready], .unready ready⟩

/-- A question is refused before the session is open, and then it is a request. -/
inductive Asked (connection : Connection τ κ) (uri : String) (question : Question) (ticket : κ)
    : Connection τ κ → Except ClientError Nat → Prop
  | unready (closed : connection.phase ≠ .initialized)
    : Asked connection uri question ticket connection (.error .notInitialized)
  | requested {after result} (ready : connection.phase = .initialized)
    (requested
      : Requested connection question.method (some (question.params uri)) ticket after result)
    : Asked connection uri question ticket after result

theorem ask_cases (connection : Connection τ κ) (uri : String) (question : Question) (ticket : κ)
    : ∃ after result,
        connection.ask uri question ticket = (after, result)
        ∧ Asked connection uri question ticket after result := by
  by_cases ready : connection.phase = .initialized
  · obtain ⟨after, result, written, requested⟩ :=
      connection.request_cases question.method (some (question.params uri)) ticket
    exact ⟨_, _, by simpa [ask, isReady, ready] using written, .requested ready requested⟩
  · exact ⟨_, _, by simp [ask, isReady, ready], .unready ready⟩

/-- A connection is as ready after a question as before. -/
theorem ask_isReady (connection : Connection τ κ) (uri : String) (question : Question) (ticket : κ)
    : (connection.ask uri question ticket).1.isReady = connection.isReady := by
  obtain ⟨after, result, written, asked⟩ := connection.ask_cases uri question ticket
  rw [written]
  cases asked with
  | unready => rfl
  | requested _ requested => cases requested <;> rfl

end LanguageClient.Connection
