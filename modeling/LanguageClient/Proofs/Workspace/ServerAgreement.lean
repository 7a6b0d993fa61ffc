import LanguageClient.Proofs.Workspace.Agreement
import LanguageClient.Proofs.Workspace.Recorded

/-! Servers that have been told what the editor said last stay so, whatever is done with them. Texts
that wait are told once the server is ready, and nothing waits for a server that is.
-/

namespace LanguageClient

/-- Every session that is over, and the one that goes on, can be replayed. -/
def Recorder.IsLegal {τ : Type} (recorder : Recorder τ) : Prop :=
  ∀ session ∈ recorder.sessions, (View.replay .empty session).isSome

/-- A transport that was used for other messages alone has had nothing to replay since. -/
theorem Recorder.isLegal_of_silent {τ : Type} [SupervisedTransport τ] {start after : Recorder τ}
    (journal : start.journal = [])
    (earlier : ∀ session ∈ start.earlier, (View.replay .empty session).isSome)
    (used : Transport.Used Message.IsAside start after)
    : after.IsLegal := by
  intro session member
  rcases mem_sessions.mp member with past | rfl
  · exact earlier session (earlier_of_used used ▸ past)
  · rw [View.replay_of_used used, journal]
    rfl

namespace Server

variable {τ κ : Type}

/-- A server has been told what was said last, in this session, and its earlier sessions can be
replayed.
-/
structure Agreement (server : Server (Recorder τ) κ) (texts : String → Option String)
    (settings : Settings) (name : String)
    : Prop where
  agrees
    : Agrees texts settings name server.connection.transport.journal server.documents server.queued
  earlier
    : ∀ session ∈ server.connection.transport.earlier, (View.replay .empty session).isSome

/-- No document waits for a server that is ready. -/
def IsFlushed (server : Server τ κ) : Prop :=
  server.connection.isReady = true → server.queued = []

/-- A step on the documents of a server is told to it, or nothing comes of it. -/
inductive Told (server : Server (Recorder τ) κ)
    (step : Documents → Except ClientError (Documents × DocumentNotice))
    : Server (Recorder τ) κ → Except ClientError Nat → Prop
  | told {transport stepped notice} (legal : step server.documents = .ok (stepped, notice))
    (journal
      : transport.journal
        = server.connection.transport.journal
          ++ [.sent (Message.notification notice.method (some notice.params))])
    (earlier : transport.earlier = server.connection.transport.earlier)
    : Told server step { server.withTransport transport with documents := stepped }
        (.ok notice.version)
  | untold {transport error} (journal : transport.journal = server.connection.transport.journal)
    (earlier : transport.earlier = server.connection.transport.earlier)
    : Told server step (server.withTransport transport) (.error error)

variable {server last : Server (Recorder τ) κ} {texts : String → Option String}
variable {settings : Settings} {name uri text : String}

theorem isQueued_eq_false_iff {transport : Type} {server : Server transport κ}
    : server.isQueued uri = false ↔ ∀ entry ∈ server.queued, entry.uri ≠ uri := by
  simp [isQueued]

theorem isQueued_eq_true_iff {transport : Type} {server : Server transport κ}
    : server.isQueued uri = true ↔ ∃ entry ∈ server.queued, entry.uri = uri := by
  simp [isQueued]

/-- A document is told of, so none waits. -/
theorem Told.isFlushed {step : Documents → Except ClientError (Documents × DocumentNotice)}
    {result : Except ClientError Nat} (told : Told server step last result)
    (flushed : server.IsFlushed)
    : last.IsFlushed := by
  cases told <;> exact flushed

/-- A step keeps the agreement if it does so where it is told. -/
theorem Told.agreement {step : Documents → Except ClientError (Documents × DocumentNotice)}
    {result : Except ClientError Nat} {said : String → Option String}
    (told : Told server step last result) (agreement : server.Agreement texts settings name)
    (legally
      : ∀ stepped notice, step server.documents = .ok (stepped, notice) →
          Agrees said settings name
            (server.connection.transport.journal
              ++ [.sent (Message.notification notice.method (some notice.params))])
            stepped server.queued)
    : last.Agreement (if result.isOk then said else texts) settings name := by
  cases told with
  | told legal journal earlier =>
      refine ⟨?_, fun session member => agreement.earlier session (earlier ▸ member)⟩
      have agrees := legally _ _ legal
      rw [← journal] at agrees
      exact agrees
  | untold journal earlier =>
      refine ⟨agreement.agrees.of_replay ?_, fun session member => ?_⟩
      · exact congrArg _ journal
      · exact agreement.earlier session (earlier ▸ member)

/-- A step that says nothing new keeps the agreement if it does so where it is told. -/
theorem Told.keeps {step : Documents → Except ClientError (Documents × DocumentNotice)}
    {result : Except ClientError Nat} (told : Told server step last result)
    (agreement : server.Agreement texts settings name)
    (legally
      : ∀ stepped notice, step server.documents = .ok (stepped, notice) →
          Agrees texts settings name
            (server.connection.transport.journal
              ++ [.sent (Message.notification notice.method (some notice.params))])
            stepped server.queued)
    : last.Agreement texts settings name := by
  have kept := told.agreement agreement legally
  rwa [ite_self] at kept

theorem Agreement.settled (agreement : server.Agreement texts settings name)
    : server.settled.Agreement texts settings name :=
  ⟨agreement.agrees, agreement.earlier⟩

theorem Agreement.isLegal (agreement : server.Agreement texts settings name)
    : server.connection.transport.IsLegal := by
  intro session member
  rcases Recorder.mem_sessions.mp member with earlier | rfl
  · exact agreement.earlier session earlier
  · obtain ⟨view, replayed, _⟩ := agreement.agrees.view
    rw [replayed]
    rfl

variable [SupervisedTransport τ]

theorem synced_cases (server : Server (Recorder τ) κ)
    (step : Documents → Except ClientError (Documents × DocumentNotice))
    : ∃ last result,
        server.synced (server.connection.sync server.documents step) = (last, result)
        ∧ Told server step last result := by
  obtain ⟨after, documents, result, written, synced⟩ :=
    server.connection.sync_cases server.documents step
  rw [written]
  cases synced with
  | unready | illegal => exact ⟨_, _, rfl, .untold rfl rfl⟩
  | unsent _ _ sent =>
      obtain ⟨journal, earlier⟩ := Recorder.send_of_error sent
      exact ⟨_, _, rfl, .untold journal earlier⟩
  | sent _ legal sent =>
      obtain ⟨journal, earlier⟩ := Recorder.send_of_ok sent
      exact ⟨_, _, rfl, .told legal journal earlier⟩

/-- Use of the connection for other messages keeps the agreement. -/
theorem Agreement.use {connection : Connection (Recorder τ) (Purpose κ)}
    (agreement : server.Agreement texts settings name)
    (used : Transport.Used Message.IsAside server.connection.transport connection.transport)
    : ({ server with connection } : Server (Recorder τ) κ).Agreement texts settings name :=
  ⟨agreement.agrees.of_replay (View.replay_of_used used),
    by rw [Recorder.earlier_of_used used]; exact agreement.earlier⟩

-----------------------------------------------------------------------------------------
-- Documents
-----------------------------------------------------------------------------------------

theorem isOk_map {α β : Type} (result : Except ClientError α) (answer : α → β)
    : (result.map answer).isOk = result.isOk := by
  cases result <;> rfl

theorem Agreement.openDocument (agreement : server.Agreement texts settings name)
    (flushed : server.IsFlushed) (serves : settings.Serves name uri) (text : String)
    : (server.openDocument uri text).1.Agreement
          (if (server.openDocument uri text).2.isOk then said texts uri text else texts)
          settings name
      ∧ (server.openDocument uri text).1.IsFlushed := by
  rw [Server.openDocument_eq]
  split
  · next ready =>
      have empty := flushed ready
      obtain ⟨last, result, written, told⟩ :=
        server.synced_cases (·.didOpen uri server.language text)
      simp only [written, isOk_map]
      refine ⟨told.agreement agreement fun stepped notice legal => ?_, told.isFlushed flushed⟩
      obtain ⟨absent, rfl, rfl⟩ := Documents.didOpen_eq_ok legal
      have agrees := agreement.agrees
      rw [empty] at agrees ⊢
      exact agrees.opened absent serves _ _
  · next unready =>
      split
      · exact ⟨agreement, flushed⟩
      · next known =>
          obtain ⟨fresh, absent⟩ := Bool.or_eq_false_iff.mp (eq_false_of_ne_true known)
          refine ⟨⟨agreement.agrees.enqueued ?_ (isQueued_eq_false_iff.mp fresh) serves,
            agreement.earlier⟩, fun ready => absurd ready unready⟩
          simpa [Table.contains] using absent

theorem Agreement.changeDocument (agreement : server.Agreement texts settings name)
    (flushed : server.IsFlushed) (uri text : String)
    : (server.changeDocument uri text).1.Agreement
          (if (server.changeDocument uri text).2.isOk then said texts uri text else texts)
          settings name
      ∧ (server.changeDocument uri text).1.IsFlushed := by
  rw [Server.changeDocument_eq]
  split
  · next waits =>
      obtain ⟨entry, present, rfl⟩ := isQueued_eq_true_iff.mp waits
      obtain ⟨_, absent, _⟩ := agreement.agrees.queued entry present
      refine ⟨⟨agreement.agrees.requeued absent, agreement.earlier⟩, fun ready => ?_⟩
      exact List.map_eq_nil_iff.mpr (flushed ready)
  · next sent =>
      obtain ⟨last, result, written, told⟩ := server.synced_cases (·.didChange uri text)
      simp only [written]
      refine ⟨told.agreement agreement fun stepped notice legal => ?_, told.isFlushed flushed⟩
      obtain ⟨document, found, rfl, rfl⟩ := Documents.didChange_eq_ok legal
      have sent := isQueued_eq_false_iff.mp (eq_false_of_ne_true sent)
      exact agreement.agrees.changed found sent

theorem Agreement.saveDocument (agreement : server.Agreement texts settings name)
    (flushed : server.IsFlushed) (uri : String) (copy : Option String)
    : (server.saveDocument uri copy).1.Agreement texts settings name
      ∧ (server.saveDocument uri copy).1.IsFlushed := by
  rw [Server.saveDocument_eq]
  split
  · exact ⟨agreement, flushed⟩
  · obtain ⟨last, result, written, told⟩ := server.synced_cases (·.didSave uri copy)
    simp only [written]
    refine ⟨told.keeps agreement fun stepped notice legal => ?_, told.isFlushed flushed⟩
    obtain ⟨document, found, rfl, rfl⟩ := Documents.didSave_eq_ok legal
    exact agreement.agrees.saved found copy

theorem Agreement.closeDocument (agreement : server.Agreement texts settings name)
    (flushed : server.IsFlushed) (uri : String)
    : (server.closeDocument uri).1.Agreement texts settings name
      ∧ (server.closeDocument uri).1.IsFlushed := by
  rw [Server.closeDocument_eq]
  split
  · refine ⟨⟨agreement.agrees.dequeued (List.filter_subset_self _), agreement.earlier⟩,
      fun ready => ?_⟩
    have empty : server.queued = [] := flushed ready
    simp [empty]
  · obtain ⟨last, result, written, told⟩ := server.synced_cases (·.didClose uri)
    simp only [written]
    refine ⟨told.keeps agreement fun stepped notice legal => ?_, told.isFlushed flushed⟩
    obtain ⟨document, found, rfl, rfl⟩ := Documents.didClose_eq_ok legal
    exact agreement.agrees.closed found

/-- Opening the documents that wait keeps the agreement, and then none waits. Induction on the
queue.
-/
theorem Agreement.flush (agreement : server.Agreement texts settings name)
    : server.flush.Agreement texts settings name ∧ server.flush.IsFlushed := by
  rw [Server.flush_eq]
  split
  · have waits := agreement.agrees.queued
    have start
        : ({ server with queued := [] } : Server (Recorder τ) κ).Agreement texts settings name :=
      ⟨agreement.agrees.dequeued (List.nil_subset _), agreement.earlier⟩
    have none : ({ server with queued := [] } : Server (Recorder τ) κ).queued = [] := rfl
    generalize { server with queued := [] } = emptied at start none
    generalize server.queued = waiting at waits
    induction waiting generalizing emptied with
    | nil => exact ⟨start, fun _ => none⟩
    | cons entry rest ih =>
        obtain ⟨before, _, serves⟩ := waits entry List.mem_cons_self
        obtain ⟨last, result, written, told⟩ :=
          emptied.synced_cases (·.didOpen entry.uri emptied.language entry.text)
        have kept : last.Agreement texts settings name := by
          refine told.keeps start fun stepped notice legal => ?_
          obtain ⟨absent, rfl, rfl⟩ := Documents.didOpen_eq_ok legal
          have agrees := start.agrees
          rw [none] at agrees ⊢
          have opened := agrees.opened absent serves emptied.language entry.text
          rwa [said_self before] at opened
        simp only [List.foldl_cons, written]
        have noneYet : last.queued = [] := by cases told <;> exact none
        exact ih last kept noneYet fun other member =>
          waits other (List.mem_cons_of_mem _ member)
  · next unready => exact ⟨agreement, fun ready => absurd ready unready⟩

-----------------------------------------------------------------------------------------
-- Sessions
-----------------------------------------------------------------------------------------

/-- A server that was only told of its session has been told nothing of documents. -/
theorem agreement_of_silent {start : Recorder τ} (journal : start.journal = [])
    (earlier : ∀ session ∈ start.earlier, (View.replay .empty session).isSome)
    (used : Transport.Used Message.IsAside start server.connection.transport)
    (unknown : server.documents = .empty) (none : server.queued = [])
    : server.Agreement texts settings name := by
  refine ⟨?_, by rw [Recorder.earlier_of_used used]; exact earlier⟩
  rw [unknown, none]
  refine Agrees.nothing.of_replay ?_
  rw [View.replay_of_used used, journal]

theorem Agreement.polled (agreement : server.Agreement texts settings name)
    : server.polled.Agreement texts settings name :=
  (agreement.use server.connection.poll_used).settled

/-- Handling messages keeps the agreement. Induction on the messages. -/
theorem Agreement.handled (agreement : server.Agreement texts settings name)
    (handled : server.Handled last)
    : last.Agreement texts settings name := by
  induction handled with
  | nothing => exact agreement
  | next _ _ ih => exact ih agreement.polled

/-- A server that was started again has been told nothing of documents, and has none. -/
theorem Agreement.restarted {transport : Recorder τ}
    (agreement : server.Agreement texts settings name)
    (started : server.restart = (transport, .ok ())) (host : Host (Recorder τ))
    (options : Option Json)
    : (server.restarted host options transport).Agreement texts settings name := by
  obtain ⟨journal, earlier⟩ := Workspace.restartTransport_of_ok started
  let connection := Workspace.withTransport server.connection.reset transport
  have used := connection.openSession_used
    (Message.opening host.processId server.rootUri options) .session
  exact agreement_of_silent journal (earlier ▸ agreement.isLegal) used rfl rfl

/-- A server that could not be started again is parted with, and its sessions can be replayed. -/
theorem Agreement.abandoned {transport : Recorder τ} {error : ClientError}
    (agreement : server.Agreement texts settings name)
    (started : server.restart = (transport, .error error))
    : (SupervisedTransport.stop transport).IsLegal := by
  rw [Recorder.IsLegal, Workspace.sessions_abandoned started]
  exact agreement.isLegal

/-- A server that was stopped is parted with, and its sessions can be replayed. -/
theorem Agreement.stopped (agreement : server.Agreement texts settings name)
    (patience : Recorder τ → Nat)
    : (server.stopped patience).IsLegal :=
  (agreement.use (Workspace.closeSession_used server.connection patience)).isLegal

omit [SupervisedTransport τ] in
/-- A transport that changes by itself keeps the agreement. -/
theorem Agreement.disturbed (agreement : server.Agreement texts settings name) (change : τ → τ)
    : (server.withTransport (Recorder.alter change server.connection.transport)).Agreement texts
        settings name :=
  ⟨agreement.agrees, agreement.earlier⟩

end Server

end LanguageClient
