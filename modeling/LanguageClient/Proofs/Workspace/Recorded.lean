import LanguageClient.Channel
import LanguageClient.Proofs.Transport.Recorder
import LanguageClient.Proofs.Workspace.SlotChange

/-! Workspaces over transports that keep journals. A run over any transports becomes a run over
recorders, in which every launch starts a journal and no operation writes into one by itself.
-/

namespace LanguageClient

variable {τ κ : Type} [SupervisedTransport τ]

/-- The machine on which every server is launched with a journal. -/
def Host.recorded (host : Host τ) : Host (Recorder τ) :=
  { host with
    launch := fun name settings root => (host.launch name settings root).map Recorder.fresh }

namespace Workspace

/-- An operation over transports with journals. -/
def Operation.recorded : Operation τ κ → Operation (Recorder τ) κ
  | .ensureServer name path => .ensureServer name path
  | .openDocument path text => .openDocument path text
  | .changeDocument path text => .changeDocument path text
  | .saveDocument path text => .saveDocument path text
  | .closeDocument path => .closeDocument path
  | .ask path question ticket => .ask path question ticket
  | .poll budget => .poll budget
  | .takeEvents => .takeEvents
  | .shutdown patience => .shutdown fun name recorder => patience name recorder.inner
  | .rehost host => .rehost host.recorded
  | .disturb name change => .disturb name (Recorder.alter change)

/-- A new workspace over transports with journals. -/
def freshRecorded (host : Host τ) (settings : Settings) (root : Option Path)
    : Workspace (Recorder τ) κ :=
  fresh host.recorded settings root

/-- The workspace after a run over transports with journals. -/
def runRecorded (host : Host τ) (settings : Settings) (root : Option Path)
    (operations : List (Operation τ κ))
    : Workspace (Recorder τ) κ :=
  (freshRecorded host settings root).run (operations.map Operation.recorded)

/-- Every server that is launched has an empty journal. -/
def LaunchesFresh (workspace : Workspace (Recorder τ) κ) : Prop :=
  ∀ name settings root recorder,
    workspace.host.launch name settings root = .ok recorder →
      recorder.journal = [] ∧ recorder.earlier = []

omit [SupervisedTransport τ] in
/-- A machine that keeps journals starts them empty. -/
theorem recorded_launch {host : Host τ} {name : String} {settings : ServerSettings}
    {root : Option Path} {recorder : Recorder τ}
    (launched : host.recorded.launch name settings root = .ok recorder)
    : recorder.journal = [] ∧ recorder.earlier = [] := by
  simp only [Host.recorded] at launched
  cases inside : host.launch name settings root with
  | error error => simp [inside, Except.map] at launched
  | ok inner =>
      simp only [inside, Except.map, Except.ok.injEq] at launched
      subst launched
      exact ⟨rfl, rfl⟩

/-- Operations leave it to the machine to launch servers with empty journals. -/
theorem LaunchesFresh.after {workspace : Workspace (Recorder τ) κ}
    (launches : workspace.LaunchesFresh) (operation : Operation τ κ)
    : (workspace.after operation.recorded).LaunchesFresh := by
  intro name settings root recorder launched
  rw [host_after] at launched
  cases operation with
  | rehost host => exact recorded_launch launched
  | _ => exact launches name settings root recorder launched

/-- A transport that was started again has a new journal, and its last one is with the others.
Induction on the attempts.
-/
theorem restartTransport_of_ok {recorder after : Recorder τ} {attempts : Nat}
    (started : restartTransport recorder attempts = (after, .ok ()))
    : after.journal = [] ∧ after.earlier = recorder.sessions := by
  induction attempts generalizing recorder with
  | zero => simp [restartTransport] at started
  | succ attempts ih =>
      simp only [restartTransport] at started
      split at started
      · next first =>
          obtain ⟨rfl, _⟩ := Prod.mk.inj started
          exact Recorder.restart_of_ok first
      · simp at started
      · next first =>
          obtain ⟨journal, earlier⟩ := Recorder.restart_of_error first
          have later := ih started
          rwa [Recorder.sessions, journal, earlier] at later

/-- A transport that could not be started again has its journals as they were. Induction on the
attempts.
-/
theorem restartTransport_of_error {recorder after : Recorder τ} {attempts : Nat}
    {error : ClientError} (started : restartTransport recorder attempts = (after, .error error))
    : after.journal = recorder.journal ∧ after.earlier = recorder.earlier := by
  induction attempts generalizing recorder with
  | zero =>
      obtain ⟨rfl, _⟩ := Prod.mk.inj started
      exact ⟨rfl, rfl⟩
  | succ attempts ih =>
      simp only [restartTransport] at started
      split at started
      · simp at started
      · next first =>
          obtain ⟨rfl, _⟩ := Prod.mk.inj started
          exact Recorder.restart_of_error first
      · next first =>
          obtain ⟨journal, earlier⟩ := Recorder.restart_of_error first
          obtain ⟨laterJournal, laterEarlier⟩ := ih started
          exact ⟨laterJournal.trans journal, laterEarlier.trans earlier⟩

/-- A server that could not be started again leaves its sessions as they were. -/
theorem sessions_abandoned {server : Server (Recorder τ) κ} {transport : Recorder τ}
    {error : ClientError} (started : server.restart = (transport, .error error))
    : (SupervisedTransport.stop transport).sessions = server.connection.transport.sessions := by
  obtain ⟨journal, earlier⟩ := restartTransport_of_error started
  change transport.earlier ++ [transport.journal] = _
  rw [journal, earlier]
  rfl

-----------------------------------------------------------------------------------------
-- A small machine
-----------------------------------------------------------------------------------------

/-- One server, for files that end in `.rs`. -/
def rustSettings : Settings :=
  Settings.standard.withServer "rust"
    { command := "rls", args := [], language := "rust", extensions := ["rs"], patterns := []
      rootMarkers := [], options := none }

/-- A machine whose servers have answered the request that opens their session. -/
def promptHost : Host Channel :=
  { launch := fun _ _ _ =>
      .ok ((Channel.fresh 1).push (.ok (Text.bytes "\x7b\"id\":0,\"result\":\x7b\x7d\x7d")))
    fileExists := fun _ => false
    processId := 1 }

end Workspace

end LanguageClient
