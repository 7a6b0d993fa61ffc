import LanguageClient.Proofs.Diagnostic.Store
import LanguageClient.Proofs.Uri.RoundTrip
import LanguageClient.Proofs.Workspace.Queue

/-! What is done for one file leaves the documents and the diagnostics of the others as they are,
and nothing is done for a file whose path does not start at the root.
-/

namespace LanguageClient

variable {τ κ : Type} [SupervisedTransport τ]

-----------------------------------------------------------------------------------------
-- Documents of a server
-----------------------------------------------------------------------------------------

namespace Server

variable {server last : Server τ κ} {uri other text : String}

omit [SupervisedTransport τ] in
/-- What a server knows under a URI: what waits there, and the document that is open. -/
def held (server : Server τ κ) (uri : String) : List QueuedOpen × Option Document :=
  (server.queued.filter (·.uri = uri), server.documents.get? uri)

omit [SupervisedTransport τ] in
theorem filter_replaceQueued (queued : List QueuedOpen) (text : String) (apart : other ≠ uri)
    : (replaceQueued queued uri text).filter (·.uri = other)
      = queued.filter (·.uri = other) := by
  induction queued with
  | nil => rfl
  | cons entry rest ih =>
      rw [replaceQueued] at ih
      rw [replaceQueued, List.map_cons, List.filter_cons, List.filter_cons, ih]
      split
      · next same => simp [same, apart.symm]
      · rfl

/-- A step on one document leaves the others open as they are. -/
theorem held_synced {step : Documents → Except ClientError (Documents × DocumentNotice)}
    (one
      : ∀ stepped notice, step server.documents = .ok (stepped, notice) →
          stepped.get? other = server.documents.get? other)
    : (server.synced (server.connection.sync server.documents step)).1.held other
      = server.held other := by
  obtain ⟨after, documents, result, written, synced⟩ :=
    server.connection.sync_cases server.documents step
  rw [written]
  cases synced with
  | unready | illegal | unsent => rfl
  | sent _ legal => exact congrArg (Prod.mk _) (one _ _ legal)

/-- What is done for a document concerns its URI alone. -/
theorem held_acted {operation : Workspace.Operation τ κ} {outcome : Workspace.Outcome}
    (acted : Workspace.Acted uri operation server last outcome) (apart : other ≠ uri)
    : last.held other = server.held other := by
  cases acted with
  | opened =>
      rw [openDocument_eq]
      split
      · refine held_synced fun stepped notice legal => ?_
        obtain ⟨_, rfl, _⟩ := Documents.didOpen_eq_ok legal
        rw [Table.get?_insert, if_neg apart]
      · split
        · rfl
        · simp [held, List.filter_append, apart.symm]
  | changed =>
      rw [changeDocument_eq]
      split
      · rw [held, held, filter_replaceQueued _ _ apart]
      · refine held_synced fun stepped notice legal => ?_
        obtain ⟨_, _, rfl, _⟩ := Documents.didChange_eq_ok legal
        rw [Table.get?_insert, if_neg apart]
  | saved =>
      rw [saveDocument_eq]
      split
      · rfl
      · refine held_synced fun stepped notice legal => ?_
        obtain ⟨_, _, rfl, _⟩ := Documents.didSave_eq_ok legal
        rw [Table.get?_insert, if_neg apart]
  | closed =>
      rw [closeDocument_eq]
      split
      · have kept (entry : QueuedOpen)
            : (decide (entry.uri = other) && decide (entry.uri ≠ uri))
              = decide (entry.uri = other) := by
          by_cases same : entry.uri = other <;> simp [same, apart]
        rw [held, held, List.filter_filter]
        simp only [kept]
      · refine held_synced fun stepped notice legal => ?_
        obtain ⟨_, _, rfl, _⟩ := Documents.didClose_eq_ok legal
        rw [Table.get?_erase, if_neg apart]
  | asked => rfl

end Server

omit [SupervisedTransport τ] in
/-- What is known in a slot under a URI. Nothing is known where no server runs. -/
def Slot.held (slot : Slot τ κ) (uri : String) : List QueuedOpen × Option Document :=
  slot.server.elim ([], none) (·.held uri)

namespace Workspace

variable {workspace : Workspace τ κ} {operation : Operation τ κ} {first second : Path}
variable {name uri : String}

omit [SupervisedTransport τ] in
theorem held_of_absent (absent : workspace.servers.get? name = none) (uri : String)
    : (workspace.slot name).held uri = ([], none) :=
  congrArg (Option.elim · ([], none) (Server.held · uri)) absent

omit [SupervisedTransport τ] in
theorem held_of_running {server : Server τ κ} (running : workspace.servers.get? name = some server)
    (uri : String)
    : (workspace.slot name).held uri = server.held uri :=
  congrArg (Option.elim · ([], none) (Server.held · uri)) running

/-- A server that is launched knows nothing. -/
theorem Launched.held {path : Path} {server : Server τ κ}
    (start : Launched workspace name path server) (uri : String)
    : server.settled.held uri = ([], none) := by
  cases start
  rfl

theorem held_ensured {path : Path} {slot : Slot τ κ} {result : Except ClientError Unit}
    (ensured : Ensured workspace name path slot result) (uri : String)
    : slot.held uri = (workspace.slot name).held uri := by
  cases ensured with
  | running | impossible | failed => rfl
  | refused absent => exact (held_of_absent absent uri).symm
  | launched absent _ start => exact (start.held uri).trans (held_of_absent absent uri).symm

-----------------------------------------------------------------------------------------
-- Diagnostics
-----------------------------------------------------------------------------------------

omit [SupervisedTransport τ] in
theorem withServer_diagnostics {α : Type} (workspace : Workspace τ κ) (path : Path)
    (action : Server τ κ → String → Server τ κ × Except ClientError α)
    : (workspace.withServer path action).1.diagnostics = workspace.diagnostics := by
  obtain ⟨after, result, same, attended⟩ := workspace.withServer_cases path action
  rw [same]
  cases attended <;> rfl

theorem ensureServer_diagnostics (workspace : Workspace τ κ) (name : String) (path : Path)
    : (workspace.ensureServer name path).1.diagnostics = workspace.diagnostics := by
  unfold ensureServer
  split
  · rfl
  · split
    · rfl
    · split
      · rfl
      · simp only [launch]
        split
        · rfl
        · split <;> rfl

theorem openDocument_diagnostics (workspace : Workspace τ κ) (path : Path) (text : String)
    : (workspace.openDocument path text).1.diagnostics = workspace.diagnostics := by
  unfold openDocument
  split
  · rfl
  · rfl
  · next name _ _ =>
      have ensured := workspace.ensureServer_diagnostics name path
      split
      · next same => rwa [same] at ensured
      · next same =>
          rw [same] at ensured
          rw [withServer_diagnostics, ensured]

-----------------------------------------------------------------------------------------
-- Operations
-----------------------------------------------------------------------------------------

omit [SupervisedTransport τ] in
/-- What is known of a file is as before: what waits to be opened for it and what is open, whichever
server it is known to, and its diagnostics.
-/
structure SameOf (uri : String) (before after : Workspace τ κ) : Prop where
  held : ∀ name, (after.slot name).held uri = (before.slot name).held uri
  diagnostics : after.diagnostics.get? uri = before.diagnostics.get? uri

theorem held_after (about : operation.path? = some second) (apart : Uri.ofPath? second ≠ some uri)
    (name : String)
    : ((workspace.after operation).slot name).held uri = (workspace.slot name).held uri := by
  have change := workspace.slot_after operation name
  generalize (workspace.after operation).slot name = slot at change ⊢
  generalize (workspace.perform operation).2 = outcome at change
  have different {path : Path} {own : String} (same : operation.path? = some path)
      (looked : workspace.lookup path = .ok (some (name, own)))
      : uri ≠ own := by
    obtain rfl := Option.some.inj (same.symm.trans about)
    rintro rfl
    exact apart (of_lookup looked).2
  cases change with
  | apart | unserved => rfl
  | ensured | polled | stopped | undisturbed | disturbed => cases about
  | unopened _ ensured => exact held_ensured ensured uri
  | launched looked absent _ start acted =>
      have known := Server.held_acted acted (different rfl looked)
      exact (known.trans (start.held uri)).trans (held_of_absent absent uri).symm
  | acted same looked running acted =>
      have known := Server.held_acted acted (different same looked)
      exact known.trans (held_of_running running uri).symm

theorem diagnostics_after (about : operation.path? = some second)
    (apart : Uri.ofPath? second ≠ some uri)
    : (workspace.after operation).diagnostics.get? uri = workspace.diagnostics.get? uri := by
  have untouched {store : DiagnosticStore} (same : store = workspace.diagnostics)
      : store.get? uri = workspace.diagnostics.get? uri :=
    congrArg (·.get? uri) same
  cases operation with
  | openDocument path text => exact untouched (workspace.openDocument_diagnostics path text)
  | changeDocument path | saveDocument path | ask path =>
      exact untouched (workspace.withServer_diagnostics path _)
  | closeDocument path =>
      obtain rfl := Option.some.inj about
      refine (congrArg (·.get? uri)
        ((workspace.clearDiagnostics path).withServer_diagnostics path _)).trans ?_
      unfold clearDiagnostics
      split
      · next looked =>
          rw [DiagnosticStore.get?_clear, if_neg]
          rintro rfl
          exact apart (of_lookup looked).2
      · rfl
  | _ => cases about

/-- What is done for one file leaves what is known of a file with another URI as it is. -/
theorem sameOf_after (about : operation.path? = some second)
    (apart : Uri.ofPath? second ≠ some uri)
    : SameOf uri workspace (workspace.after operation) :=
  ⟨held_after about apart, diagnostics_after about apart⟩

-----------------------------------------------------------------------------------------
-- Paths that do not start at the root
-----------------------------------------------------------------------------------------

omit [SupervisedTransport τ] in
theorem lookup_of_nowhere (nowhere : Uri.ofPath? first = none)
    : workspace.lookup first = .ok none ∨ ∃ error, workspace.lookup first = .error error := by
  unfold lookup
  split
  · exact .inl rfl
  · split
    · exact .inl rfl
    · rw [nowhere]
      exact .inr ⟨_, rfl⟩

/-- Nothing is done for a file without URI. -/
theorem after_of_nowhere (about : operation.path? = some first)
    (nowhere : Uri.ofPath? first = none)
    : workspace.after operation = workspace := by
  cases operation with
  | openDocument | changeDocument | saveDocument | closeDocument | ask =>
      obtain rfl := Option.some.inj about
      rcases workspace.lookup_of_nowhere nowhere with looked | ⟨error, looked⟩ <;>
        simp only [after, perform, openDocument, changeDocument, saveDocument, closeDocument, ask,
          clearDiagnostics, withServer, looked]
  | _ => cases about

/-- A file without URI is refused where an enabled server serves it. -/
theorem refused_of_nowhere (about : operation.path? = some first)
    (nowhere : Uri.ofPath? first = none)
    (served : workspace.settings.serverForPath? first = some name)
    (enabled : workspace.disabled.contains name = false)
    : (workspace.perform operation).2.isOk = false := by
  have looked : workspace.lookup first = .error (.invalidPath first.display) := by
    rw [lookup, served]
    simp only [enabled, nowhere]
    rfl
  cases operation with
  | openDocument | changeDocument | saveDocument | closeDocument | ask =>
      obtain rfl := Option.some.inj about
      simp only [perform, openDocument, changeDocument, saveDocument, closeDocument, ask,
        clearDiagnostics, withServer, looked]
      rfl
  | _ => cases about

end Workspace

end LanguageClient
