import LanguageClient.Workspace.Operations

/-! What comes of looking at the notifications of servers: the diagnostics of documents are replaced,
and the editor is told. Nothing else of a workspace changes.
-/

namespace LanguageClient

namespace Notice

/-- What the editor is told of a notification: how many diagnostics it publishes for a document, or
its text. Nothing is told of other notifications, and of publications that are none.
-/
def event? (notice : Notice) : Option Event :=
  match notice.method with
  | "textDocument/publishDiagnostics" =>
      (Publication.ofJson? notice.params).map fun publication =>
        .diagnostics publication.uri publication.diagnostics.length
  | "window/logMessage" | "window/showMessage" =>
      let level := ((notice.params.get? "type").bind Json.u64?).elim .log MessageLevel.ofNumber
      let text := ((notice.params.get? "message").bind Json.string?).getD ""
      some (.message notice.listener level text)
  | _ => none

/-- What a notification publishes, if it is a publication. -/
def publication? (notice : Notice) : Option Publication :=
  if notice.method = "textDocument/publishDiagnostics" then Publication.ofJson? notice.params
  else none

/-- The diagnostics that are shown after a notification was looked at. -/
def shown (diagnostics : DiagnosticStore) (notice : Notice) : DiagnosticStore :=
  notice.publication?.elim diagnostics fun publication =>
    diagnostics.update publication.uri publication.diagnostics

/-- The editor is told of what is published, or of a message of the server that is listened to. -/
theorem event?_cases {notice : Notice} {event : Event} (told : notice.event? = some event)
    : (∃ publication,
        notice.publication? = some publication
        ∧ event = .diagnostics publication.uri publication.diagnostics.length)
      ∨ ∃ level text, event = .message notice.listener level text := by
  unfold event? at told
  split at told
  · next publishes =>
      obtain ⟨publication, read, rfl⟩ := Option.map_eq_some_iff.mp told
      exact .inl ⟨publication, (if_pos publishes).trans read, rfl⟩
  · obtain rfl := Option.some.inj told
    exact .inr ⟨_, _, rfl⟩
  · obtain rfl := Option.some.inj told
    exact .inr ⟨_, _, rfl⟩
  · exact nomatch told

end Notice

namespace Workspace

variable {τ κ : Type}

theorem handleNotice_eq (workspace : Workspace τ κ) (notice : Notice)
    : workspace.handleNotice notice
      = { workspace with
          diagnostics := notice.shown workspace.diagnostics
          events := workspace.events ++ notice.event?.toList } := by
  unfold handleNotice
  split
  · next publishes =>
      cases read : Publication.ofJson? notice.params <;>
        simp [Notice.event?, Notice.shown, Notice.publication?, publishes, read, report]
  · next logs => simp [Notice.event?, Notice.shown, Notice.publication?, logs, report]
  · next shows => simp [Notice.event?, Notice.shown, Notice.publication?, shows, report]
  · next silent _ _ => simp_all [Notice.event?, Notice.shown, Notice.publication?]

/-- Looking at all notifications looks at each, in the order in which they wait, and leaves none.
Induction on the notifications.
-/
theorem drain_eq (workspace : Workspace τ κ)
    : workspace.drain
      = { workspace with
          diagnostics := workspace.inbox.foldl Notice.shown workspace.diagnostics
          events := workspace.events ++ workspace.inbox.filterMap Notice.event?
          inbox := [] } := by
  suffices ∀ (inbox : List Notice) (start : Workspace τ κ),
      inbox.foldl handleNotice start
        = { start with
            diagnostics := inbox.foldl Notice.shown start.diagnostics
            events := start.events ++ inbox.filterMap Notice.event? } from
    this workspace.inbox { workspace with inbox := [] }
  intro inbox
  induction inbox with
  | nil =>
      intro start
      simp only [List.foldl_nil, List.filterMap_nil, List.append_nil]
  | cons notice rest ih =>
      intro start
      have told
          : (notice :: rest).filterMap Notice.event?
            = notice.event?.toList ++ rest.filterMap Notice.event? := by
        rw [List.filterMap_cons]
        cases notice.event? <;> rfl
      rw [List.foldl_cons, handleNotice_eq, ih, told, List.foldl_cons, List.append_assoc]

end Workspace

end LanguageClient
