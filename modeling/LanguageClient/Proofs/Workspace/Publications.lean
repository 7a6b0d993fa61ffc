import LanguageClient.Proofs.Workspace.Closing
import LanguageClient.Proofs.Workspace.Reading

/-! The diagnostics that a workspace shows are those published last. What servers publish is applied
in the order in which it was read, each publication once, and nothing else but closing a document
changes what is shown.
-/

namespace LanguageClient.Workspace

variable {τ κ : Type} [SupervisedTransport τ]
variable {workspace : Workspace (Recorder τ) κ} {name : String}

-----------------------------------------------------------------------------------------
-- Operations
-----------------------------------------------------------------------------------------

/-- Neither notifications that wait nor diagnostics nor reports of them have changed. -/
structure Quiet (before after : Workspace (Recorder τ) κ) : Prop where
  inbox : after.inbox = before.inbox
  diagnostics : after.diagnostics = before.diagnostics
  reports
    : after.events.filterMap Event.diagnostics? = before.events.filterMap Event.diagnostics?

omit [SupervisedTransport τ] in
theorem Quiet.trans {before middle after : Workspace (Recorder τ) κ} (one : Quiet before middle)
    (two : Quiet middle after)
    : Quiet before after :=
  ⟨two.inbox.trans one.inbox, two.diagnostics.trans one.diagnostics,
    two.reports.trans one.reports⟩

omit [SupervisedTransport τ] in
/-- Where nothing was read, nothing has changed. -/
theorem ReadFrom.quiet {ends : List Event} {after : Workspace (Recorder τ) κ}
    (read : ReadFrom name [] ends workspace after)
    : Quiet workspace after :=
  ⟨read.inbox.trans (List.append_nil _), read.diagnostics, read.reports⟩

theorem withServer_quiet {α : Type} {path : Path}
    {action : Server (Recorder τ) κ → String → Server (Recorder τ) κ × Except ClientError α}
    (attentive : ∀ name, (workspace.slot name).Runs (Server.IsAttentive name))
    (silent
      : ∀ (server : Server (Recorder τ) κ) uri name,
          server.connection.Heard name [] (action server uri).1.connection)
    : Quiet workspace (workspace.withServer path action).1 := by
  obtain ⟨after, result, same, attended⟩ := workspace.withServer_cases path action
  rw [same]
  cases attended with
  | unknown | unrouted | absent => exact ⟨rfl, rfl, rfl⟩
  | acted _ running =>
      obtain ⟨⟨_, quiet⟩, _⟩ := attentive _ _ running
      exact (ReadFrom.put running quiet (silent _ _ _)).quiet

/-- Launching a server publishes nothing, and a launch that fails is no report of diagnostics. -/
theorem launch_quiet (workspace : Workspace (Recorder τ) κ) (name : String)
    (settings : ServerSettings) (path : Path)
    : Quiet workspace (workspace.launch name settings path).1 := by
  unfold launch
  simp only
  split
  · exact ⟨rfl, rfl, by simp [disable, report, Event.diagnostics?]⟩
  · next transport _ =>
      have silent {rootUri : Option String} {connection : Connection (Recorder τ) (Purpose κ)}
          {result : Except ClientError Nat}
          (opened
            : openSession workspace.host ((Connection.fresh transport).listen name) rootUri
                settings.options
              = (connection, result))
          : workspace.inbox ++ connection.notices = workspace.inbox := by
        have nothing : connection.notices = [] := (openSession_heard opened "").notices
        rw [nothing, List.append_nil]
      split
      · next opened => exact ⟨silent opened, rfl, rfl⟩
      · next opened =>
          have inbox := silent opened
          exact ⟨inbox, rfl, by simp [disable, report, release, collect, Event.diagnostics?]⟩

theorem ensureServer_quiet (workspace : Workspace (Recorder τ) κ) (name : String) (path : Path)
    : Quiet workspace (workspace.ensureServer name path).1 := by
  unfold ensureServer
  split
  · exact ⟨rfl, rfl, rfl⟩
  · split
    · exact ⟨rfl, rfl, rfl⟩
    · split
      · exact ⟨rfl, rfl, rfl⟩
      · exact workspace.launch_quiet name _ path

theorem openDocument_quiet
    (attentive : ∀ name, (workspace.slot name).Runs (Server.IsAttentive name))
    (path : Path) (text : String)
    : Quiet workspace (workspace.openDocument path text).1 := by
  unfold openDocument
  split
  · exact ⟨rfl, rfl, rfl⟩
  · exact ⟨rfl, rfl, rfl⟩
  · next name _ _ =>
      have ensured := workspace.ensureServer_quiet name path
      have still (other : String)
          : ((workspace.after (.ensureServer name path)).slot other).Runs
              (Server.IsAttentive other) :=
        (Server.isAttentive_kept other).slot_after trivial trivial (attentive other)
      simp only [after, perform] at still
      split
      · next same => rwa [same] at ensured
      · next same =>
          rw [same] at ensured still
          refine ensured.trans (withServer_quiet still fun server uri who => ?_)
          have acted : Acted uri (.openDocument path text) server _ _ := .opened
          exact Server.acted_heard acted who

/-- An operation handles messages of servers. -/
def Operation.Reads : Operation τ κ → Prop
  | .poll _ | .shutdown _ => True
  | _ => False

/-- The bodies that an operation reads: those of each server that runs, in the order of their names,
and those of one server in the order in which it hands them out.
-/
def heard (workspace : Workspace (Recorder τ) κ) (operation : Operation (Recorder τ) κ)
    : List Bytes :=
  workspace.servers.keys.flatMap (readOf workspace (workspace.after operation))

/-- Most operations read nothing of servers that run. -/
theorem heard_of_unread {operation : Operation τ κ} (unread : ¬ operation.Reads)
    : workspace.heard operation.recorded = [] := by
  refine List.flatMap_eq_nil_iff.mpr fun name member => ?_
  obtain ⟨server, running⟩ := Table.mem_keys_iff.mp member
  have change := workspace.slot_after operation.recorded name
  suffices same : (workspace.after operation.recorded).received name = workspace.received name by
    rw [readOf, same, List.drop_length]
  have absurd_absent {P : Prop} (absent : workspace.servers.get? name = none) : P := by
    cases absent.symm.trans running
  have of_ensured {path : Path} {slot : Slot (Recorder τ) κ} {result : Except ClientError Unit}
      (ensured : Ensured workspace name path slot result)
      : slot.received = workspace.received name := by
    cases ensured with
    | running | impossible => rfl
    | failed absent | refused absent | launched absent => exact absurd_absent absent
  change Slot.received _ = _
  generalize (workspace.after operation.recorded).slot name = slot at change
  generalize (workspace.perform operation.recorded).2 = outcome at change
  generalize written : operation.recorded = recorded at change
  cases change with
  | apart | unserved | undisturbed => rfl
  | ensured ensured | unopened _ ensured => exact of_ensured ensured
  | launched _ absent => exact absurd_absent absent
  | acted _ _ runs acted =>
      obtain rfl := Option.some.inj (running.symm.trans runs)
      rw [received_of_running running]
      exact (Server.acted_heard acted "").received.trans (List.append_nil _)
  | polled | stopped => cases operation <;> first | exact absurd trivial unread | cases written
  | disturbed runs =>
      obtain rfl := Option.some.inj (running.symm.trans runs)
      rw [received_of_running running]
      cases operation <;> cases written
      rfl

omit [SupervisedTransport τ] in
/-- The document whose diagnostics an operation forgets: one that is closed, if a server that is not
disabled serves it.
-/
def cleared? (workspace : Workspace τ κ) : Operation τ κ → Option String
  | .closeDocument path =>
      match workspace.lookup path with
      | .ok (some (_, uri)) => some uri
      | _ => none
  | _ => none

/-- What happens to diagnostics by an operation: those of a document are forgotten, or what servers
publish is read.
-/
def happened (workspace : Workspace (Recorder τ) κ) (operation : Operation (Recorder τ) κ)
    : List Happening :=
  (workspace.cleared? operation).toList.map .cleared
    ++ (workspace.heard operation).filterMap Happening.ofBody?

/-- What happens to diagnostics in a run. -/
def happenings (workspace : Workspace (Recorder τ) κ)
    : List (Operation (Recorder τ) κ) → List Happening
  | [] => []
  | operation :: rest =>
      workspace.happened operation ++ (workspace.after operation).happenings rest

/-- What happens by an operation is what it changes in the store and what it reports, and no
notification waits after it.
-/
structure Applied (workspace : Workspace (Recorder τ) κ) (operation : Operation (Recorder τ) κ)
    : Prop where
  diagnostics
    : (workspace.after operation).diagnostics
      = (workspace.happened operation).foldl Happening.note workspace.diagnostics
  reports
    : (workspace.reported operation).filterMap Event.diagnostics?
      = (workspace.happened operation).filterMap Happening.report?
  inbox : (workspace.after operation).inbox = []

/-- What an operation reports of diagnostics is what it adds to the events that wait, unless it tells
them.
-/
theorem reported_of_grown {operation : Operation (Recorder τ) κ} {reports : List (String × Nat)}
    (silent : (workspace.perform operation).2.events = [])
    (grown
      : (workspace.after operation).events.filterMap Event.diagnostics?
        = workspace.events.filterMap Event.diagnostics? ++ reports)
    : (workspace.reported operation).filterMap Event.diagnostics? = reports := by
  have all := congrArg (List.filterMap Event.diagnostics?) (workspace.after_events operation)
  rw [silent, List.nil_append, grown, List.filterMap_append] at all
  exact (List.append_cancel_left all).symm

/-- Where nothing is read and no document is closed, nothing happens. -/
theorem applied_of_quiet {operation : Operation τ κ} (calm : workspace.inbox = [])
    (unread : ¬ operation.Reads) (open' : workspace.cleared? operation.recorded = none)
    (silent : (workspace.perform operation.recorded).2.events = [])
    (quiet : Quiet workspace (workspace.after operation.recorded))
    : Applied workspace operation.recorded := by
  have nothing : workspace.happened operation.recorded = [] := by
    rw [happened, open', heard_of_unread unread]
    rfl
  refine ⟨?_, ?_, quiet.inbox.trans calm⟩ <;> rw [nothing]
  · exact quiet.diagnostics
  · exact reported_of_grown silent (quiet.reports.trans (List.append_nil _).symm)

/-- What is read in turn is applied when all notifications are looked at. -/
theorem applied_of_readInTurn {operation : Operation (Recorder τ) κ}
    {read : Workspace (Recorder τ) κ} (calm : workspace.inbox = [])
    (open' : workspace.cleared? operation = none)
    (silent : (workspace.perform operation).2.events = [])
    (turns : ReadInTurn workspace.servers.keys workspace read)
    (drained : workspace.after operation = read.drain)
    : Applied workspace operation := by
  obtain ⟨applied, told, _⟩ := read.drain_published
  have happens : workspace.happened operation = read.waiting := by
    have same : readOf workspace (workspace.after operation) = readOf workspace read := by
      funext name
      simp only [readOf, received, drained, (drain_frame read).1]
    rw [happened, open', heard, same, turns.waiting, Workspace.waiting, calm]
    rfl
  refine ⟨?_, ?_, drained ▸ read.drain_events.2⟩ <;> rw [happens]
  · rw [drained, applied, turns.diagnostics]
  · exact reported_of_grown silent (by rw [drained, told, turns.reports])

/-- Closing a document forgets its diagnostics if it is found, and nothing else happens. -/
theorem closeDocument_applied
    (attentive : ∀ name, (workspace.slot name).Runs (Server.IsAttentive name))
    (calm : workspace.inbox = []) (path : Path)
    : Applied workspace (Operation.closeDocument path : Operation τ κ).recorded := by
  let operation : Operation τ κ := .closeDocument path
  obtain ⟨slots, _, _⟩ := workspace.clearDiagnostics_frame path
  have closed
      : Quiet (workspace.clearDiagnostics path) (workspace.after operation.recorded) := by
    refine withServer_quiet (by simpa only [slots] using attentive) fun server uri who => ?_
    have acted : Acted uri (.closeDocument path) server _ _ := .closed
    exact Server.acted_heard acted who
  have cleared : (workspace.clearDiagnostics path).inbox = workspace.inbox
      ∧ (workspace.clearDiagnostics path).events = workspace.events := by
    unfold clearDiagnostics
    split <;> exact ⟨rfl, rfl⟩
  have happens : workspace.happened operation.recorded
      = (workspace.cleared? operation.recorded).toList.map .cleared := by
    rw [happened, heard_of_unread id]
    exact List.append_nil _
  refine ⟨?_, ?_, (closed.inbox.trans cleared.1).trans calm⟩ <;> rw [happens]
  · refine closed.diagnostics.trans ?_
    simp only [cleared?, clearDiagnostics, operation, Operation.recorded]
    rcases workspace.lookup path with _ | _ | ⟨_, _⟩ <;> rfl
  · refine reported_of_grown rfl ?_
    rw [closed.reports, cleared.2]
    cases workspace.cleared? operation.recorded <;> exact (List.append_nil _).symm

/-- What is read by an operation is applied by it, whichever operation it is. -/
theorem after_applied (attentive : ∀ name, (workspace.slot name).Runs (Server.IsAttentive name))
    (calm : workspace.inbox = []) (operation : Operation τ κ)
    : Applied workspace operation.recorded := by
  cases operation with
  | ensureServer name path =>
      exact applied_of_quiet calm id rfl rfl (workspace.ensureServer_quiet name path)
  | openDocument path text =>
      exact applied_of_quiet calm id rfl rfl (openDocument_quiet attentive path text)
  | changeDocument path text =>
      refine applied_of_quiet calm id rfl rfl (withServer_quiet attentive fun server uri who => ?_)
      have acted : Acted uri (.changeDocument path text) server _ _ := .changed
      exact Server.acted_heard acted who
  | saveDocument path text =>
      refine applied_of_quiet calm id rfl rfl (withServer_quiet attentive fun server uri who => ?_)
      have acted : Acted uri (.saveDocument path text) server _ _ := .saved
      exact Server.acted_heard acted who
  | closeDocument path => exact closeDocument_applied attentive calm path
  | ask path question ticket =>
      refine applied_of_quiet calm id rfl rfl (withServer_quiet attentive fun server uri who => ?_)
      exact server.connection.ask_heard uri question _ who
  | poll budget =>
      have turns := pollNext_foldl_readInTurn workspace.servers.nodup_keys (workspace, budget)
        fun name _ => attentive name
      exact applied_of_readInTurn calm rfl rfl turns rfl
  | takeEvents =>
      have nothing : workspace.happened (Operation.takeEvents : Operation τ κ).recorded = [] := by
        rw [happened, heard_of_unread id]
        rfl
      refine ⟨?_, ?_, calm⟩ <;> rw [nothing]
      · rfl
      · simp [reported, after, perform, takeEvents, Operation.recorded]
  | shutdown patience =>
      have turns := stopServer_foldl_readInTurn workspace.servers.nodup_keys
        (fun entry member =>
          have running := Table.mem_entries_iff.mp member
          ⟨running, (attentive entry.1 entry.2 running).1⟩)
        fun name (recorder : Recorder τ) => patience name recorder.inner
      exact applied_of_readInTurn calm rfl rfl turns rfl
  | rehost host => exact applied_of_quiet calm id rfl rfl ⟨rfl, rfl, rfl⟩
  | disturb name change =>
      refine applied_of_quiet calm id rfl rfl ?_
      change Quiet workspace (workspace.disturb name (Recorder.alter change))
      unfold disturb
      split <;> exact ⟨rfl, rfl, rfl⟩

/-- What is read in a run is applied in it. Induction on the operations. -/
theorem run_applied (workspace : Workspace (Recorder τ) κ)
    (attentive : ∀ name, (workspace.slot name).Runs (Server.IsAttentive name))
    (calm : workspace.inbox = []) (operations : List (Operation τ κ))
    : let happenings := workspace.happenings (operations.map Operation.recorded)
      (workspace.run (operations.map Operation.recorded)).diagnostics
        = happenings.foldl Happening.note workspace.diagnostics
      ∧ (workspace.reports (operations.map Operation.recorded)).filterMap Event.diagnostics?
        = happenings.filterMap Happening.report? := by
  induction operations generalizing workspace with
  | nil => exact ⟨rfl, rfl⟩
  | cons operation rest ih =>
      obtain ⟨diagnostics, reports, inbox⟩ := after_applied attentive calm operation
      obtain ⟨later, laterReports⟩ := ih (workspace.after operation.recorded)
        (fun name => (Server.isAttentive_kept name).slot_after trivial trivial (attentive name))
        inbox
      refine ⟨?_, ?_⟩
      · simp only [List.map_cons, happenings, List.foldl_append, ← diagnostics]
        exact later
      · simp only [List.map_cons, happenings, Workspace.reports, List.filterMap_append, reports,
          laterReports]

/-- The diagnostics of a document after a run are the well-formed ones of the entries that were
published for it last, by any server, unless there are none or it was closed since. Every publication
is reported once, with the number of those entries, in the order in which they were read; and nothing
else is reported of diagnostics or changes them, whatever becomes of the servers meanwhile.
-/
theorem diagnostics_are_published_last (host : Host τ) (settings : Settings) (root : Option Path)
    (operations : List (Operation τ κ))
    : let start : Workspace (Recorder τ) κ := freshRecorded host settings root
      let happenings := start.happenings (operations.map Operation.recorded)
      (∀ uri,
          (runRecorded (κ := κ) host settings root operations).diagnostics.get? uri
            = ((happenings.reverse.find? (·.uri = uri)).map Happening.diagnostics).filter
                (! ·.isEmpty))
      ∧ (start.reports (operations.map Operation.recorded)).filterMap Event.diagnostics?
        = happenings.filterMap Happening.report? := by
  intro start happenings
  obtain ⟨diagnostics, reports⟩ :=
    start.run_applied (fun _ => Slot.runs_of_none rfl) rfl operations
  refine ⟨fun uri => ?_, reports⟩
  rw [← Happening.get?_foldl_note]
  exact congrArg (·.get? uri) diagnostics

/-- A publication that was read shows, also of a file that is not open, once its server was lost. -/
example
    : let operations : List (Operation Channel Unit) :=
        [.openDocument (Text.bytes "/a.rs") "one", .poll 9, .disturb "rust" Channel.stop, .poll 9]
      (runRecorded outspokenHost rustSettings none operations).diagnostics.get? "file:///b.rs"
        = some [unusedWarning] := by
  decide +kernel

end LanguageClient.Workspace
