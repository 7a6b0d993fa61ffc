import LanguageClient.Proofs.Workspace.Discipline
import LanguageClient.Proofs.Workspace.Publications

/-! In which order the editor is told what happens. What is read of a server is reported only when all
notifications are looked at, while the end of its session is reported at once: an operation in which
both happen reports first the end of the session, and then what was said in it.
-/

namespace LanguageClient

/-- What a notification has the editor told is not the end of a session. -/
theorem Notice.event?_not_ends {notice : Notice} {event : Event} {name : String}
    (told : notice.event? = some event)
    : ¬ event.Ends name := by
  rcases Notice.event?_cases told with ⟨_, _, rfl⟩ | ⟨level, text, rfl⟩
  · simp [Event.Ends]
  · simp [Event.Ends]

/-- A text is told under the name of the server that listens. -/
theorem Notice.listener_of_message {notice : Notice} {name text : String} {level : MessageLevel}
    (told : notice.event? = some (.message name level text))
    : notice.listener = name := by
  rcases Notice.event?_cases told with ⟨_, _, same⟩ | ⟨level, text, same⟩
  · exact nomatch same
  · exact (Event.message.inj same).1.symm

/-- What the editor is told of a body that is read of a server. -/
def Event.ofBody? (name : String) (body : Bytes) : Option Event :=
  (noticeIn? name body).bind Notice.event?

namespace Event

variable {event : Event} {name other text : String} {level : MessageLevel} {body : Bytes}

theorem not_ends_of_body (told : ofBody? name body = some event) : ¬ event.Ends other := by
  obtain ⟨_, _, told⟩ := Option.bind_eq_some_iff.mp told
  exact Notice.event?_not_ends told

theorem name_of_message (told : ofBody? name body = some (.message other level text))
    : name = other := by
  obtain ⟨notice, read, told⟩ := Option.bind_eq_some_iff.mp told
  rw [← Notice.listener_of_message told]
  unfold noticeIn? at read
  split at read
  · obtain rfl := Option.some.inj read
    rfl
  · cases read

end Event

namespace Workspace

variable {τ κ : Type} [SupervisedTransport τ]

-----------------------------------------------------------------------------------------
-- What is told of one operation
-----------------------------------------------------------------------------------------

section Operations

variable {workspace : Workspace (Recorder τ) κ} {name : String}

/-- What the editor is told of the bodies that an operation reads of a server. -/
def noticed (workspace : Workspace (Recorder τ) κ) (operation : Operation (Recorder τ) κ)
    (name : String)
    : List Event :=
  (readOf workspace (workspace.after operation) name).filterMap (Event.ofBody? name)

/-- All that an operation reads of a server is told, and before any end of a session of it. -/
def TellsInOrder (workspace : Workspace (Recorder τ) κ) (operation : Operation (Recorder τ) κ)
    (name : String)
    : Prop :=
  ∃ early late,
    workspace.reported operation = early ++ late
    ∧ (workspace.noticed operation name).Sublist early
    ∧ ∀ event ∈ early, ¬ event.Ends name

/-- Nothing that is read is the end of a session. -/
theorem noticed_not_ends {operation : Operation (Recorder τ) κ} {event : Event} {other : String}
    (member : event ∈ workspace.noticed operation name)
    : ¬ event.Ends other := by
  obtain ⟨_, _, told⟩ := List.mem_filterMap.mp member
  exact Event.not_ends_of_body told

theorem reported_of_events {operation : Operation (Recorder τ) κ} {reports : List Event}
    (grown : (workspace.after operation).events = workspace.events ++ reports)
    : workspace.reported operation = reports := by
  rw [reported, grown, List.drop_left]

/-- Making sure of a server reports nothing, or that it was given up. -/
theorem ensureServer_reports (workspace : Workspace τ κ) (name : String) (path : Path)
    : (workspace.ensureServer name path).1.events = workspace.events
      ∨ ∃ error reason,
          (workspace.ensureServer name path).2 = .error error
          ∧ (workspace.ensureServer name path).1.events
            = workspace.events ++ [.stopped name (.failed reason)]
          ∧ (workspace.ensureServer name path).1.servers.get? name = none := by
  unfold ensureServer
  split
  · exact .inl rfl
  · next absent =>
      have absent : workspace.servers.get? name = none := by
        simpa [Table.contains] using absent
      split
      · exact .inl rfl
      · split
        · exact .inl rfl
        · unfold launch
          simp only
          split
          · exact .inr ⟨_, _, rfl, rfl, absent⟩
          · split
            · exact .inl rfl
            · refine .inr ⟨_, _, rfl, rfl, ?_⟩
              change (workspace.servers.erase name).get? name = none
              rw [Table.get?_erase, if_pos rfl]

/-- Opening a document reports nothing, or that its server was given up. -/
theorem openDocument_reports (workspace : Workspace τ κ) (path : Path) (text : String)
    : (workspace.openDocument path text).1.events = workspace.events
      ∨ ∃ name reason,
          (workspace.openDocument path text).1.events
            = workspace.events ++ [.stopped name (.failed reason)]
          ∧ (workspace.openDocument path text).1.servers.get? name = none := by
  unfold openDocument
  split
  · exact .inl rfl
  · exact .inl rfl
  · next name _ _ =>
      rcases workspace.ensureServer_reports name path with
        same | ⟨error, reason, failed, grown, absent⟩
      · refine .inl ?_
        split
        · next made => rwa [made] at same
        · next made =>
            rw [made] at same
            rw [withServer_events, same]
      · refine .inr ⟨name, reason, ?_⟩
        split
        · next made =>
            rw [made] at grown absent
            exact ⟨grown, absent⟩
        · next made =>
            rw [made] at failed
            cases failed

/-- An operation that handles no messages reports at most that a server was given up, which does not
run then.
-/
theorem events_of_unread {operation : Operation τ κ} (unread : ¬ operation.Reads)
    : workspace.reported operation.recorded = []
      ∨ ∃ name reason,
          workspace.reported operation.recorded = [.stopped name (.failed reason)]
          ∧ (workspace.after operation.recorded).servers.get? name = none := by
  have of_same
      (same : (workspace.after operation.recorded).events = workspace.events)
      : workspace.reported operation.recorded = [] :=
    reported_of_events (same.trans (List.append_nil _).symm)
  cases operation with
  | poll | shutdown => exact absurd trivial unread
  | ensureServer name path =>
      rcases workspace.ensureServer_reports name path with same | ⟨_, reason, _, grown, absent⟩
      · exact .inl (of_same same)
      · exact .inr ⟨name, reason, reported_of_events grown, absent⟩
  | openDocument path text =>
      rcases workspace.openDocument_reports path text with same | ⟨name, reason, grown, absent⟩
      · exact .inl (of_same same)
      · exact .inr ⟨name, reason, reported_of_events grown, absent⟩
  | changeDocument path text => exact .inl (of_same (workspace.withServer_events path _))
  | saveDocument path text => exact .inl (of_same (workspace.withServer_events path _))
  | ask path question ticket => exact .inl (of_same (workspace.withServer_events path _))
  | closeDocument path =>
      refine .inl (of_same ((withServer_events _ path _).trans ?_))
      unfold clearDiagnostics
      split <;> rfl
  | takeEvents => exact .inl (by simp [reported, after, perform, takeEvents, Operation.recorded])
  | rehost host => exact .inl (of_same rfl)
  | disturb name change =>
      refine .inl (of_same ?_)
      change (workspace.disturb name (Recorder.alter change)).events = _
      unfold disturb
      split <;> rfl

/-- An operation reports the ends of sessions first, and then what it has read, server by server. In
a session that runs after another one has ended nothing was read yet.
-/
theorem reported_eq (attentive : ∀ name, (workspace.slot name).Runs (Server.IsAttentive name))
    (calm : workspace.inbox = []) (operation : Operation τ κ)
    : ∃ ends,
        workspace.reported operation.recorded
          = ends ++ workspace.servers.keys.flatMap (workspace.noticed operation.recorded)
        ∧ ∀ event ∈ ends,
            ∃ name,
              event.Ends name
              ∧ ((workspace.after operation.recorded).slot name).IsUnread := by
  have of_turns {read : Workspace (Recorder τ) κ}
      (turns : ReadInTurn workspace.servers.keys workspace read)
      (drained : workspace.after operation.recorded = read.drain)
      : ∃ ends,
          workspace.reported operation.recorded
            = ends ++ workspace.servers.keys.flatMap (workspace.noticed operation.recorded)
          ∧ ∀ event ∈ ends,
              ∃ name,
                event.Ends name
                ∧ ((workspace.after operation.recorded).slot name).IsUnread := by
    obtain ⟨ends, grown, ended⟩ := turns.ends
    have slots : (workspace.after operation.recorded).slot = read.slot := by
      rw [drained, (drain_frame read).1]
    have same (name : String)
        : readOf workspace (workspace.after operation.recorded) name
          = readOf workspace read name := by
      simp only [readOf, received, slots]
    have waits
        : read.inbox.filterMap Notice.event?
          = workspace.servers.keys.flatMap (workspace.noticed operation.recorded) := by
      rw [turns.inbox, calm, List.nil_append, List.filterMap_flatMap]
      refine List.flatMap_congr fun name _ => ?_
      rw [noticed, same, List.filterMap_filterMap]
      rfl
    refine ⟨ends, reported_of_events ?_, fun event member => ?_⟩
    · rw [drained, read.drain_events.1, grown, waits, List.append_assoc]
    · obtain ⟨name, _, ended, unread⟩ := ended event member
      exact ⟨name, ended, slots ▸ unread⟩
  by_cases reads : operation.Reads
  · cases operation with
    | poll budget =>
        exact of_turns
          (pollNext_foldl_readInTurn workspace.servers.nodup_keys (workspace, budget)
            fun name _ => attentive name)
          rfl
    | shutdown patience =>
        refine of_turns
          (stopServer_foldl_readInTurn workspace.servers.nodup_keys (fun entry member => ?_)
            fun name (recorder : Recorder τ) => patience name recorder.inner)
          rfl
        have running := Table.mem_entries_iff.mp member
        exact ⟨running, (attentive entry.1 entry.2 running).1⟩
    | _ => exact absurd reads id
  · have silent
        : workspace.servers.keys.flatMap (workspace.noticed operation.recorded) = [] := by
      refine List.flatMap_eq_nil_iff.mpr fun name member => ?_
      have unread := List.flatMap_eq_nil_iff.mp (workspace.heard_of_unread reads) name member
      rw [noticed, unread]
      rfl
    rcases workspace.events_of_unread reads with nothing | ⟨name, reason, reported, absent⟩
    · exact ⟨[], by rw [nothing, silent]; rfl, by simp⟩
    · refine ⟨[.stopped name (.failed reason)], by rw [reported, silent]; rfl, ?_⟩
      intro event member
      rw [List.mem_singleton.mp member]
      refine ⟨name, .inr ⟨_, rfl⟩, fun _ running => ?_⟩
      cases absent.symm.trans running

/-- What is read of a server is told in order just if nothing is told of it, or no session of it ends.
-/
theorem tellsInOrder_iff {operation : Operation (Recorder τ) κ} {ends : List Event}
    (reported
      : workspace.reported operation
        = ends ++ workspace.servers.keys.flatMap (workspace.noticed operation))
    (ended : ∀ event ∈ ends, ∃ name, event.Ends name) (runs : name ∈ workspace.servers.keys)
    : workspace.TellsInOrder operation name
      ↔ workspace.noticed operation name = []
        ∨ ∀ event ∈ workspace.reported operation, ¬ event.Ends name := by
  constructor
  · rintro ⟨early, late, split, told, quiet⟩
    rcases List.append_eq_append_iff.mp (split.symm.trans reported) with
      ⟨_, rfl, _⟩ | ⟨more, rfl, _⟩
    · -- Only ends of sessions come first, so that nothing can be told.
      refine .inl (List.eq_nil_iff_forall_not_mem.mpr fun event member => ?_)
      obtain ⟨other, ends⟩ := ended event (List.mem_append_left _ (told.subset member))
      exact noticed_not_ends member ends
    · refine .inr fun event member => ?_
      rw [reported] at member
      rcases List.mem_append.mp member with first | noticed
      · exact quiet event (List.mem_append_left _ first)
      · obtain ⟨other, _, among⟩ := List.mem_flatMap.mp noticed
        exact noticed_not_ends among
  · rintro (nothing | quiet)
    · exact ⟨[], _, rfl, by rw [nothing], by simp⟩
    · refine ⟨_, [], (List.append_nil _).symm, ?_, quiet⟩
      rw [reported]
      have told : (workspace.noticed operation name).Sublist
          (workspace.servers.keys.flatMap (workspace.noticed operation)) :=
        List.sublist_flatten_of_mem (List.mem_map_of_mem runs)
      exact told.trans (List.sublist_append_right _ _)

/-- A text is told under the name of a server that runs. -/
theorem message_runs (attentive : ∀ name, (workspace.slot name).Runs (Server.IsAttentive name))
    (calm : workspace.inbox = []) {operation : Operation τ κ} {level : MessageLevel} {text : String}
    (told : .message name level text ∈ workspace.reported operation.recorded)
    : name ∈ workspace.servers.keys := by
  obtain ⟨ends, reported, ended⟩ := reported_eq attentive calm operation
  rw [reported] at told
  rcases List.mem_append.mp told with first | noticed
  · obtain ⟨other, ends, _⟩ := ended _ first
    simp [Event.Ends] at ends
  · obtain ⟨other, runs, among⟩ := List.mem_flatMap.mp noticed
    obtain ⟨_, _, read⟩ := List.mem_filterMap.mp among
    rwa [Event.name_of_message read] at runs

end Operations

-----------------------------------------------------------------------------------------
-- Runs
-----------------------------------------------------------------------------------------

/-- What an operation leaves is what the next ones start from: servers that are attentive, no
notification that waits, and no server that both runs and is disabled.
-/
structure IsCalm (workspace : Workspace (Recorder τ) κ) : Prop where
  attentive : ∀ name, (workspace.slot name).Runs (Server.IsAttentive name)
  inbox : workspace.inbox = []
  exclusive : workspace.IsExclusive

theorem IsCalm.after {workspace : Workspace (Recorder τ) κ} (calm : workspace.IsCalm)
    (operation : Operation τ κ)
    : (workspace.after operation.recorded).IsCalm where
  attentive name :=
    (Server.isAttentive_kept name).slot_after trivial trivial (calm.attentive name)
  inbox := (after_applied calm.attentive calm.inbox operation).inbox
  exclusive := (tally_moved calm.exclusive (.operation operation.recorded)).1

/-- Induction on the operations. -/
theorem IsCalm.run {workspace : Workspace (Recorder τ) κ} (calm : workspace.IsCalm)
    (operations : List (Operation τ κ))
    : (workspace.run (operations.map Operation.recorded)).IsCalm := by
  induction operations generalizing workspace with
  | nil => exact calm
  | cons operation rest ih => exact ih (calm.after operation)

theorem isCalm_runRecorded (host : Host τ) (settings : Settings) (root : Option Path)
    (operations : List (Operation τ κ))
    : (runRecorded (κ := κ) host settings root operations).IsCalm := by
  have start : (fresh host.recorded settings root : Workspace (Recorder τ) κ).IsExclusive :=
    fun name none => (nomatch none)
  exact IsCalm.run ⟨fun _ => Slot.runs_of_none rfl, rfl, start⟩ operations

/-- Of a server that was given up no text is told any more. Induction on the operations. -/
theorem no_message_of_disabled {workspace : Workspace (Recorder τ) κ} (calm : workspace.IsCalm)
    {name : String} (disabled : workspace.disabled.contains name = true)
    (operations : List (Operation τ κ)) (level : MessageLevel) (text : String)
    : .message name level text ∉ workspace.reports (operations.map Operation.recorded) := by
  induction operations generalizing workspace with
  | nil => simp [reports]
  | cons operation rest ih =>
      intro told
      rcases List.mem_append.mp told with now | later
      · obtain ⟨server, runs⟩ :=
          Table.mem_keys_iff.mp (message_runs calm.attentive calm.inbox now)
        have enabled := calm.exclusive name (by simp [Table.contains, runs])
        cases enabled.symm.trans disabled
      · have still := disabled_course calm.exclusive disabled [.operation operation.recorded]
        exact ih (calm.after operation) still later

/-- A server that is reported as given up is disabled. -/
theorem disabled_of_reported {workspace : Workspace τ κ} (exclusive : workspace.IsExclusive)
    {operation : Operation τ κ} {name reason : String}
    (told : .stopped name (.failed reason) ∈ workspace.reported operation)
    : (workspace.after operation).disabled.contains name = true := by
  have tally := (tally_moved exclusive (.operation operation)).2 name
  have some : 0 < (workspace.reported operation).countP (Event.isFailureOf name) :=
    List.countP_pos_iff.mpr ⟨_, told, by simp [Event.isFailureOf]⟩
  change (workspace.reported operation).countP _ + _ = (workspace.after operation).failures name
    at tally
  by_contra enabled
  have none : (workspace.after operation).failures name = 0 := if_neg enabled
  omega

/-- Whatever the editor does, whatever the servers send and whatever becomes of their transports: an
operation reports the ends of sessions first, and then all that it has read in them, server by server
in the order of their names, each in the order in which it was read. So what was read of a server is
told before the end of its session, unless one operation both reads something to tell and ends the
session; then it is told after it, also when the server was given up. No later operation tells a text
of a server that was given up. What is reported is handed out once and in this order.
-/
theorem ends_are_told_first (host : Host τ) (settings : Settings) (root : Option Path)
    (operations : List (Operation τ κ)) (operation : Operation τ κ)
    : let workspace : Workspace (Recorder τ) κ := runRecorded host settings root operations
      let reported := workspace.reported operation.recorded
      (∃ ends,
          reported = ends ++ workspace.servers.keys.flatMap (workspace.noticed operation.recorded)
          ∧ ∀ event ∈ ends,
              ∃ name,
                event.Ends name
                ∧ ((workspace.after operation.recorded).slot name).IsUnread)
      ∧ (∀ name ∈ workspace.servers.keys,
          workspace.TellsInOrder operation.recorded name
          ↔ workspace.noticed operation.recorded name = []
            ∨ ∀ event ∈ reported, ¬ event.Ends name)
      ∧ (∀ name reason,
          .stopped name (.failed reason) ∈ reported →
            ∀ (later : List (Operation τ κ)) level text,
              .message name level text
                ∉ (workspace.after operation.recorded).reports (later.map Operation.recorded))
      ∧ (freshRecorded (κ := κ) host settings root).told (operations.map Operation.recorded)
          ++ workspace.events
        = (freshRecorded (κ := κ) host settings root).reports
            (operations.map Operation.recorded) := by
  intro workspace reported
  have calm : workspace.IsCalm := isCalm_runRecorded host settings root operations
  obtain ⟨ends, same, ended⟩ := reported_eq calm.attentive calm.inbox operation
  refine ⟨⟨ends, same, ended⟩, fun name runs => ?_, fun name reason told later level text => ?_, ?_⟩
  · refine tellsInOrder_iff same (fun event member => ?_) runs
    obtain ⟨name, ends, _⟩ := ended event member
    exact ⟨name, ends⟩
  · have disabled := disabled_of_reported calm.exclusive told
    exact no_message_of_disabled (calm.after operation) disabled later level text
  · exact told_append_events _ _

/-- A machine whose servers cannot be started again. -/
def brittleHost : Host Channel :=
  { promptHost with launch := fun _ _ _ => .ok (Channel.fresh 0) }

/-- A server says something and dies. -/
def lastWords : List (Operation Channel Unit) :=
  let words :=
    Message.notification "window/logMessage" <| some <|
      .object [("type", .nat 1), ("message", .str "going down")]
  [.openDocument (Text.bytes "/a.rs") "one", .disturb "rust" (·.push (.ok words.printBytes)),
    .disturb "rust" Channel.stop]

/-- What a server said before it died is told out of order. -/
theorem last_words_out_of_order
    : let workspace : Workspace (Recorder Channel) Unit :=
        runRecorded brittleHost rustSettings none lastWords
      let lost := (Operation.poll 9 : Operation Channel Unit).recorded
      let failure := Event.stopped "rust" (.failed (ClientError.tooManyRestarts 0).message)
      "rust" ∈ workspace.servers.keys
      ∧ failure ∈ workspace.reported lost
      ∧ ¬ workspace.TellsInOrder lost "rust"
      ∧ ∀ level text,
          .message "rust" level text
            ∉ (workspace.after lost).reports [(Operation.poll 9 : Operation Channel Unit).recorded]
      := by
  intro workspace lost failure
  have runs : "rust" ∈ workspace.servers.keys := by decide +kernel
  have told : failure ∈ workspace.reported lost := by decide +kernel
  have noticed : workspace.noticed lost "rust" ≠ [] := by decide +kernel
  obtain ⟨_, inOrder, silent, _⟩ := ends_are_told_first brittleHost rustSettings none lastWords
    (.poll 9 : Operation Channel Unit)
  refine ⟨runs, told, fun ordered => ?_, silent "rust" _ told [.poll 9]⟩
  rcases (inOrder "rust" runs).mp ordered with nothing | quiet
  · exact noticed nothing
  · exact quiet failure told (.inr ⟨_, rfl⟩)

/-- The last words of a server follow the report that it was given up. -/
theorem message_follows_failure
    : (fresh brittleHost rustSettings none).reports (lastWords ++ [.poll 9])
      = [.stopped "rust" (.failed (ClientError.tooManyRestarts 0).message),
          .message "rust" .error "going down"] := by
  decide +kernel

end Workspace

end LanguageClient
