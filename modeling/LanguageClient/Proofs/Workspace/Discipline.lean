import LanguageClient.Proofs.Workspace.Parts
import LanguageClient.Proofs.Workspace.Recorded
import LanguageClient.Proofs.Workspace.Reports

/-! Servers are launched only where a document is opened or somebody makes sure of them, and those
that were given up are left alone: each is reported once, when it is disabled, and from then on
nothing is done for the files that it serves.
-/

namespace LanguageClient

/-- An event says that a server was given up. -/
def Event.isFailureOf (name : String) : Event → Bool
  | .stopped server (.failed _) => server = name
  | _ => false

namespace Workspace

variable {τ κ : Type}

-----------------------------------------------------------------------------------------
-- Whatever the editor does
-----------------------------------------------------------------------------------------

/-- Use the connection of the server that serves a file, in any way. -/
def attend {α : Type} (workspace : Workspace τ κ) (path : Path)
    (use
      : Connection τ (Purpose κ) → String → Connection τ (Purpose κ) × Except ClientError α)
    : Workspace τ κ × Except ClientError (Option α) :=
  workspace.withServer path fun server uri =>
    ({ server with connection := (use server.connection uri).1 }, (use server.connection uri).2)

/-- Asking a question is one use of a connection. -/
theorem ask_eq_attend [SupervisedTransport τ] (workspace : Workspace τ κ) (path : Path)
    (question : Question) (ticket : κ)
    : workspace.ask path question ticket
      = workspace.attend path fun connection uri =>
          connection.ask uri question (.question question.topic ticket) :=
  rfl

/-- What an editor can do at all: the operations of a workspace, and whatever it likes with the
connection of a server.
-/
inductive Move (τ κ : Type) where
  | operation (operation : Operation τ κ)
  | attend (path : Path)
    (use
      : Connection τ (Purpose κ) → String → Connection τ (Purpose κ) × Except ClientError Unit)

/-- The workspace after a move. -/
def moved [SupervisedTransport τ] (workspace : Workspace τ κ) : Move τ κ → Workspace τ κ
  | .operation operation => workspace.after operation
  | .attend path use => (workspace.attend path use).1

/-- The workspace after some moves. -/
def course [SupervisedTransport τ] (workspace : Workspace τ κ) (moves : List (Move τ κ))
    : Workspace τ κ :=
  moves.foldl moved workspace

/-- The events that some moves report: after each of them those that wait for the editor and did not
before.
-/
def announced [SupervisedTransport τ] (workspace : Workspace τ κ) : List (Move τ κ) → List Event
  | [] => []
  | move :: rest =>
      (workspace.moved move).events.drop workspace.events.length
        ++ (workspace.moved move).announced rest

/-- A move may launch a server: somebody makes sure of it, or opens a document that it serves. -/
def Move.MayLaunch (settings : Settings) (name : String) : Move τ κ → Prop
  | .operation (.ensureServer other _) => other = name
  | .operation (.openDocument path _) => settings.serverForPath? path = some name
  | _ => False

/-- Nothing is done for a file: no document is opened, changed, saved or closed, and no connection
used, and that is no failure.
-/
structure Ignores [SupervisedTransport τ] (workspace : Workspace τ κ) (path : Path) : Prop where
  opening : ∀ text, workspace.openDocument path text = (workspace, .ok none)
  changing : ∀ text, workspace.changeDocument path text = (workspace, .ok none)
  saving : ∀ text, workspace.saveDocument path text = (workspace, .ok ())
  closing : workspace.closeDocument path = (workspace, .ok ())
  attending
    : ∀ {α : Type}
        (use
          : Connection τ (Purpose κ) → String → Connection τ (Purpose κ) × Except ClientError α),
        workspace.attend path use = (workspace, .ok none)

theorem lookup_of_disabled {workspace : Workspace τ κ} {name : String} {path : Path}
    (disabled : workspace.disabled.contains name = true)
    (served : workspace.settings.serverForPath? path = some name)
    : workspace.lookup path = .ok none := by
  simp only [lookup, served, disabled, if_true]

/-- Nothing is done for the files of a server that was given up. -/
theorem ignores_of_disabled [SupervisedTransport τ] {workspace : Workspace τ κ} {name : String}
    {path : Path}
    (disabled : workspace.disabled.contains name = true)
    (served : workspace.settings.serverForPath? path = some name)
    : workspace.Ignores path := by
  have looked := lookup_of_disabled disabled served
  have cleared : workspace.clearDiagnostics path = workspace := by
    simp only [clearDiagnostics, looked]
  refine ⟨fun text => ?_, fun text => ?_, fun text => ?_, ?_, fun use => ?_⟩
  · simp only [openDocument, looked]
  · simp only [changeDocument, withServer, looked]
  · simp only [saveDocument, withServer, looked]
    rfl
  · simp only [closeDocument, cleared, withServer, looked]
    rfl
  · simp only [attend, withServer, looked]

-----------------------------------------------------------------------------------------
-- Servers that are given up
-----------------------------------------------------------------------------------------

/-- No server that runs is disabled. -/
def IsExclusive (workspace : Workspace τ κ) : Prop :=
  ∀ name, workspace.servers.contains name = true → workspace.disabled.contains name = false

/-- How often a server was given up: once if it is disabled, and else never. -/
def failures (workspace : Workspace τ κ) (name : String) : Nat :=
  if workspace.disabled.contains name then 1 else 0

/-- Some events were reported, and servers given up as often as they tell. -/
structure Tallied (before after : Workspace τ κ) (reports : List Event) : Prop where
  exclusive : after.IsExclusive
  grown : after.events = before.events ++ reports
  tally
    : ∀ name,
        reports.countP (Event.isFailureOf name) + before.failures name = after.failures name

/-- What was reported between two workspaces tells which servers were given up. -/
def Tallies (before after : Workspace τ κ) : Prop :=
  ∃ reports, Tallied before after reports

namespace Tallies

variable {before after last : Workspace τ κ}

theorem refl {workspace : Workspace τ κ} (exclusive : workspace.IsExclusive)
    : Tallies workspace workspace :=
  ⟨[], exclusive, (List.append_nil _).symm, fun _ => by simp⟩

/-- No server is given up, and only events that tell of none are reported. -/
theorem keep (tallies : Tallies before after) {reports : List Event}
    (exclusive : last.IsExclusive) (disabled : last.disabled = after.disabled)
    (grown : last.events = after.events ++ reports)
    (quiet : ∀ name, ∀ event ∈ reports, event.isFailureOf name = false)
    : Tallies before last := by
  obtain ⟨earlier, _, first, tally⟩ := tallies
  refine ⟨earlier ++ reports, exclusive, by rw [grown, first, List.append_assoc], fun name => ?_⟩
  have none : reports.countP (Event.isFailureOf name) = 0 := by
    refine List.countP_eq_zero.mpr fun event member => ?_
    simp [quiet name event member]
  have same : last.failures name = after.failures name := by rw [failures, disabled, failures]
  rw [List.countP_append, none, same, Nat.add_zero, tally name]

theorem exclusive (tallies : Tallies before after) : after.IsExclusive := by
  obtain ⟨_, tallied⟩ := tallies
  exact tallied.exclusive

/-- A server is put back, or put where none may not run. -/
theorem put (tallies : Tallies before after) {name : String}
    (enabled : after.disabled.contains name = false) (server : Server τ κ)
    : Tallies before (after.put name server) := by
  refine tallies.keep (fun other runs => ?_) rfl (List.append_nil _).symm (by simp)
  change after.disabled.contains other = false
  by_cases same : other = name
  · rw [same]
    exact enabled
  · refine tallies.exclusive other ?_
    change (after.servers.insert name _).contains other = true at runs
    rwa [Table.contains, Table.get?_insert, if_neg same] at runs

theorem release (tallies : Tallies before after) (name : String)
    (connection : Connection τ (Purpose κ))
    : Tallies before (after.release name connection) := by
  refine tallies.keep (fun other runs => ?_) rfl (List.append_nil _).symm (by simp)
  refine tallies.exclusive other ?_
  change (after.servers.erase name).contains other = true at runs
  rw [Table.contains, Table.get?_erase] at runs
  split at runs
  · cases runs
  · exact runs

theorem report (tallies : Tallies before after) {event : Event}
    (quiet : ∀ name, event.isFailureOf name = false)
    : Tallies before (after.report event) := by
  refine tallies.keep tallies.exclusive rfl rfl fun name other member => ?_
  rw [List.mem_singleton.mp member]
  exact quiet name

/-- A server that does not run is given up, and that is reported. -/
theorem disable (tallies : Tallies before after) {name : String}
    (absent : after.servers.contains name = false)
    (enabled : after.disabled.contains name = false) (reason : String)
    : Tallies before (after.disable name reason) := by
  obtain ⟨earlier, exclusive, first, tally⟩ := tallies
  let event : Event := .stopped name (.failed reason)
  refine ⟨earlier ++ [event], fun other runs => ?_, ?_, fun other => ?_⟩
  · have runs : after.servers.contains other = true := runs
    have apart : other ≠ name := by
      rintro rfl
      exact nomatch absent.symm.trans runs
    have still := exclusive other runs
    simpa [Workspace.disable, Workspace.report, apart] using still
  · change after.events ++ [event] = _
    rw [first, List.append_assoc]
  · have before := tally other
    rw [List.countP_append, List.countP_singleton]
    by_cases same : other = name
    · subst same
      have none : after.failures other = 0 := by rw [failures, enabled]; rfl
      have once : (after.disable other reason).failures other = 1 := by
        simp [failures, Workspace.disable, Workspace.report]
      have counted : event.isFailureOf other = true := by simp [event, Event.isFailureOf]
      rw [if_pos counted]
      omega
    · have still : (after.disable name reason).failures other = after.failures other := by
        simp [failures, Workspace.disable, Workspace.report, same]
      have other' : event.isFailureOf other = false := by
        simpa [event, Event.isFailureOf] using Ne.symm same
      rw [other', still]
      simpa using before

end Tallies

variable [SupervisedTransport τ] {start workspace : Workspace τ κ}

/-- Handling messages gives up servers as often as it tells. -/
theorem tallies_parts (start : Workspace τ κ) : KeptByParts (Tallies start) := by
  have enabled {workspace : Workspace τ κ} {name : String} {server : Server τ κ}
      (running : workspace.servers.get? name = some server) (tallies : Tallies start workspace)
      : workspace.disabled.contains name = false :=
    tallies.exclusive name (by simp [Table.contains, running])
  refine { put := ?put, recovered := ?recovered, noticed := ?noticed, emptied := ?emptied }
  case put => exact fun last running tallies => tallies.put (enabled running tallies) last
  case recovered =>
    intro workspace name server running tallies
    rcases recover_parts running with ⟨last, same⟩ | ⟨connection, reason, same⟩ <;> rw [same]
    · exact (tallies.put (enabled running tallies) last).report fun _ => rfl
    · have enabled := enabled running tallies
      refine (tallies.release name connection).disable ?_ enabled reason
      change (workspace.servers.erase name).contains name = false
      simp [Table.contains, Table.get?_erase]
  case noticed =>
    intro workspace notice tallies
    rw [handleNotice_eq]
    refine tallies.keep tallies.exclusive rfl rfl fun name event member => ?_
    rcases Notice.event?_cases (Option.mem_toList.mp member) with ⟨_, _, rfl⟩ | ⟨level, text, rfl⟩
    · rfl
    · rfl
  case emptied =>
    intro workspace tallies
    exact tallies.keep tallies.exclusive rfl (List.append_nil _).symm (by simp)

theorem Tallies.withServer {α : Type} (tallies : Tallies start workspace) (path : Path)
    (action : Server τ κ → String → Server τ κ × Except ClientError α)
    : Tallies start (workspace.withServer path action).1 := by
  obtain ⟨after, result, same, attended⟩ := workspace.withServer_cases path action
  rw [same]
  cases attended with
  | unknown | unrouted | absent => exact tallies
  | acted _ running => exact (tallies_parts start).put _ running tallies

/-- A server that cannot be launched is given up. -/
theorem Tallies.ensureServer (tallies : Tallies start workspace) (name : String) (path : Path)
    : Tallies start (workspace.ensureServer name path).1 := by
  unfold Workspace.ensureServer
  split
  · exact tallies
  · next absent =>
      have absent : workspace.servers.contains name = false := eq_false_of_ne_true absent
      split
      · exact tallies
      · next enabled =>
          have enabled : workspace.disabled.contains name = false := eq_false_of_ne_true enabled
          split
          · exact tallies
          · next settings _ =>
              have noted : Tallies start (workspace.attempted name settings path) :=
                tallies.keep tallies.exclusive rfl (List.append_nil _).symm (by simp)
              unfold launch
              simp only
              split
              · exact noted.disable absent enabled _
              · split
                · exact noted.put enabled _
                · refine (noted.release name _).disable ?_ enabled _
                  change (workspace.servers.erase name).contains name = false
                  simp [Table.contains, Table.get?_erase]

/-- A move gives up servers as often as it tells. -/
theorem tally_moved (exclusive : workspace.IsExclusive) (move : Move τ κ)
    : (workspace.moved move).IsExclusive
      ∧ ∀ name,
          ((workspace.moved move).events.drop workspace.events.length).countP
                (Event.isFailureOf name)
              + workspace.failures name
            = (workspace.moved move).failures name := by
  have same : Tallies workspace workspace := .refl exclusive
  have of_tallies {after : Workspace τ κ} (tallies : Tallies workspace after)
      : after.IsExclusive
        ∧ ∀ name,
            (after.events.drop workspace.events.length).countP (Event.isFailureOf name)
                + workspace.failures name
              = after.failures name := by
    obtain ⟨reports, tallied⟩ := tallies
    rw [tallied.grown, List.drop_left]
    exact ⟨tallied.exclusive, tallied.tally⟩
  have idle {after : Workspace τ κ} (servers : after.servers = workspace.servers)
      (disabled : after.disabled = workspace.disabled) (events : after.events = workspace.events)
      : Tallies workspace after := by
    refine same.keep (fun name runs => ?_) disabled (events.trans (List.append_nil _).symm) (by simp)
    rw [servers] at runs
    rw [disabled]
    exact exclusive name runs
  cases move with
  | attend path use => exact of_tallies (same.withServer path _)
  | operation operation =>
      cases operation with
      | ensureServer name path => exact of_tallies (same.ensureServer name path)
      | openDocument path text =>
          refine of_tallies ?_
          change Tallies workspace (workspace.openDocument path text).1
          unfold openDocument
          split
          · exact same
          · exact same
          · next name _ _ =>
              have ensured := same.ensureServer name path
              split
              · next made => rwa [made] at ensured
              · next made =>
                  rw [made] at ensured
                  exact ensured.withServer path _
      | changeDocument path text => exact of_tallies (same.withServer path _)
      | saveDocument path text => exact of_tallies (same.withServer path _)
      | closeDocument path =>
          refine of_tallies (Tallies.withServer ?_ path _)
          unfold clearDiagnostics
          split
          · exact idle rfl rfl rfl
          · exact same
      | ask path question ticket => exact of_tallies (same.withServer path _)
      | poll budget => exact of_tallies ((tallies_parts workspace).poll budget same)
      | takeEvents =>
          exact ⟨exclusive, fun name => by simp [moved, after, perform, takeEvents, failures]⟩
      | shutdown patience =>
          refine of_tallies ((tallies_parts workspace).shutdownWithin patience ?_ same)
          exact fun entry tallies => (tallies.release _ _).report fun _ => rfl
      | rehost host => exact of_tallies (idle rfl rfl rfl)
      | disturb name change =>
          refine of_tallies ?_
          change Tallies workspace (workspace.disturb name change)
          unfold disturb
          split
          · exact same
          · next server running =>
              refine same.keep (fun other runs => ?_) rfl (List.append_nil _).symm (by simp)
              refine exclusive other ?_
              change (workspace.servers.insert name _).contains other = true at runs
              rw [Table.contains, Table.get?_insert] at runs
              split at runs
              · next same => simp [Table.contains, same, running]
              · exact runs

/-- Over some moves servers are given up as often as it is told. Induction on the moves. -/
theorem tally_course (exclusive : workspace.IsExclusive) (moves : List (Move τ κ))
    : (workspace.course moves).IsExclusive
      ∧ ∀ name,
          (workspace.announced moves).countP (Event.isFailureOf name) + workspace.failures name
            = (workspace.course moves).failures name := by
  induction moves generalizing workspace with
  | nil => exact ⟨exclusive, fun name => Nat.zero_add _⟩
  | cons move rest ih =>
      obtain ⟨next, tally⟩ := tally_moved exclusive move
      obtain ⟨last, later⟩ := ih next
      refine ⟨last, fun name => ?_⟩
      have here := tally name
      have rest := later name
      change _ = ((workspace.moved move).course _).failures name
      rw [announced, List.countP_append]
      omega

/-- A server that was given up is never enabled again. -/
theorem disabled_course {name : String} (exclusive : workspace.IsExclusive)
    (disabled : workspace.disabled.contains name = true) (moves : List (Move τ κ))
    : (workspace.course moves).disabled.contains name = true := by
  have tally := (tally_course exclusive moves).2 name
  have once : workspace.failures name = 1 := by rw [failures, if_pos disabled]
  rw [once, failures] at tally
  split at tally
  · assumption
  · omega

-----------------------------------------------------------------------------------------
-- Servers that are launched
-----------------------------------------------------------------------------------------

/-- Some attempts to launch servers were made, each of a name that may be launched, does not run and
is not disabled.
-/
def Attempts (may : String → Prop) (before after : Workspace τ κ) : Prop :=
  ∃ launched,
    after.launches = before.launches ++ launched
    ∧ launched.length ≤ 1
    ∧ ∀ launch ∈ launched,
        may launch.server
        ∧ before.servers.contains launch.server = false
        ∧ before.disabled.contains launch.server = false

omit [SupervisedTransport τ] in
theorem Attempts.of_same {may : String → Prop} {before after : Workspace τ κ}
    (same : after.launches = before.launches)
    : Attempts may before after :=
  ⟨[], same.trans (List.append_nil _).symm, Nat.zero_le 1, fun _ none => (nomatch none)⟩

omit [SupervisedTransport τ] in
theorem Attempts.mono {may other : String → Prop} {before after last : Workspace τ κ}
    (attempts : Attempts may before after) (same : last.launches = after.launches)
    (implies : ∀ name, may name → other name)
    : Attempts other before last := by
  obtain ⟨launched, grown, once, fair⟩ := attempts
  refine ⟨launched, same.trans grown, once, fun launch member => ?_⟩
  obtain ⟨may, absent, enabled⟩ := fair launch member
  exact ⟨implies _ may, absent, enabled⟩

/-- Making sure of a server launches it if it neither runs nor is disabled. -/
theorem ensureServer_attempts (workspace : Workspace τ κ) (name : String) (path : Path)
    : Attempts (· = name) workspace (workspace.ensureServer name path).1 := by
  unfold ensureServer
  split
  · exact .of_same rfl
  · next absent =>
      split
      · exact .of_same rfl
      · next enabled =>
          split
          · exact .of_same rfl
          · next settings _ =>
              let attempt : Launch :=
                { server := name, command := settings.command
                  root := workspace.rootFor settings path }
              refine ⟨[attempt], ?_, Nat.le_refl 1, fun launch member => ?_⟩
              · unfold launch
                simp only
                split
                · rfl
                · split <;> rfl
              · obtain rfl := List.mem_singleton.mp member
                exact ⟨rfl, eq_false_of_ne_true absent, eq_false_of_ne_true enabled⟩

/-- Handling messages launches no server. -/
theorem launches_parts (start : Workspace τ κ)
    : KeptByParts fun workspace : Workspace τ κ => workspace.launches = start.launches := by
  refine { put := ?put, recovered := ?recovered, noticed := ?noticed, emptied := ?emptied }
  case put => exact fun _ _ same => same
  case recovered =>
    intro workspace name server running same
    rcases recover_parts running with ⟨last, step⟩ | ⟨connection, reason, step⟩ <;> rw [step] <;>
      exact same
  case noticed =>
    intro workspace notice same
    rw [handleNotice_eq]
    exact same
  case emptied => exact fun same => same

omit [SupervisedTransport τ] in
theorem withServer_launches {α : Type} (workspace : Workspace τ κ) (path : Path)
    (action : Server τ κ → String → Server τ κ × Except ClientError α)
    : (workspace.withServer path action).1.launches = workspace.launches := by
  obtain ⟨after, result, same, attended⟩ := workspace.withServer_cases path action
  rw [same]
  cases attended <;> rfl

/-- Opening a document launches no other server than the one that serves it. -/
theorem openDocument_attempts (workspace : Workspace τ κ) (path : Path) (text : String)
    : Attempts (fun name => workspace.settings.serverForPath? path = some name) workspace
        (workspace.openDocument path text).1 := by
  unfold openDocument
  split
  · exact .of_same rfl
  · exact .of_same rfl
  · next name uri looked =>
      obtain ⟨served, _⟩ := of_lookup looked
      have ensured := workspace.ensureServer_attempts name path
      split
      · next made =>
          rw [made] at ensured
          exact ensured.mono rfl fun _ same => same ▸ served
      · next made =>
          rw [made] at ensured
          exact ensured.mono (withServer_launches _ path _) fun _ same => same ▸ served

theorem moved_attempts (workspace : Workspace τ κ) (move : Move τ κ)
    : Attempts (fun name => move.MayLaunch workspace.settings name) workspace
        (workspace.moved move) := by
  cases move with
  | attend path use => exact .of_same (withServer_launches _ path _)
  | operation operation =>
      cases operation with
      | ensureServer name path =>
          exact (workspace.ensureServer_attempts name path).mono rfl fun _ same => same.symm
      | openDocument path text => exact workspace.openDocument_attempts path text
      | changeDocument path text | saveDocument path text | ask path question ticket =>
          exact .of_same (withServer_launches _ path _)
      | closeDocument path =>
          refine .of_same ((withServer_launches _ path _).trans ?_)
          unfold clearDiagnostics
          split <;> rfl
      | poll budget => exact .of_same ((launches_parts workspace).poll budget rfl)
      | takeEvents | rehost => exact .of_same rfl
      | shutdown patience =>
          exact .of_same ((launches_parts workspace).shutdownWithin patience (fun _ same => same) rfl)
      | disturb name change =>
          refine .of_same ?_
          change (workspace.disturb name change).launches = _
          unfold disturb
          split <;> rfl

/-- A server that was given up is not launched again. Induction on the moves. -/
theorem launches_course {name : String} (exclusive : workspace.IsExclusive)
    (disabled : workspace.disabled.contains name = true) (moves : List (Move τ κ))
    : (workspace.course moves).launches.filter (·.server = name)
      = workspace.launches.filter (·.server = name) := by
  induction moves generalizing workspace with
  | nil => rfl
  | cons move rest ih =>
      obtain ⟨launched, grown, _, fair⟩ := workspace.moved_attempts move
      have none : launched.filter (·.server = name) = [] := by
        refine List.filter_eq_nil_iff.mpr fun launch member same => ?_
        obtain ⟨_, _, enabled⟩ := fair launch member
        rw [of_decide_eq_true same, disabled] at enabled
        cases enabled
      have later :=
        ih (tally_moved exclusive move).1 (disabled_course exclusive disabled [move])
      change ((workspace.moved move).course rest).launches.filter _ = _
      rw [later, grown, List.filter_append, none, List.append_nil]

/-- Moves leave the settings as they are. -/
theorem settings_course (workspace : Workspace τ κ) (moves : List (Move τ κ))
    : (workspace.course moves).settings = workspace.settings := by
  induction moves generalizing workspace with
  | nil => rfl
  | cons move rest ih =>
      refine (ih (workspace.moved move)).trans ?_
      cases move with
      | operation operation => exact workspace.settings_after operation
      | attend path use =>
          change (workspace.withServer path _).1.settings = _
          obtain ⟨after, result, same, attended⟩ := workspace.withServer_cases path _
          rw [same]
          cases attended <;> rfl

-----------------------------------------------------------------------------------------
-- The discipline
-----------------------------------------------------------------------------------------

/-- Whatever the editor does, whatever the servers send and whatever becomes of their transports: no
server both runs and is disabled; a move launches one server at most, which neither runs nor is
disabled, and only if the editor makes sure of it or opens a document that it serves; and a server
is reported as given up once if it is disabled, and else never, so it is reported by the very move
that disables it. A disabled server stays so; it is not launched again, does not run, and the files
that it serves are ignored.
-/
theorem launch_discipline (host : Host τ) (settings : Settings) (root : Option Path)
    (moves : List (Move τ κ))
    : let start : Workspace τ κ := fresh host settings root
      let workspace := start.course moves
      (∀ name,
          ¬ (workspace.servers.contains name = true ∧ workspace.disabled.contains name = true))
      ∧ (∀ move,
          ∃ launched,
            (workspace.moved move).launches = workspace.launches ++ launched
            ∧ launched.length ≤ 1
            ∧ ∀ launch ∈ launched,
                move.MayLaunch settings launch.server
                ∧ workspace.servers.contains launch.server = false
                ∧ workspace.disabled.contains launch.server = false)
      ∧ (∀ name,
          (start.announced moves).countP (Event.isFailureOf name)
            = if workspace.disabled.contains name then 1 else 0)
      ∧ ∀ name, workspace.disabled.contains name = true → ∀ later,
          (workspace.course later).disabled.contains name = true
          ∧ (workspace.course later).servers.contains name = false
          ∧ (workspace.course later).launches.filter (·.server = name)
            = workspace.launches.filter (·.server = name)
          ∧ ∀ path, settings.serverForPath? path = some name →
              (workspace.course later).Ignores path := by
  intro start workspace
  have calm : start.IsExclusive := fun name none => (nomatch none)
  obtain ⟨exclusive, tally⟩ := tally_course calm moves
  have same : workspace.settings = settings := start.settings_course moves
  refine ⟨fun name ⟨runs, disabled⟩ => ?_, fun move => ?_, fun name => ?_, ?_⟩
  · exact nomatch (exclusive name runs).symm.trans disabled
  · have attempts := workspace.moved_attempts move
    rwa [same] at attempts
  · have none : start.failures name = 0 := rfl
    have tally := tally name
    rwa [none, Nat.add_zero] at tally
  · intro name disabled later
    have still := disabled_course exclusive disabled later
    have absent : (workspace.course later).servers.contains name = false := by
      cases runs : (workspace.course later).servers.contains name with
      | false => rfl
      | true => exact nomatch ((tally_course exclusive later).1 name runs).symm.trans still
    refine ⟨still, absent, launches_course exclusive disabled later, fun path served => ?_⟩
    refine ignores_of_disabled still ?_
    rw [settings_course, same]
    exact served

/-- A machine on which no server can be launched. -/
def bareHost : Host Channel :=
  { promptHost with launch := fun _ settings _ => .error (.notFound settings.command) }

/-- A server that cannot be launched is given up: its file is ignored also when there is a machine
that could launch it.
-/
theorem missing_server_is_given_up
    : let file := Text.bytes "/a.rs"
      let start : Workspace Channel Unit := fresh bareHost rustSettings none
      let moves : List (Move Channel Unit) := [.operation (.openDocument file "one")]
      let later : List (Move Channel Unit) :=
        [.operation (.rehost promptHost), .operation (.openDocument file "two"),
          .operation (.ensureServer "rust" file)]
      (start.course moves).disabled.contains "rust" = true
      ∧ rustSettings.serverForPath? file = some "rust"
      ∧ (start.announced moves).countP (Event.isFailureOf "rust") = 1
      ∧ ((start.course moves).course later).servers.contains "rust" = false
      ∧ ((start.course moves).course later).launches.filter (·.server = "rust")
        = [⟨"rust", "rls", none⟩]
      ∧ ((start.course moves).course later).Ignores file := by
  intro file start moves later
  have disabled : (start.course moves).disabled.contains "rust" = true := by decide +kernel
  have served : rustSettings.serverForPath? file = some "rust" := by decide +kernel
  have attempted
      : (start.course moves).launches.filter (·.server = "rust") = [⟨"rust", "rls", none⟩] := by
    decide +kernel
  obtain ⟨_, _, tally, given⟩ := launch_discipline bareHost rustSettings none moves
  obtain ⟨_, absent, launches, ignores⟩ := given "rust" disabled later
  refine ⟨disabled, served, ?_, absent, launches.trans attempted, ignores file served⟩
  exact (tally "rust").trans (if_pos disabled)

end Workspace

end LanguageClient
