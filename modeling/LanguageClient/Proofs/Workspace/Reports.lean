import LanguageClient.Proofs.Workspace.Invariant

/-! What a workspace reports tells when the session of a server ends: unless an event says so, the
same server still runs, and what lasts as long as its session still holds of it.
-/

namespace LanguageClient

/-- An event says that the session of a server is over, and another one may have begun. -/
def Event.Ends (event : Event) (name : String) : Prop :=
  event = .restarted name ∨ ∃ reason, event = .stopped name reason

namespace Workspace

variable {τ κ : Type}

/-- A server with a property runs under a name. -/
def HasRunning (workspace : Workspace τ κ) (name : String) (P : Server τ κ → Prop) : Prop :=
  ∃ server, workspace.servers.get? name = some server ∧ P server

/-- Some events were reported, and unless one of them ends the session of a name, a first property
of its server has led to a last one.
-/
def Lasts (name : String) (first last : Server τ κ → Prop) (before after : Workspace τ κ) : Prop :=
  ∃ reports,
    after.events = before.events ++ reports
    ∧ ((∀ event ∈ reports, ¬ event.Ends name) →
        before.HasRunning name first → after.HasRunning name last)

namespace Lasts

variable {name : String} {first middle last : Server τ κ → Prop}
variable {before between after : Workspace τ κ}

theorem of_imp (implies : ∀ server, first server → last server) (name : String)
    (workspace : Workspace τ κ)
    : Lasts name first last workspace workspace := by
  refine ⟨[], (List.append_nil _).symm, ?_⟩
  rintro _ ⟨server, running, holds⟩
  exact ⟨server, running, implies server holds⟩

theorem refl (name : String) (P : Server τ κ → Prop) (workspace : Workspace τ κ)
    : Lasts name P P workspace workspace :=
  of_imp (fun _ holds => holds) name workspace

theorem trans (one : Lasts name first middle before between)
    (two : Lasts name middle last between after)
    : Lasts name first last before after := by
  obtain ⟨early, grown, keeps⟩ := one
  obtain ⟨late, grownMore, keepsMore⟩ := two
  refine ⟨early ++ late, ?_, fun quiet running => ?_⟩
  · rw [grownMore, grown, List.append_assoc]
  · have quietEarly : ∀ event ∈ early, ¬ event.Ends name :=
      fun event member => quiet event (List.mem_append_left _ member)
    have quietLate : ∀ event ∈ late, ¬ event.Ends name :=
      fun event member => quiet event (List.mem_append_right _ member)
    exact keepsMore quietLate (keeps quietEarly running)

/-- Nothing has changed under a name. -/
theorem of_same {reports : List Event} (grown : after.events = before.events ++ reports)
    (same : after.servers.get? name = before.servers.get? name) (P : Server τ κ → Prop)
    : Lasts name P P before after := by
  refine ⟨reports, grown, ?_⟩
  rintro _ ⟨server, running, holds⟩
  exact ⟨server, same.trans running, holds⟩

/-- The end of the session was reported. -/
theorem of_ended {event : Event} (grown : after.events = before.events ++ [event])
    (ended : event.Ends name)
    : Lasts name first last before after :=
  ⟨[event], grown, fun quiet => absurd ended (quiet event (List.mem_singleton_self event))⟩

/-- Events are added to those that wait, whatever becomes of servers. -/
theorem grown (lasts : Lasts name first last before after)
    : ∃ reports, after.events = before.events ++ reports := by
  obtain ⟨reports, grown, _⟩ := lasts
  exact ⟨reports, grown⟩

end Lasts

/-- What holds of a server after a step is what lasts when it is put back. -/
theorem put_lasts [SupervisedTransport τ] {workspace : Workspace τ κ} {name : String}
    {server last : Server τ κ} {P Q : Server τ κ → Prop}
    (running : workspace.servers.get? name = some server) (keeps : P server → Q last.settled)
    : Lasts name P Q workspace (workspace.put name last) := by
  refine ⟨[], (List.append_nil _).symm, ?_⟩
  rintro _ ⟨other, same, holds⟩
  obtain rfl := Option.some.inj (running.symm.trans same)
  exact ⟨last.settled, workspace.get?_put name last, keeps holds⟩

variable [SupervisedTransport τ]

-----------------------------------------------------------------------------------------
-- Handling messages
-----------------------------------------------------------------------------------------

/-- Starting a lost server again, or giving it up, is reported. -/
theorem recover_reports {workspace : Workspace τ κ} {name : String} {lost : Server τ κ}
    (running : workspace.servers.get? name = some lost)
    : ∃ event,
        (workspace.recover name).events = workspace.events ++ [event] ∧ event.Ends name := by
  rcases started
    : restartTransport lost.connection.reset.transport
        (SupervisedTransport.attemptsLeft lost.connection.reset.transport)
    with ⟨transport, error | _⟩
  · refine ⟨.stopped name (.failed error.message), ?_, .inr ⟨_, rfl⟩⟩
    simp only [recover, running, started]
    rfl
  · refine ⟨.restarted name, ?_, .inl rfl⟩
    simp only [recover, running, started]
    rfl

/-- Unless it is reported that its session ended, handling messages of a server keeps what every
message keeps. Induction on the budget.
-/
theorem pollServer_lasts {P : Server τ κ → Prop}
    (kept : ∀ server, ¬ server.IsLost → P server → P server.polled) (workspace : Workspace τ κ)
    (name : String) (budget : Nat)
    : Lasts name P P workspace (pollServer name workspace budget).1 := by
  induction budget generalizing workspace with
  | zero => exact .refl _ _ _
  | succ budget ih =>
      cases running : workspace.servers.get? name with
      | none => simpa only [pollServer, running] using .refl _ _ _
      | some server =>
          let polled := workspace.put name { server with connection := server.connection.poll.1 }
          have handled (alive : ¬ server.IsLost) : Lasts name P P workspace polled :=
            put_lasts running (kept server alive)
          rcases pollServer_succ_cases running budget with
            ⟨_, same⟩ | ⟨alive, same | same⟩ <;> rw [same]
          · -- The server is lost, so the end of its session is reported.
            have found : polled.servers.get? name = some server.polled := workspace.get?_put name _
            obtain ⟨event, grown, ended⟩ := recover_reports found
            exact .of_ended grown ended
          · exact handled alive
          · exact (handled alive).trans (ih polled)

/-- Handling messages of one server leaves the others as they are. -/
theorem pollServer_lasts_elsewhere (P : Server τ κ → Prop) (workspace : Workspace τ κ)
    {name other : String} (apart : other ≠ name) (budget : Nat)
    : Lasts other P P workspace (pollServer name workspace budget).1 := by
  have any : Lasts name (fun _ => True) (fun _ => True) workspace _ :=
    pollServer_lasts (fun _ _ _ => trivial) workspace name budget
  obtain ⟨reports, grown⟩ := any.grown
  obtain ⟨slot, _, only⟩ := workspace.pollServer_cases name budget
  exact .of_same grown (congrArg Slot.server (only.elsewhere apart)) P

theorem flush_events (workspace : Workspace τ κ) (name : String)
    : (workspace.flush name).events = workspace.events := by
  unfold flush
  split <;> rfl

theorem flush_lasts {P Q : Server τ κ → Prop}
    (flushed : ∀ server, P server → Q server.flush.settled)
    (workspace : Workspace τ κ) (name : String)
    : Lasts name P Q workspace (workspace.flush name) := by
  refine ⟨[], by rw [flush_events, List.append_nil], ?_⟩
  rintro _ ⟨server, running, holds⟩
  refine ⟨server.flush.settled, ?_, flushed server holds⟩
  have slot := congrArg Slot.server (workspace.flush_cases name).here
  have here : (workspace.slot name).server = some server := running
  rw [Slot.flushed, here] at slot
  exact slot

theorem flush_lasts_elsewhere (P : Server τ κ → Prop) (workspace : Workspace τ κ)
    {name other : String} (apart : other ≠ name)
    : Lasts other P P workspace (workspace.flush name) := by
  have grown : (workspace.flush name).events = workspace.events ++ [] := by
    rw [flush_events, List.append_nil]
  exact .of_same grown (congrArg Slot.server ((workspace.flush_cases name).elsewhere apart)) P

omit [SupervisedTransport τ] in
/-- Looking at notifications reports events and leaves all servers as they are. -/
theorem drain_lasts (name : String) (P : Server τ κ → Prop) (workspace : Workspace τ κ)
    : Lasts name P P workspace workspace.drain := by
  have grown
      : workspace.drain.events = workspace.events ++ workspace.inbox.filterMap Notice.event? := by
    rw [drain_eq]
  exact .of_same grown (congrArg Slot.server (congrFun (drain_frame workspace).1 name)) P

section Lasting

/-- What always holds lasts. -/
theorem lasting_true
    : Server.Lasting (fun _ _ => True) (fun _ : Server τ κ => True) fun _ => True := by
  constructor <;> intros <;> trivial

variable {fair : Operation τ κ → Outcome → Prop} {calm busy : Server τ κ → Prop}

/-- Handling messages of some servers, one after the other, keeps what lasts. Induction on the
names.
-/
theorem pollNext_lasts (lasting : Server.Lasting fair calm busy) (name : String)
    (names : List String) (state : Workspace τ κ × Nat)
    : Lasts name calm calm state.1 (names.foldl pollNext state).1 := by
  induction names generalizing state with
  | nil => exact .refl _ _ _
  | cons first rest ih =>
      have step : Lasts name calm calm state.1 (pollNext state first).1 := by
        by_cases here : name = first
        · subst here
          have begun : Lasts name calm busy state.1 state.1 :=
            .of_imp (fun _ holds => lasting.begun holds) name state.1
          have handled :=
            pollServer_lasts (fun _ alive holds => lasting.polled alive holds) state.1 name state.2
          have flushed := flush_lasts (fun _ holds => lasting.flushed holds)
            (pollServer name state.1 state.2).1 name
          exact (begun.trans handled).trans flushed
        · exact (pollServer_lasts_elsewhere calm state.1 here state.2).trans
            (flush_lasts_elsewhere calm _ here)
      exact step.trans (ih _)

theorem poll_lasts (lasting : Server.Lasting fair calm busy) (workspace : Workspace τ κ)
    (name : String) (budget : Nat)
    : Lasts name calm calm workspace (workspace.poll budget).1 :=
  (pollNext_lasts lasting name workspace.servers.keys (workspace, budget)).trans
    (drain_lasts name calm _)

end Lasting

-----------------------------------------------------------------------------------------
-- Stopping servers
-----------------------------------------------------------------------------------------

/-- Stopping some servers reports the end of each. Induction on the servers. -/
theorem stopServer_foldl_events (entries : List (String × Server τ κ))
    (patience : String → τ → Nat) (workspace : Workspace τ κ)
    : (entries.foldl (stopServer patience) workspace).events
      = workspace.events ++ entries.map fun entry => .stopped entry.1 .exited := by
  induction entries generalizing workspace with
  | nil => exact (List.append_nil _).symm
  | cons entry rest ih =>
      have step : (stopServer patience workspace entry).events
          = workspace.events ++ [.stopped entry.1 .exited] := rfl
      rw [List.foldl_cons, ih, step, List.append_assoc]
      rfl

/-- Stopping all servers reports the end of each that ran. -/
theorem shutdownWithin_lasts (P : Server τ κ → Prop) (workspace : Workspace τ κ) (name : String)
    (patience : String → τ → Nat)
    : Lasts name P P workspace (workspace.shutdownWithin patience) := by
  let stopped := workspace.servers.entries.foldl (stopServer patience) workspace
  have parted : Lasts name P P workspace stopped := by
    refine ⟨_, stopServer_foldl_events _ patience workspace, ?_⟩
    rintro quiet ⟨server, running, _⟩
    have member : (name, server) ∈ workspace.servers.entries := Table.mem_entries_iff.mpr running
    exact absurd (.inr ⟨.exited, rfl⟩) (quiet _ (List.mem_map_of_mem member))
  exact parted.trans (drain_lasts name P stopped)

-----------------------------------------------------------------------------------------
-- Runs
-----------------------------------------------------------------------------------------

/-- The events that an operation reports: those that wait for the editor after it and did not
before.
-/
def reported (workspace : Workspace τ κ) (operation : Operation τ κ) : List Event :=
  (workspace.after operation).events.drop workspace.events.length

/-- The events that a run reports. -/
def reports (workspace : Workspace τ κ) : List (Operation τ κ) → List Event
  | [] => []
  | operation :: rest => workspace.reported operation ++ (workspace.after operation).reports rest

theorem Lasts.of_reported {workspace : Workspace τ κ} {operation : Operation τ κ} {name : String}
    {P Q : Server τ κ → Prop} (lasts : Lasts name P Q workspace (workspace.after operation))
    (quiet : ∀ event ∈ workspace.reported operation, ¬ event.Ends name)
    (running : workspace.HasRunning name P)
    : (workspace.after operation).HasRunning name Q := by
  obtain ⟨reports, grown, keeps⟩ := lasts
  have same : workspace.reported operation = reports := by
    rw [reported, grown, List.drop_left]
  exact keeps (same ▸ quiet) running

section Lasting

variable {fair : Operation τ κ → Outcome → Prop} {calm busy : Server τ κ → Prop}

/-- Unless an operation reports that the session of a server has ended, what lasts still holds of
this server.
-/
theorem after_lasts (lasting : Server.Lasting fair calm busy) {workspace : Workspace τ κ}
    {operation : Operation τ κ} {name : String}
    (fairly : fair operation (workspace.perform operation).2)
    (quiet : ∀ event ∈ workspace.reported operation, ¬ event.Ends name)
    (running : workspace.HasRunning name calm)
    : (workspace.after operation).HasRunning name calm := by
  obtain ⟨server, runs, holds⟩ := running
  have change := workspace.slot_after operation name
  generalize slotted : (workspace.after operation).slot name = slot at change
  generalize answered : (workspace.perform operation).2 = outcome at change fairly
  have here {last : Server τ κ} (same : slot.server = some last) (holds : calm last)
      : (workspace.after operation).HasRunning name calm :=
    ⟨last, (congrArg Slot.server slotted).trans same, holds⟩
  cases change with
  | apart => exact here runs holds
  | ensured ensured =>
      cases ensured with
      | running => exact here runs holds
      | impossible absent | failed absent | refused absent | launched absent =>
          exact nomatch runs.symm.trans absent
  | unopened _ ensured =>
      cases ensured with
      | impossible absent | failed absent | refused absent =>
          exact nomatch runs.symm.trans absent
  | launched _ absent | unserved _ _ absent | undisturbed absent =>
      exact nomatch runs.symm.trans absent
  | acted about looked found acted =>
      obtain rfl := Option.some.inj (runs.symm.trans found)
      obtain ⟨_, located⟩ := of_lookup looked
      exact here rfl (lasting.acted fairly about located acted holds)
  | @polled budget =>
      exact (poll_lasts lasting workspace name budget).of_reported quiet ⟨server, runs, holds⟩
  | @stopped patience =>
      exact (shutdownWithin_lasts calm workspace name patience).of_reported quiet
        ⟨server, runs, holds⟩
  | disturbed found =>
      obtain rfl := Option.some.inj (runs.symm.trans found)
      exact here rfl (lasting.disturbed fairly holds)

/-- Unless a run reports that the session of a server has ended, what lasts still holds of this
server after it. Induction on the operations.
-/
theorem run_lasts (lasting : Server.Lasting fair calm busy) {workspace : Workspace τ κ}
    {operations : List (Operation τ κ)} {name : String}
    (fairly : ∀ entry ∈ workspace.history operations, fair entry.1 entry.2)
    (quiet : ∀ event ∈ workspace.reports operations, ¬ event.Ends name)
    (running : workspace.HasRunning name calm)
    : (workspace.run operations).HasRunning name calm := by
  induction operations generalizing workspace with
  | nil => exact running
  | cons operation rest ih =>
      have still : (workspace.after operation).HasRunning name calm := by
        refine after_lasts lasting (fairly _ List.mem_cons_self) ?_ running
        intro event member
        exact quiet event (List.mem_append_left _ member)
      refine ih (fun entry member => ?_) (fun event member => ?_) still
      · exact fairly entry (List.mem_cons_of_mem _ member)
      · exact quiet event (List.mem_append_right _ member)

end Lasting

-----------------------------------------------------------------------------------------
-- What the editor is told
-----------------------------------------------------------------------------------------

/-- The events that an operation tells the editor. -/
def Outcome.events : Outcome → List Event
  | .told events => events
  | _ => []

/-- The events that a run tells the editor. -/
def told (workspace : Workspace τ κ) (operations : List (Operation τ κ)) : List Event :=
  (workspace.history operations).flatMap fun entry => entry.2.events

omit [SupervisedTransport τ] in
theorem withServer_events {α : Type} (workspace : Workspace τ κ) (path : Path)
    (action : Server τ κ → String → Server τ κ × Except ClientError α)
    : (workspace.withServer path action).1.events = workspace.events := by
  obtain ⟨after, result, same, attended⟩ := workspace.withServer_cases path action
  rw [same]
  cases attended <;> rfl

theorem ensureServer_events (workspace : Workspace τ κ) (name : String) (path : Path)
    : ∃ reports, (workspace.ensureServer name path).1.events = workspace.events ++ reports := by
  unfold ensureServer
  split
  · exact ⟨[], (List.append_nil _).symm⟩
  · split
    · exact ⟨[], (List.append_nil _).symm⟩
    · split
      · exact ⟨[], (List.append_nil _).symm⟩
      · unfold launch
        simp only
        split
        · exact ⟨_, rfl⟩
        · split
          · exact ⟨[], (List.append_nil _).symm⟩
          · exact ⟨_, rfl⟩

theorem openDocument_events (workspace : Workspace τ κ) (path : Path) (text : String)
    : ∃ reports, (workspace.openDocument path text).1.events = workspace.events ++ reports := by
  unfold openDocument
  split
  · exact ⟨[], (List.append_nil _).symm⟩
  · exact ⟨[], (List.append_nil _).symm⟩
  · next name _ _ =>
      obtain ⟨reports, grown⟩ := workspace.ensureServer_events name path
      split
      · next same => exact ⟨reports, by rw [← grown, same]⟩
      · next same => exact ⟨reports, by rw [withServer_events, ← grown, same]⟩

/-- An operation tells events or adds to those that wait. -/
theorem after_events (workspace : Workspace τ κ) (operation : Operation τ κ)
    : (workspace.perform operation).2.events ++ (workspace.after operation).events
      = workspace.events ++ workspace.reported operation := by
  have of_grown {reports : List Event}
      (grown : (workspace.after operation).events = workspace.events ++ reports)
      : (workspace.after operation).events = workspace.events ++ workspace.reported operation := by
    rw [reported, grown, List.drop_left]
  have of_same (same : (workspace.after operation).events = workspace.events)
      : (workspace.after operation).events = workspace.events ++ workspace.reported operation :=
    of_grown (same.trans (List.append_nil _).symm)
  cases operation with
  | takeEvents => simp [perform, after, takeEvents, Outcome.events, reported]
  | ensureServer name path =>
      obtain ⟨_, grown⟩ := workspace.ensureServer_events name path
      exact of_grown grown
  | openDocument path text =>
      obtain ⟨_, grown⟩ := workspace.openDocument_events path text
      exact of_grown grown
  | changeDocument path text => exact of_same (workspace.withServer_events path _)
  | saveDocument path text => exact of_same (workspace.withServer_events path _)
  | ask path question ticket => exact of_same (workspace.withServer_events path _)
  | closeDocument path =>
      refine of_same ((withServer_events _ path _).trans ?_)
      unfold clearDiagnostics
      split <;> rfl
  | poll budget =>
      obtain ⟨_, grown⟩ := (poll_lasts lasting_true workspace "" budget).grown
      exact of_grown grown
  | shutdown patience =>
      obtain ⟨_, grown⟩ := (shutdownWithin_lasts (fun _ => True) workspace "" patience).grown
      exact of_grown grown
  | rehost host => exact of_same rfl
  | disturb name change =>
      refine of_same ?_
      change (workspace.disturb name change).events = _
      unfold disturb
      split <;> rfl

/-- What is reported is told once, in the same order, as far as it does not wait still. Induction on
the operations.
-/
theorem told_append_events (workspace : Workspace τ κ) (operations : List (Operation τ κ))
    : workspace.told operations ++ (workspace.run operations).events
      = workspace.events ++ workspace.reports operations := by
  induction operations generalizing workspace with
  | nil => simp [told, history, reports, run]
  | cons operation rest ih =>
      have later := ih (workspace.after operation)
      have here := workspace.after_events operation
      calc workspace.told (operation :: rest) ++ (workspace.run (operation :: rest)).events
          = (workspace.perform operation).2.events
              ++ ((workspace.after operation).told rest
                ++ ((workspace.after operation).run rest).events) := by
            rw [← List.append_assoc]
            rfl
        _ = ((workspace.perform operation).2.events ++ (workspace.after operation).events)
              ++ (workspace.after operation).reports rest := by
            rw [later, List.append_assoc]
        _ = workspace.events ++ workspace.reports (operation :: rest) := by
            rw [here, List.append_assoc]
            rfl

end Workspace

end LanguageClient
