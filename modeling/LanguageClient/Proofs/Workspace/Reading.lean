import LanguageClient.Proofs.Workspace.Happening
import LanguageClient.Proofs.Workspace.Opening
import LanguageClient.Proofs.Workspace.Recovery

/-! What is read of the servers of a workspace. Whatever a server tells is passed on, in the order in
which it was read, also where the server is started again or parted with later on; and servers are
read one after the other.
-/

namespace LanguageClient

variable {τ κ : Type}

-----------------------------------------------------------------------------------------
-- What is read of one server
-----------------------------------------------------------------------------------------

/-- The bodies that the server of a name has handed out since it was launched; if none runs, those of
the last one.
-/
def Slot.received (slot : Slot (Recorder τ) κ) : List Bytes :=
  match slot.server with
  | some server => server.connection.transport.received
  | none => slot.released.elim [] Recorder.received

/-- The notifications of a server are told under its name, and all of them were passed on. -/
structure Server.IsAttentive (name : String) (server : Server (Recorder τ) κ) : Prop where
  listens : server.connection.listener = some name
  silent : server.connection.notices = []

/-- Nothing was read yet in the session of the server that runs, if one does. -/
def Slot.IsUnread (slot : Slot (Recorder τ) κ) : Prop :=
  ∀ server, slot.server = some server →
    server.connection.transport.journal.filterMap Traffic.body? = []

namespace Workspace

/-- The bodies that the server of a name has handed out. -/
def received (workspace : Workspace (Recorder τ) κ) (name : String) : List Bytes :=
  (workspace.slot name).received

theorem received_of_running {workspace : Workspace (Recorder τ) κ} {name : String}
    {server : Server (Recorder τ) κ} (running : workspace.servers.get? name = some server)
    : workspace.received name = server.connection.transport.received := by
  simp only [received, slot, Slot.received, running]

/-- Some bodies were read of the server of a name, and the notifications in them wait. Nothing else
has changed, as far as other servers and diagnostics are concerned, and nothing else is reported than
that sessions of this server have ended.
-/
structure ReadFrom (name : String) (bodies : List Bytes) (ends : List Event)
    (before after : Workspace (Recorder τ) κ)
    : Prop where
  received : after.received name = before.received name ++ bodies
  elsewhere : ∀ other, other ≠ name → after.slot other = before.slot other
  inbox : after.inbox = before.inbox ++ bodies.filterMap (noticeIn? name)
  diagnostics : after.diagnostics = before.diagnostics
  events : after.events = before.events ++ ends
  ended : ∀ event ∈ ends, event.Ends name

/-- The end of a session tells nothing of diagnostics. -/
theorem diagnostics?_of_ends {event : Event} {name : String} (ends : event.Ends name)
    : event.diagnostics? = none := by
  rcases ends with rfl | ⟨_, rfl⟩ <;> rfl

namespace ReadFrom

variable {name : String} {bodies more : List Bytes} {ends laterEnds : List Event}
variable {workspace middle after : Workspace (Recorder τ) κ} {server last : Server (Recorder τ) κ}
variable {connection : Connection (Recorder τ) (Purpose κ)}

theorem refl (name : String) (workspace : Workspace (Recorder τ) κ)
    : ReadFrom name [] [] workspace workspace where
  received := (List.append_nil _).symm
  elsewhere _ _ := rfl
  inbox := (List.append_nil _).symm
  diagnostics := rfl
  events := (List.append_nil _).symm
  ended := by simp

theorem trans (one : ReadFrom name bodies ends workspace middle)
    (two : ReadFrom name more laterEnds middle after)
    : ReadFrom name (bodies ++ more) (ends ++ laterEnds) workspace after where
  received := by rw [two.received, one.received, List.append_assoc]
  elsewhere other apart := (two.elsewhere other apart).trans (one.elsewhere other apart)
  inbox := by rw [two.inbox, one.inbox, List.filterMap_append, List.append_assoc]
  diagnostics := two.diagnostics.trans one.diagnostics
  events := by rw [two.events, one.events, List.append_assoc]
  ended event member := (List.mem_append.mp member).elim (one.ended event) (two.ended event)

/-- Nothing is reported of diagnostics before notifications are looked at. -/
theorem reports (read : ReadFrom name bodies ends workspace after)
    : after.events.filterMap Event.diagnostics?
      = workspace.events.filterMap Event.diagnostics? := by
  have silent : ends.filterMap Event.diagnostics? = [] :=
    List.filterMap_eq_nil_iff.mpr fun event member => diagnostics?_of_ends (read.ended event member)
  rw [read.events, List.filterMap_append, silent, List.append_nil]

variable [SupervisedTransport τ]

theorem put (running : workspace.servers.get? name = some server)
    (silent : server.connection.notices = [])
    (heard : server.connection.Heard name bodies last.connection)
    : ReadFrom name bodies [] workspace (workspace.put name last) where
  received := by
    have here := (workspace.slot_put name last name).trans (if_pos rfl)
    rw [received_of_running running, ← heard.received]
    exact congrArg Slot.received here
  elsewhere other apart := (workspace.slot_put name last other).trans (if_neg apart)
  inbox := by
    change workspace.inbox ++ last.connection.notices = _
    rw [heard.notices, silent, List.nil_append]
  diagnostics := rfl
  events := (List.append_nil _).symm
  ended := by simp

theorem release (running : workspace.servers.get? name = some server)
    (silent : server.connection.notices = [])
    (heard : server.connection.Heard name bodies connection)
    : ReadFrom name bodies [] workspace (workspace.release name connection) where
  received := by
    have here := (workspace.slot_release name connection name).trans (if_pos rfl)
    rw [received_of_running running, ← heard.received]
    exact congrArg Slot.received here
  elsewhere other apart := (workspace.slot_release name connection other).trans (if_neg apart)
  inbox := by
    change workspace.inbox ++ connection.notices = _
    rw [heard.notices, silent, List.nil_append]
  diagnostics := rfl
  events := (List.append_nil _).symm
  ended := by simp

omit [SupervisedTransport τ] in
/-- The end of the session is reported. -/
theorem report (read : ReadFrom name bodies ends workspace after) {event : Event}
    (ended : event.Ends name)
    : ReadFrom name bodies (ends ++ [event]) workspace (after.report event) where
  received := read.received
  elsewhere := read.elsewhere
  inbox := read.inbox
  diagnostics := read.diagnostics
  events := by
    change after.events ++ [event] = _
    rw [read.events, List.append_assoc]
  ended other member := by
    rcases List.mem_append.mp member with early | last
    · exact read.ended other early
    · rw [List.mem_singleton.mp last]
      exact ended

omit [SupervisedTransport τ] in
theorem disable (read : ReadFrom name bodies ends workspace after) (reason : String)
    : ReadFrom name bodies (ends ++ [.stopped name (.failed reason)]) workspace
        (after.disable name reason) := by
  have reported := read.report (.inr ⟨.failed reason, rfl⟩)
  refine { reported with received := ?_, elsewhere := fun other apart => ?_ }
  · have here := (after.slot_disable name reason name).trans (if_pos rfl)
    exact (congrArg Slot.received here).trans read.received
  · exact ((after.slot_disable name reason other).trans (if_neg apart)).trans
      (read.elsewhere other apart)

end ReadFrom

end Workspace

-----------------------------------------------------------------------------------------
-- Servers pass on what they are told
-----------------------------------------------------------------------------------------

variable [SupervisedTransport τ]

namespace Server

variable {server last : Server (Recorder τ) κ} {listener : String} {bodies : List Bytes}

/-- What is done with a server for a document receives nothing. -/
theorem acted_heard {uri : String} {operation : Workspace.Operation (Recorder τ) κ}
    {outcome : Workspace.Outcome} (acted : Workspace.Acted uri operation server last outcome)
    (listener : String)
    : server.connection.Heard listener [] last.connection := by
  rcases acted_connection acted with same | ⟨step, same⟩ | ⟨question, ticket, same⟩ <;> rw [same]
  · exact .refl listener _
  · exact server.connection.sync_heard _ step listener
  · exact server.connection.ask_heard uri question ticket listener

/-- Opening the documents that wait receives nothing. -/
theorem flush_heard (server : Server (Recorder τ) κ) (listener : String)
    : server.connection.Heard listener [] server.flush.connection :=
  flush_connection (P := fun connection => server.connection.Heard listener [] connection)
    (fun _ documents step heard => heard.trans (Connection.sync_heard _ documents step listener))
    (.refl listener _)

/-- Starting a transport again forgets nothing of what it has handed out. -/
theorem received_restart {transport : Recorder τ} {result : Except ClientError Unit}
    (started : server.restart = (transport, result))
    : transport.received = server.connection.transport.received := by
  rcases result with error | _
  · exact Recorder.received_of_same (Workspace.restartTransport_of_error started)
  · obtain ⟨journal, earlier⟩ := Workspace.restartTransport_of_ok started
    simp [Recorder.received, Recorder.sessions, journal, earlier]

omit [SupervisedTransport τ] in
/-- A session with another transport that has handed out the same is told nothing new. -/
theorem reset_heard {transport : Recorder τ}
    (same : transport.received = server.connection.transport.received) (listener : String)
    : server.connection.Heard listener []
        (Workspace.withTransport server.connection.reset transport) :=
  .of_silent same rfl rfl

/-- Opening the session of a server that is started again receives nothing. -/
theorem restarted_heard {transport : Recorder τ} {result : Except ClientError Unit}
    (started : server.restart = (transport, result)) (host : Host (Recorder τ))
    (options : Option Json) (listener : String)
    : server.connection.Heard listener []
        (Workspace.openSession host (Workspace.withTransport server.connection.reset transport)
          server.rootUri options).1 :=
  (reset_heard (received_restart started) listener).trans (Connection.openSession_heard _ _ _ _)

/-- Nothing was read yet of a server that is started again. -/
theorem restarted_unread {transport : Recorder τ}
    (started : server.restart = (transport, .ok ())) (host : Host (Recorder τ))
    (options : Option Json)
    : (server.restarted host options transport).connection.transport.journal.filterMap Traffic.body?
      = [] := by
  obtain ⟨empty, _⟩ := Workspace.restartTransport_of_ok started
  obtain ⟨_, _, _, id, result, sent, _⟩ := server.startsOver host options transport
  rcases result with error | _
  · rw [(Recorder.send_of_error sent).1, empty]
    rfl
  · rw [(Recorder.send_of_ok sent).1, empty]
    rfl

omit [SupervisedTransport τ] in
/-- What is told under a name before is told under the same one afterwards. -/
theorem IsAttentive.settle {name : String} (attentive : server.IsAttentive name)
    (heard : server.connection.Heard listener bodies last.connection)
    : last.settled.IsAttentive name :=
  ⟨heard.listener.trans attentive.listens, rfl⟩

theorem IsAttentive.polled {name : String} (attentive : server.IsAttentive name)
    : server.polled.IsAttentive name := by
  obtain ⟨bodies, heard⟩ := Connection.poll_heard attentive.listens
  let last : Server (Recorder τ) κ := { server with connection := server.connection.poll.1 }
  have heard : server.connection.Heard name bodies last.connection := heard
  exact attentive.settle heard

/-- Servers are attentive, whatever the editor does, whatever they send and whatever happens to their
transports.
-/
theorem isAttentive_kept (name : String)
    : KeptUnder (τ := Recorder τ) (κ := κ) name (fun _ => True) (fun _ _ => True)
        (IsAttentive name) (IsAttentive name) := by
  refine { acted := ?acted, disturbed := ?disturbed, begun := ?begun, polled := ?polled,
           flushed := ?flushed, launched := ?launched, restarted := ?restarted }
  case acted => exact fun _ _ _ acted attentive => attentive.settle (acted_heard acted "")
  case disturbed => exact fun _ attentive => ⟨attentive.listens, attentive.silent⟩
  case begun => exact id
  case polled => exact fun _ attentive => attentive.polled
  case flushed => exact fun attentive => attentive.settle (flush_heard _ "")
  case launched =>
    intro workspace path _ _ start
    cases start with
    | mk _ _ opened => exact ⟨(Workspace.openSession_heard opened "").listener, rfl⟩
  case restarted =>
    intro server transport host options _ started attentive
    exact attentive.polled.settle (restarted_heard started host options "")

end Server

namespace Workspace

variable {workspace : Workspace (Recorder τ) κ} {name : String} {server : Server (Recorder τ) κ}

/-- Starting a server again, or giving it up, reads nothing and is reported. -/
theorem recover_readFrom (running : workspace.servers.get? name = some server)
    (attentive : server.IsAttentive name)
    : ∃ ends, ReadFrom name [] ends workspace (workspace.recover name) := by
  rcases started : server.restart with ⟨transport, error | _⟩
  · rw [recover_of_spent running started]
    have same
        : (SupervisedTransport.stop transport).received = server.connection.transport.received := by
      rw [← Server.received_restart started]
      rfl
    exact ⟨_, (ReadFrom.release running attentive.silent (Server.reset_heard same name)).disable _⟩
  · rw [recover_of_started running started]
    have heard := Server.restarted_heard started workspace.host (workspace.options name) name
    exact ⟨_, (ReadFrom.put running attentive.silent (by exact heard)).report (.inl rfl)⟩

/-- A server that was started again is left alone for the rest of a poll, and nothing was read of it.
-/
theorem recover_unread (running : workspace.servers.get? name = some server)
    : ((workspace.recover name).slot name).flushed = (workspace.recover name).slot name
      ∧ ((workspace.recover name).slot name).IsUnread := by
  rcases workspace.recover_cases running with ⟨_, started, only⟩ | ⟨_, _, _, only⟩ <;>
    rw [only.here]
  · refine ⟨by simp only [Slot.flushed, Option.map_some, flush_restarted], ?_⟩
    rintro _ ⟨⟩
    exact Server.restarted_unread started _ _
  · refine ⟨rfl, ?_⟩
    rintro _ ⟨⟩

/-- Handling messages of a server reads of it alone, and once its session has ended, nothing more.
Induction on the budget.
-/
theorem pollServer_readFrom
    (attentive : ∀ server, workspace.servers.get? name = some server → server.IsAttentive name)
    (budget : Nat)
    : ∃ bodies ends,
        ReadFrom name bodies ends workspace (pollServer name workspace budget).1
        ∧ (ends ≠ [] →
            ((pollServer name workspace budget).1.slot name).flushed
              = (pollServer name workspace budget).1.slot name
            ∧ ((pollServer name workspace budget).1.slot name).IsUnread) := by
  induction budget generalizing workspace with
  | zero => exact ⟨[], [], .refl name workspace, absurd rfl⟩
  | succ budget ih =>
      cases running : workspace.servers.get? name with
      | none =>
          refine ⟨[], [], ?_, absurd rfl⟩
          simpa only [pollServer, running] using .refl name workspace
      | some server =>
          obtain ⟨listens, silent⟩ := attentive server running
          obtain ⟨bodies, heard⟩ := Connection.poll_heard listens
          let last : Server (Recorder τ) κ := { server with connection := server.connection.poll.1 }
          have read : ReadFrom name bodies [] workspace (workspace.put name last) :=
            .put running silent heard
          have found : (workspace.put name last).servers.get? name = some server.polled :=
            workspace.get?_put name last
          have still : server.polled.IsAttentive name := (attentive server running).polled
          rcases pollServer_succ_cases running budget with
            ⟨_, same⟩ | ⟨_, same | same⟩ <;> rw [same]
          · obtain ⟨ends, recovered⟩ := recover_readFrom found still
            exact ⟨_, _, read.trans recovered, fun _ => recover_unread found⟩
          · exact ⟨bodies, [], read, absurd rfl⟩
          · obtain ⟨more, ends, later, unread⟩ := ih fun other runs => by
              obtain rfl := Option.some.inj (found.symm.trans runs)
              exact still
            exact ⟨_, ends, read.trans later, unread⟩

theorem pollNext_readFrom {state : Workspace (Recorder τ) κ × Nat}
    (attentive : (state.1.slot name).Runs (Server.IsAttentive name))
    : ∃ bodies ends,
        ReadFrom name bodies ends state.1 (pollNext state name).1
        ∧ (ends ≠ [] → ((pollNext state name).1.slot name).IsUnread) := by
  obtain ⟨bodies, ends, read, unread⟩ :=
    pollServer_readFrom (fun server runs => (attentive server runs).1) state.2
  obtain ⟨slot, polled, only⟩ := state.1.pollServer_cases name state.2
  have still := (Server.isAttentive_kept name).slot_polled polled attentive
  rw [← only.here] at still
  have here : (pollNext state name).1.slot name
      = ((pollServer name state.1 state.2).1.slot name).flushed :=
    (flush_cases _ name).here
  refine ⟨bodies, ends, ?_, fun ended => ?_⟩
  · unfold pollNext
    cases running : (pollServer name state.1 state.2).1.servers.get? name with
    | none => simpa only [flush, running] using read
    | some server =>
        have opened : ReadFrom name [] [] (pollServer name state.1 state.2).1
            ((pollServer name state.1 state.2).1.put name server.flush) :=
          .put running (still server running).1.silent (server.flush_heard name)
        have whole := read.trans opened
        rw [List.append_nil, List.append_nil] at whole
        simpa only [flush, running] using whole
  · obtain ⟨same, unread⟩ := unread ended
    rw [here, same]
    exact unread

/-- Stopping a server reads what it says until its session is closed. -/
theorem stopServer_readFrom (running : workspace.servers.get? name = some server)
    (attentive : server.IsAttentive name) (patience : String → Recorder τ → Nat)
    : ∃ bodies,
        ReadFrom name bodies [.stopped name .exited] workspace
          (stopServer patience workspace (name, server)) := by
  obtain ⟨bodies, heard⟩ := closeSession_heard attentive.listens (patience name)
  let closed := closeSession (patience name) server.connection
  let last := withTransport closed (SupervisedTransport.stop closed.transport)
  have stopped : closed.Heard name [] last := .of_silent rfl rfl rfl
  have read := ReadFrom.release running attentive.silent (heard.trans stopped)
  exact ⟨_, read.report (.inr ⟨.exited, rfl⟩)⟩

/-- Servers were read one after the other, each once, and those whose sessions have ended not again.
-/
inductive ReadInTurn
    : List String → Workspace (Recorder τ) κ → Workspace (Recorder τ) κ → Prop
  | done {start} : ReadInTurn [] start start
  | next {first rest bodies ends before middle after} (fresh : first ∉ rest)
    (read : ReadFrom first bodies ends before middle)
    (unread : ends ≠ [] → (middle.slot first).IsUnread)
    (later : ReadInTurn rest middle after)
    : ReadInTurn (first :: rest) before after

/-- The bodies that were read of a server between two moments. -/
def readOf (before after : Workspace (Recorder τ) κ) (name : String) : List Bytes :=
  (after.received name).drop (before.received name).length

namespace ReadInTurn

omit [SupervisedTransport τ]

variable {names : List String} {before after : Workspace (Recorder τ) κ}

theorem elsewhere (turns : ReadInTurn names before after) {other : String} (apart : other ∉ names)
    : after.slot other = before.slot other := by
  induction turns with
  | done => rfl
  | next _ read _ _ ih =>
      obtain ⟨different, absent⟩ := not_or.mp (mt List.mem_cons.mpr apart)
      exact (ih absent).trans (read.elsewhere other different)

/-- What was read of the first server is read of it in all, and the rest of what was read is read of
the others.
-/
theorem readOf_next {first : String} {rest : List String} {bodies : List Bytes} {ends : List Event}
    {middle : Workspace (Recorder τ) κ} (fresh : first ∉ rest)
    (read : ReadFrom first bodies ends before middle) (later : ReadInTurn rest middle after)
    : readOf before after first = bodies
      ∧ ∀ other ∈ rest, readOf middle after other = readOf before after other := by
  have kept : after.received first = middle.received first :=
    congrArg Slot.received (later.elsewhere fresh)
  refine ⟨by rw [readOf, kept, read.received, List.drop_left], fun other member => ?_⟩
  have apart : other ≠ first := fun same => fresh (same ▸ member)
  have same : middle.received other = before.received other :=
    congrArg Slot.received (read.elsewhere other apart)
  rw [readOf, readOf, same]

/-- The notifications of all of them wait, in turn. Induction on the servers. -/
theorem inbox (turns : ReadInTurn names before after)
    : after.inbox
        = before.inbox
          ++ names.flatMap fun name => (readOf before after name).filterMap (noticeIn? name) := by
  induction turns with
  | done => exact (List.append_nil _).symm
  | next fresh read _ later ih =>
      obtain ⟨here, others⟩ := readOf_next fresh read later
      rw [ih, read.inbox, List.flatMap_cons, here, List.append_assoc,
        List.flatMap_congr fun other member => by rw [others other member]]

theorem diagnostics (turns : ReadInTurn names before after)
    : after.diagnostics = before.diagnostics := by
  induction turns with
  | done => rfl
  | next _ read _ _ ih => exact ih.trans read.diagnostics

/-- The ends of their sessions are reported, and nothing was read in those that have begun. Induction
on the servers.
-/
theorem ends (turns : ReadInTurn names before after)
    : ∃ ends,
        after.events = before.events ++ ends
        ∧ ∀ event ∈ ends, ∃ name ∈ names, event.Ends name ∧ (after.slot name).IsUnread := by
  induction turns with
  | done => exact ⟨[], (List.append_nil _).symm, by simp⟩
  | @next first rest _ early _ _ _ fresh read unread later ih =>
      obtain ⟨late, grown, ended⟩ := ih
      refine ⟨early ++ late, by rw [grown, read.events, List.append_assoc], fun event member => ?_⟩
      rcases List.mem_append.mp member with member | member
      · refine ⟨first, List.mem_cons_self, read.ended event member, ?_⟩
        rw [later.elsewhere fresh]
        exact unread (List.ne_nil_of_mem member)
      · obtain ⟨name, among, facts⟩ := ended event member
        exact ⟨name, List.mem_cons_of_mem _ among, facts⟩

/-- What all of them publish waits, in turn. -/
theorem waiting (turns : ReadInTurn names before after)
    : after.waiting
        = before.waiting ++ (names.flatMap (readOf before after)).filterMap Happening.ofBody? := by
  rw [Workspace.waiting, turns.inbox, List.filterMap_append, List.filterMap_flatMap,
    List.filterMap_flatMap]
  simp only [Happening.filterMap_noticeIn?]
  rfl

/-- Nothing is reported of diagnostics before notifications are looked at. -/
theorem reports (turns : ReadInTurn names before after)
    : after.events.filterMap Event.diagnostics?
      = before.events.filterMap Event.diagnostics? := by
  obtain ⟨ends, grown, ended⟩ := turns.ends
  have silent : ends.filterMap Event.diagnostics? = [] := by
    refine List.filterMap_eq_nil_iff.mpr fun event member => ?_
    obtain ⟨name, _, ends, _⟩ := ended event member
    exact diagnostics?_of_ends ends
  rw [grown, List.filterMap_append, silent, List.append_nil]

end ReadInTurn

/-- Handling messages of some servers reads them in turn. Induction on the names. -/
theorem pollNext_foldl_readInTurn {names : List String} (different : names.Nodup)
    (state : Workspace (Recorder τ) κ × Nat)
    (attentive : ∀ name ∈ names, (state.1.slot name).Runs (Server.IsAttentive name))
    : ReadInTurn names state.1 (names.foldl pollNext state).1 := by
  induction names generalizing state with
  | nil => exact .done
  | cons first rest ih =>
      obtain ⟨fresh, restDifferent⟩ := List.nodup_cons.mp different
      obtain ⟨bodies, ends, read, unread⟩ := pollNext_readFrom (attentive first List.mem_cons_self)
      refine .next fresh read unread (ih restDifferent _ fun name member => ?_)
      rw [read.elsewhere name fun same => fresh (same ▸ member)]
      exact attentive name (List.mem_cons_of_mem _ member)

/-- Stopping some servers reads them in turn. Induction on the servers. -/
theorem stopServer_foldl_readInTurn {entries : List (String × Server (Recorder τ) κ)}
    (different : (entries.map (·.1)).Nodup)
    (running
      : ∀ entry ∈ entries,
          workspace.servers.get? entry.1 = some entry.2 ∧ entry.2.IsAttentive entry.1)
    (patience : String → Recorder τ → Nat)
    : ReadInTurn (entries.map (·.1)) workspace (entries.foldl (stopServer patience) workspace) := by
  induction entries generalizing workspace with
  | nil => exact .done
  | cons first rest ih =>
      obtain ⟨fresh, restDifferent⟩ := List.nodup_cons.mp different
      obtain ⟨runs, attentive⟩ := running first List.mem_cons_self
      obtain ⟨bodies, read⟩ := stopServer_readFrom runs attentive patience
      have parted : ((stopServer patience workspace first).slot first.1).IsUnread := by
        rw [(workspace.stopServer_only patience first).here]
        exact fun _ none => nomatch none
      refine .next fresh read (fun _ => parted) (ih restDifferent fun entry member => ?_)
      have apart : entry.1 ≠ first.1 := fun same => fresh (List.mem_map.mpr ⟨entry, member, same⟩)
      obtain ⟨runsStill, attentiveStill⟩ := running entry (List.mem_cons_of_mem _ member)
      exact ⟨(congrArg Slot.server (read.elsewhere entry.1 apart)).trans runsStill, attentiveStill⟩

end Workspace

end LanguageClient
