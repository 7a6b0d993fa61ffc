import LanguageClient.Proofs.Connection.Farewell
import LanguageClient.Proofs.Workspace.Order
import LanguageClient.Proofs.Workspace.Waiting

/-! What is left when a workspace is shut down: every server that ran has been taken leave of and
stopped once, which is reported in the order of the names, and nobody waits for an answer any more.
-/

namespace LanguageClient

variable {τ κ : Type} [SupervisedTransport τ]

/-- What becomes of the requests of a server that is stopped: the answers that come while its
session is closed, and the loss of the others.
-/
def Server.lastAnswers (server : Server τ κ) (patience : τ → Nat)
    : List (Purpose κ × Except ClientError Json) :=
  (Workspace.closeSession patience server.connection).close.answers

omit [SupervisedTransport τ] in
/-- The machine on which every server is launched with a ledger. -/
def Host.ledgered (host : Host τ) : Host (Ledger τ) :=
  { host with
    launch := fun name settings root => (host.launch name settings root).map Ledger.fresh }

namespace Workspace

omit [SupervisedTransport τ] in
/-- Looking at notifications answers nobody. -/
theorem drain_answers (workspace : Workspace τ κ)
    : workspace.drain.answers = workspace.answers := by
  rw [drain_eq]

/-- Stopping some servers passes on what becomes of their requests. Induction on the servers. -/
theorem stopServer_foldl_answers (entries : List (String × Server τ κ))
    (patience : String → τ → Nat) (workspace : Workspace τ κ)
    : (entries.foldl (stopServer patience) workspace).answers
      = workspace.answers
        ++ (entries.flatMap fun entry =>
            entry.2.lastAnswers (patience entry.1)).filterMap answerOf? := by
  induction entries generalizing workspace with
  | nil => exact (List.append_nil _).symm
  | cons entry rest ih =>
      have step : (stopServer patience workspace entry).answers
          = workspace.answers
            ++ (entry.2.lastAnswers (patience entry.1)).filterMap answerOf? := rfl
      rw [List.foldl_cons, ih, step, List.flatMap_cons, List.filterMap_append, List.append_assoc]

/-- Shutting down passes on what becomes of all requests, and reports each server that was stopped,
and then what the servers have said.
-/
theorem shutdownWithin_told (workspace : Workspace τ κ) (patience : String → τ → Nat)
    : (workspace.shutdownWithin patience).answers
        = workspace.answers
          ++ (workspace.servers.entries.flatMap fun entry =>
              entry.2.lastAnswers (patience entry.1)).filterMap answerOf?
      ∧ ∃ noticed,
          (workspace.shutdownWithin patience).events
            = workspace.events ++ workspace.servers.keys.map (.stopped · .exited) ++ noticed
          ∧ ∀ event ∈ noticed, ∀ name, ¬ event.Ends name := by
  let stopped := workspace.servers.entries.foldl (stopServer patience) workspace
  constructor
  · exact (drain_answers stopped).trans (stopServer_foldl_answers _ patience workspace)
  · refine ⟨stopped.inbox.filterMap Notice.event?, ?_, fun event member name => ?_⟩
    · refine stopped.drain_events.1.trans ?_
      rw [stopServer_foldl_events, Table.keys, List.map_map]
      rfl
    · obtain ⟨_, _, told⟩ := List.mem_filterMap.mp member
      exact Notice.event?_not_ends told

/-- A server that is stopped was taken leave of, and its requests, however many wait, are answered
once each.
-/
theorem stopped_orderly {server : Server (Ledger τ) κ} (settled : server.IsSettled)
    (distinct : server.IsDistinct)
    (free : server.connection.isReady = true → server.connection.HasFreeId)
    (patience : Ledger τ → Nat)
    : ∃ spoken own,
        (server.stopped patience).calls = server.connection.transport.calls ++ spoken ++ [.stopped]
        ∧ TakesLeave server.connection (closeSession patience server.connection) spoken own
        ∧ ((server.lastAnswers patience).map (·.1)).Perm
            (server.connection.pending.map (·.2) ++ own) := by
  obtain ⟨spoken, own, left, calls⟩ := closeSession_takesLeave server.connection patience
  have returns : server.connection.Returns (.shutdown .session) := free
  obtain ⟨told, answers, once⟩ := left.answered_once distinct returns
  rw [settled.answers, List.nil_append] at answers
  refine ⟨spoken, own, ?_, left, ?_⟩
  · rw [← calls]
    rfl
  · rw [Server.lastAnswers, answers]
    exact once

/-- Whatever was done before, whatever waits to be received, and however long servers are waited
for: after a shutdown no server runs. The end of each that ran is reported once, in the order of the
names, and no other end of a session. Its transport was stopped once, after all that was said to it:
nothing if it was not ready, only the request to shut down if that could not be written, and else
that request first, then replies to its own requests, and last that it may leave. Every request that
waited for one of them, and the request to shut down, was answered once.
-/
theorem shutdown_is_complete (host : Host (Ledger τ)) (settings : Settings) (root : Option Path)
    (operations : List (Operation (Ledger τ) κ)) (patience : String → Ledger τ → Nat)
    (returns : (fresh host settings root).RunReturns (operations ++ [.shutdown patience]))
    : let workspace : Workspace (Ledger τ) κ := (fresh host settings root).run operations
      let last := workspace.after (.shutdown patience)
      (∀ name, last.servers.get? name = none)
      ∧ workspace.servers.keys.Pairwise (· < ·)
      ∧ (∃ noticed,
          last.events
            = workspace.events ++ workspace.servers.keys.map (.stopped · .exited) ++ noticed
          ∧ ∀ event ∈ noticed, ∀ name, ¬ event.Ends name)
      ∧ last.answers
          = workspace.answers
            ++ (workspace.servers.entries.flatMap fun entry =>
                entry.2.lastAnswers (patience entry.1)).filterMap answerOf?
      ∧ ∀ name server,
          workspace.servers.get? name = some server →
            ∃ ledger spoken own,
              last.released.get? name = some ledger
              ∧ ledger.calls = server.connection.transport.calls ++ spoken ++ [.stopped]
              ∧ TakesLeave server.connection (closeSession (patience name) server.connection)
                  spoken own
              ∧ ((server.lastAnswers (patience name)).map (·.1)).Perm
                  (server.connection.pending.map (·.2) ++ own) := by
  intro workspace last
  obtain ⟨returnsBefore, returnsLast, _⟩ := runReturns_append.mp returns
  have settled : ∀ name, (workspace.slot name).Runs Server.IsSettled :=
    isSettled_run fun _ => Slot.runs_of_none rfl
  have distinct : ∀ name, (workspace.slot name).Runs Server.IsDistinct :=
    isDistinct_run returnsBefore fun _ => Slot.runs_of_none rfl
  have slots (name : String) : last.slot name = (workspace.slot name).stopped (patience name) :=
    workspace.shutdownWithin_slot patience name
  obtain ⟨answers, events⟩ := workspace.shutdownWithin_told patience
  refine ⟨fun name => ?_, ?_, events, answers, fun name server running => ?_⟩
  · have gone : ((workspace.slot name).stopped (patience name)).server = none := by
      unfold Slot.stopped
      split
      · assumption
      · rfl
    exact (congrArg Slot.server (slots name)).trans gone
  · exact List.pairwise_map.mpr workspace.servers.ascending
  · have here : (workspace.slot name).server = some server := running
    obtain ⟨spoken, own, calls, left, once⟩ :=
      stopped_orderly (settled name server here).1 (distinct name server here).1
        (returnsLast name server running) (patience name)
    refine ⟨server.stopped (patience name), spoken, own, ?_, calls, left, once⟩
    refine (congrArg Slot.released (slots name)).trans ?_
    simp only [Slot.stopped, here]

omit [SupervisedTransport τ] in
/-- Every operation comes to an end where fewer requests wait than there are ids. -/
theorem returns_of_few {workspace : Workspace τ κ}
    (few
      : ∀ entry ∈ workspace.servers.entries,
          entry.2.connection.pending.length < Text.word32)
    (operation : Operation τ κ)
    : workspace.Returns operation := by
  have free {name : String} {server : Server τ κ}
      (running : workspace.servers.get? name = some server)
      : server.connection.HasFreeId :=
    Connection.hasFreeId_of_few (few (name, server) (Table.mem_entries_iff.mpr running))
  cases operation with
  | ask => exact fun _ _ _ _ running _ => free running
  | shutdown => exact fun _ _ running _ => free running
  | _ => trivial

/-- A server is asked a question, asks one itself, and is shut down before either has an answer. -/
def questionsLeftOpen : List (Operation (Ledger Channel) Unit) :=
  let question :=
    Message.request 7 "window/workDoneProgress/create" (some (.object [("token", .nat 1)]))
  let push (ledger : Ledger Channel) : Ledger Channel :=
    { ledger with inner := ledger.inner.push (.ok question.printBytes) }
  [.openDocument (Text.bytes "/a.rs") "one", .poll 9,
    .ask (Text.bytes "/a.rs") (.hover ⟨0, 0⟩) (), .disturb "rust" push]

/-- A server that does not answer is stopped all the same, and the question to it is answered. -/
theorem silent_server_is_stopped
    : let start : Workspace (Ledger Channel) Unit := fresh promptHost.ledgered rustSettings none
      let patience (_ : String) (_ : Ledger Channel) : Nat := 3
      let workspace := start.run questionsLeftOpen
      let last := workspace.after (.shutdown patience)
      start.RunReturns (questionsLeftOpen ++ [.shutdown patience])
      ∧ last.servers.get? "rust" = none
      ∧ (∃ noticed, last.events = [.stopped "rust" .exited] ++ noticed)
      ∧ ∃ server ledger spoken,
          workspace.servers.get? "rust" = some server
          ∧ last.released.get? "rust" = some ledger
          ∧ ledger.calls = server.connection.transport.calls ++ spoken ++ [.stopped]
          ∧ .question .hover () ∈ (server.lastAnswers (patience "rust")).map (·.1) := by
  intro start patience workspace last
  have returns : start.RunReturns (questionsLeftOpen ++ [.shutdown patience]) :=
    ⟨trivial, trivial, returns_of_few (by decide +kernel) _, trivial,
      returns_of_few (by decide +kernel) _, trivial⟩
  obtain ⟨gone, _, ⟨noticed, events, _⟩, _, stopped⟩ :=
    shutdown_is_complete promptHost.ledgered rustSettings none questionsLeftOpen patience returns
  have names : workspace.servers.keys = ["rust"] := by decide +kernel
  have silent : workspace.events = [] := by decide +kernel
  have asked
      : (workspace.servers.get? "rust").any (fun server =>
          server.connection.pending.any fun entry =>
            match entry.2 with
            | .question .hover () => true
            | _ => false)
        = true := by
    decide +kernel
  obtain ⟨server, running, waits⟩ := (Option.any_eq_true ..).mp asked
  obtain ⟨ledger, spoken, own, released, calls, _, once⟩ := stopped "rust" server running
  refine ⟨returns, gone "rust", ⟨noticed, ?_⟩, server, ledger, spoken, running, released, calls, ?_⟩
  · rw [events]
    change workspace.events ++ workspace.servers.keys.map _ ++ noticed = _
    rw [names, silent]
    rfl
  · obtain ⟨⟨id, purpose⟩, member, hover⟩ := List.any_eq_true.mp waits
    refine once.mem_iff.mpr (List.mem_append_left _ (List.mem_map.mpr ⟨(id, purpose), member, ?_⟩))
    split at hover
    · assumption
    · cases hover

end Workspace

end LanguageClient
