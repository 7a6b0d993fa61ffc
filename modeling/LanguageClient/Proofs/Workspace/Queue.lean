import LanguageClient.Proofs.Connection.Operation
import LanguageClient.Proofs.Workspace.Invariant

/-! The documents that wait for a server and those that are open are never mixed up: a server that
is ready has none that waits, one that is not ready has none that is open, and none waits twice.
So a document can be opened exactly where it neither waits nor is open.
-/

namespace LanguageClient

namespace Connection

variable {τ κ : Type} [Transport τ]

/-- No message makes a connection less ready. -/
theorem poll_isReady {connection : Connection τ κ} (ready : connection.isReady = true)
    : connection.poll.1.isReady = true := by
  have initialized : connection.phase = .initialized := of_decide_eq_true ready
  obtain ⟨after, result, written, polled⟩ := connection.poll_cases
  rw [written]
  refine decide_eq_true ?_
  cases polled with
  | idle | lost | spoiled | illegible | replied | unmatched | answered => exact initialized
  | noticed =>
      rw [handleNotification_phase]
      exact initialized
  | openingAnswered _ _ _ _ finished =>
      cases finished with
      | opened opening | failed opening => exact absurd (initialized.symm.trans opening) (by decide)
      | late => exact initialized

end Connection

variable {τ κ : Type}

namespace Server

/-- Between operations, documents wait only for a server that is not ready, are open only in one
that is, and wait once at most.
-/
structure IsTidy (server : Server τ κ) : Prop where
  flushed : server.IsFlushed
  unopened : server.connection.isReady = false → server.documents = .empty
  distinct : (server.queued.map (·.uri)).Nodup

/-- While messages are handled, a server may have become ready before the documents that wait were
opened. Then none is open yet.
-/
structure IsApart (server : Server τ κ) : Prop where
  unopened : server.connection.isReady = false → server.documents = .empty
  distinct : (server.queued.map (·.uri)).Nodup
  apart : server.queued = [] ∨ server.documents = .empty

variable {server : Server τ κ}

theorem IsTidy.isApart (tidy : server.IsTidy) : server.IsApart := by
  refine ⟨tidy.unopened, tidy.distinct, ?_⟩
  cases ready : server.connection.isReady with
  | true => exact .inl (tidy.flushed ready)
  | false => exact .inr (tidy.unopened ready)

theorem IsTidy.settled (tidy : server.IsTidy) : server.settled.IsTidy :=
  ⟨tidy.flushed, tidy.unopened, tidy.distinct⟩

theorem IsTidy.withTransport (tidy : server.IsTidy) (transport : τ)
    : (server.withTransport transport).IsTidy :=
  ⟨tidy.flushed, tidy.unopened, tidy.distinct⟩

/-- A server without documents is tidy. -/
theorem isTidy_of_empty (none : server.queued = []) (unopened : server.documents = .empty)
    : server.IsTidy :=
  ⟨fun _ => none, fun _ => unopened, by simp [none]⟩

/-- Putting another text in the queue leaves the documents that wait the same. -/
theorem uris_replaceQueued (queued : List QueuedOpen) (uri text : String)
    : (replaceQueued queued uri text).map (·.uri) = queued.map (·.uri) := by
  rw [replaceQueued, List.map_map]
  refine List.map_congr_left fun entry _ => ?_
  simp only [Function.comp_apply]
  split <;> rfl

variable [SupervisedTransport τ]

/-- A step on documents touches neither the phase nor the queue, and the documents of a server that
is ready alone.
-/
theorem synced_frame (server : Server τ κ)
    (step : Documents → Except ClientError (Documents × DocumentNotice))
    : (server.synced (server.connection.sync server.documents step)).1.connection.isReady
        = server.connection.isReady
      ∧ (server.synced (server.connection.sync server.documents step)).1.queued = server.queued
      ∧ (server.connection.isReady = false →
          (server.synced (server.connection.sync server.documents step)).1.documents
            = server.documents) := by
  obtain ⟨after, documents, result, written, synced⟩ :=
    server.connection.sync_cases server.documents step
  rw [written]
  cases synced with
  | unready | illegal | unsent => exact ⟨rfl, rfl, fun _ => rfl⟩
  | sent ready =>
      refine ⟨rfl, rfl, fun unready => ?_⟩
      simp [Connection.isReady, ready] at unready

theorem IsTidy.synced (tidy : server.IsTidy)
    (step : Documents → Except ClientError (Documents × DocumentNotice))
    : (server.synced (server.connection.sync server.documents step)).1.IsTidy := by
  obtain ⟨phase, queued, documents⟩ := server.synced_frame step
  refine ⟨fun ready => ?_, fun unready => ?_, ?_⟩
  · rw [queued]
    exact tidy.flushed (phase ▸ ready)
  · rw [phase] at unready
    rw [documents unready]
    exact tidy.unopened unready
  · rw [queued]
    exact tidy.distinct

theorem IsTidy.openDocument (tidy : server.IsTidy) (uri text : String)
    : (server.openDocument uri text).1.IsTidy := by
  rw [Server.openDocument_eq]
  split
  · exact tidy.synced _
  · next unready =>
      split
      · exact tidy
      · next known =>
          obtain ⟨fresh, _⟩ := Bool.or_eq_false_iff.mp (eq_false_of_ne_true known)
          refine ⟨fun ready => absurd ready unready, tidy.unopened, ?_⟩
          rw [List.map_append, List.map_cons, List.map_nil]
          refine List.nodup_append.mpr ⟨tidy.distinct, List.nodup_singleton uri, ?_⟩
          intro other member same here
          obtain rfl := List.mem_singleton.mp here
          obtain ⟨entry, present, rfl⟩ := List.mem_map.mp member
          exact isQueued_eq_false_iff.mp fresh entry present

theorem IsTidy.acted {uri : String} {operation : Workspace.Operation τ κ}
    {last : Server τ κ} {outcome : Workspace.Outcome} (tidy : server.IsTidy)
    (acted : Workspace.Acted uri operation server last outcome)
    : last.IsTidy := by
  cases acted with
  | @opened _ text => exact tidy.openDocument uri text
  | changed =>
      rw [changeDocument_eq]
      split
      · refine ⟨fun ready => ?_, tidy.unopened, ?_⟩
        · exact List.map_eq_nil_iff.mpr (tidy.flushed ready)
        · rw [uris_replaceQueued]
          exact tidy.distinct
      · exact tidy.synced _
  | saved =>
      rw [saveDocument_eq]
      split
      · exact tidy
      · exact tidy.synced _
  | closed =>
      rw [closeDocument_eq]
      split
      · refine ⟨fun ready => ?_, tidy.unopened, ?_⟩
        · have empty : server.queued = [] := tidy.flushed ready
          simp [empty]
        · exact tidy.distinct.sublist (List.filter_sublist.map _)
      · exact tidy.synced _
  | asked =>
      refine ⟨fun ready => ?_, fun unready => ?_, tidy.distinct⟩
      · rw [Connection.ask_isReady] at ready
        exact tidy.flushed ready
      · rw [Connection.ask_isReady] at unready
        exact tidy.unopened unready

theorem IsApart.polled (apart : server.IsApart) : server.polled.IsApart := by
  refine ⟨fun unready => apart.unopened ?_, apart.distinct, apart.apart⟩
  cases ready : server.connection.isReady with
  | false => rfl
  | true =>
      have still : server.polled.connection.isReady = true := Connection.poll_isReady ready
      exact nomatch still.symm.trans unready

/-- Opening the documents that wait leaves none of them in the queue. Induction on the queue. -/
theorem IsApart.flush (apart : server.IsApart) : server.flush.IsTidy := by
  rw [Server.flush_eq]
  split
  · next ready =>
      have none : ({ server with queued := [] } : Server τ κ).queued = [] := rfl
      have stays : ({ server with queued := [] } : Server τ κ).connection.isReady = true := ready
      generalize { server with queued := [] } = emptied at none stays
      induction server.queued generalizing emptied with
      | nil =>
          refine ⟨fun _ => none, fun unready => ?_, by simp [none]⟩
          exact nomatch stays.symm.trans unready
      | cons entry rest ih =>
          obtain ⟨phase, queued, _⟩ :=
            emptied.synced_frame (·.didOpen entry.uri emptied.language entry.text)
          exact ih _ (queued.trans none) (phase.trans stays)
  · next unready =>
      exact ⟨fun ready => absurd ready unready, apart.unopened, apart.distinct⟩

-----------------------------------------------------------------------------------------
-- Opening a document
-----------------------------------------------------------------------------------------

/-- A server knows a document: it waits or is open. -/
def Knows (server : Server τ κ) (uri : String) : Prop :=
  server.isQueued uri = true ∨ server.documents.contains uri = true

/-- A document was taken up: it is open now if the server is ready, and waits if not. The other
documents are open, or wait, as before.
-/
def TakenUp (server last : Server τ κ) (uri text : String) : Prop :=
  if server.connection.isReady then
    last.queued = server.queued
    ∧ last.documents
      = server.documents.insert uri { language := server.language, version := 1, synced := true }
  else last.queued = server.queued ++ [⟨uri, text⟩] ∧ last.documents = server.documents

/-- A server that takes messages refuses a document if it knows it, and takes it up if not. -/
theorem IsTidy.openDocument_result (tidy : server.IsTidy) {uri text : String}
    (live
      : server.connection.takes
          (Message.notification "textDocument/didOpen"
            (some (Message.didOpen uri server.language 1 text))))
    : (server.Knows uri →
          (server.openDocument uri text).2 = .error (.documentAlreadyOpen uri))
      ∧ (¬ server.Knows uri →
          (server.openDocument uri text).2 = .ok ()
          ∧ server.TakenUp (server.openDocument uri text).1 uri text) := by
  cases ready : server.connection.isReady with
  | false =>
      refine ⟨fun known => ?_, fun unknown => ?_⟩
      · have known : (server.isQueued uri || server.documents.contains uri) = true :=
          Bool.or_eq_true_iff.mpr known
        simp only [Server.openDocument, ready, known]
        rfl
      · have unknown : (server.isQueued uri || server.documents.contains uri) = false :=
          eq_false_of_ne_true (mt Bool.or_eq_true_iff.mp unknown)
        simp only [Server.openDocument, TakenUp, ready, unknown]
        exact ⟨rfl, rfl, rfl⟩
  | true =>
      -- Here no document waits, so the queue, which is not looked at, cannot matter.
      have empty : server.isQueued uri = false := by simp [isQueued, tidy.flushed ready]
      refine ⟨fun known => ?_, fun unknown => ?_⟩
      · have opened : server.documents.contains uri = true :=
          known.resolve_left (by simp [empty])
        simp [Server.openDocument, Server.synced, Connection.didOpen_eq_sync, Connection.sync,
          Documents.didOpen, ready, opened, Except.map]
      · have absent : server.documents.contains uri = false :=
          eq_false_of_ne_true fun opened => unknown (.inr opened)
        have initialized : server.connection.phase = .initialized := of_decide_eq_true ready
        rcases sent : Transport.send server.connection.transport
            (Message.notification "textDocument/didOpen"
              (some (Message.didOpen uri server.language 1 text))) with ⟨transport, result⟩
        unfold Connection.takes at live
        rw [sent] at live
        obtain rfl : result = .ok () := live
        simp [Server.openDocument, Server.synced, Connection.didOpen_eq_sync, Connection.sync,
          Documents.didOpen, Connection.notify, Connection.write, TakenUp, ready, absent,
          initialized, sent, Except.map]

-----------------------------------------------------------------------------------------
-- Runs
-----------------------------------------------------------------------------------------

/-- Servers are tidy between operations, whatever the editor does, whatever they send and whatever
happens to their transports.
-/
theorem isTidy_kept
    : Kept (fun _ => True) (fun _ _ => True) (IsTidy : Server τ κ → Prop) IsApart := by
  refine { acted := ?acted, disturbed := ?disturbed, begun := ?begun, polled := ?polled,
           flushed := ?flushed, rehosted := ?rehosted, launched := ?launched,
           restarted := ?restarted }
  case acted =>
    intro _ _ _ _ _ _ _ _ _ acted tidy
    exact (tidy.acted acted).settled
  case disturbed => exact fun _ tidy => tidy.withTransport _
  case begun => exact IsTidy.isApart
  case polled => exact fun _ apart => apart.polled
  case flushed => exact fun apart => apart.flush.settled
  case rehosted => exact fun _ => trivial
  case launched =>
    intro _ _ _ _ _ start
    cases start
    exact isTidy_of_empty rfl rfl
  case restarted =>
    intro _ _ _ _ _ _ _
    exact (isTidy_of_empty rfl rfl).isApart

end Server

namespace Workspace

variable [SupervisedTransport τ]

/-- A run leaves the settings as they are. -/
theorem settings_run (workspace : Workspace τ κ) (operations : List (Operation τ κ))
    : (workspace.run operations).settings = workspace.settings := by
  refine run_induction (P := fun last => last.settings = workspace.settings) ?_ rfl
  intro middle operation _ same
  rw [settings_after, same]

theorem isTidy_run (host : Host τ) (settings : Settings) (root : Option Path)
    (operations : List (Operation τ κ)) (name : String)
    : (((fresh host settings root).run operations).slot name).Runs Server.IsTidy :=
  Server.isTidy_kept.run (fun _ _ _ => trivial) trivial (fun _ => Slot.runs_of_none rfl) name

/-- Opening a document that a running server serves is up to this server. -/
theorem openDocument_of_running {workspace : Workspace τ κ} {name uri : String} {path : Path}
    {server : Server τ κ} (running : workspace.servers.get? name = some server)
    (enabled : workspace.disabled.contains name = false)
    (served : workspace.settings.serverForPath? path = some name)
    (located : Uri.ofPath? path = some uri) (text : String)
    : (workspace.openDocument path text).2
        = (server.openDocument uri text).2.map (fun () => some uri)
      ∧ (workspace.openDocument path text).1.servers.get? name
        = some (server.openDocument uri text).1.settled := by
  have looked : workspace.lookup path = .ok (some (name, uri)) :=
    lookup_of_serves enabled ⟨path, located, served⟩ located
  have present : workspace.servers.contains name = true := by simp [Table.contains, running]
  simp only [openDocument, looked, ensureServer, present, if_true, withServer, running, map_map]
  exact ⟨trivial, workspace.get?_put name _⟩

/-- After every run, documents wait only for servers that are not ready, are open only in those that
are, and none waits twice for one server. Where a server runs and takes messages, opening a document
fails as a document that is open already exactly where it waits or is open, and otherwise succeeds:
it waits or is open from then on, and not both.
-/
theorem documents_wait_or_are_open (host : Host τ) (settings : Settings) (root : Option Path)
    (operations : List (Operation τ κ))
    : let workspace := (fresh host settings root).run operations
      ∀ name server, workspace.servers.get? name = some server →
        (server.connection.isReady = true → server.queued = [])
        ∧ (server.connection.isReady = false → server.documents = .empty)
        ∧ (server.queued.map (·.uri)).Nodup
        ∧ ∀ path uri text,
            settings.serverForPath? path = some name → Uri.ofPath? path = some uri →
              server.connection.takes
                (Message.notification "textDocument/didOpen"
                  (some (Message.didOpen uri server.language 1 text))) →
                ((workspace.openDocument path text).2 = .error (.documentAlreadyOpen uri)
                  ↔ server.Knows uri)
                ∧ (¬ server.Knows uri →
                    (workspace.openDocument path text).2 = .ok (some uri)
                    ∧ ∃ last,
                        (workspace.openDocument path text).1.servers.get? name = some last
                        ∧ server.TakenUp last uri text) := by
  intro workspace name server running
  obtain ⟨tidy, enabled⟩ := isTidy_run host settings root operations name server running
  refine ⟨tidy.flushed, tidy.unopened, tidy.distinct, ?_⟩
  intro path uri text served located live
  have served : workspace.settings.serverForPath? path = some name := by
    rw [settings_run]
    exact served
  obtain ⟨result, after⟩ := openDocument_of_running running enabled served located text
  obtain ⟨refused, taken⟩ := tidy.openDocument_result live
  refine ⟨⟨fun already => ?_, fun known => ?_⟩, fun unknown => ?_⟩
  · by_contra unknown
    rw [result, (taken unknown).1] at already
    cases already
  · rw [result, refused known]
    rfl
  · obtain ⟨ok, takes⟩ := taken unknown
    rw [result, ok]
    exact ⟨rfl, _, after, takes⟩

/-- A document that waits cannot be opened again, and another one waits behind it. -/
theorem second_open_is_refused
    : let first := Text.bytes "/a.rs"
      let second := Text.bytes "/b.rs"
      let workspace : Workspace Channel Unit :=
        (fresh promptHost rustSettings none).run [.openDocument first "one"]
      ∃ server last,
        workspace.servers.get? "rust" = some server
        ∧ (workspace.openDocument first "two").2 = .error (.documentAlreadyOpen "file:///a.rs")
        ∧ (workspace.openDocument second "two").2 = .ok (some "file:///b.rs")
        ∧ (workspace.openDocument second "two").1.servers.get? "rust" = some last
        ∧ server.TakenUp last "file:///b.rs" "two" := by
  intro first second workspace
  have shown
      : (workspace.servers.get? "rust").map (fun server =>
            (server.connection.transport.dead, server.isQueued "file:///a.rs",
              server.isQueued "file:///b.rs" || server.documents.contains "file:///b.rs"))
        = some (false, true, false) := by
    decide +kernel
  obtain ⟨server, running, same⟩ := Option.map_eq_some_iff.mp shown
  simp only [Prod.mk.injEq, Bool.or_eq_false_iff] at same
  obtain ⟨alive, waits, unqueued, unopened⟩ := same
  obtain ⟨_, _, _, opens⟩ :=
    documents_wait_or_are_open promptHost rustSettings none [.openDocument first "one"] "rust"
      server running
  have live (message : Json) : server.connection.takes message := by
    simp [Connection.takes, Transport.send, Channel.send, alive]
  have unknown : ¬ server.Knows "file:///b.rs" := by
    simp [Server.Knows, unqueued, unopened]
  obtain ⟨refused, _⟩ :=
    opens first "file:///a.rs" "two" (by decide +kernel) (by decide +kernel) (live _)
  obtain ⟨_, taken⟩ :=
    opens second "file:///b.rs" "two" (by decide +kernel) (by decide +kernel) (live _)
  obtain ⟨accepted, last, after, takes⟩ := taken unknown
  exact ⟨server, last, running, refused.mpr (.inl waits), accepted, after, takes⟩

end Workspace

end LanguageClient
