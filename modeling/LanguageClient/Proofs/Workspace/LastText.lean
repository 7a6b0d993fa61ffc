import LanguageClient.Proofs.Uri.File
import LanguageClient.Proofs.Workspace.ServerAgreement

/-! Whatever a server of a workspace was told of documents is what the editor said last: in every
session its messages can be replayed without an illegal step, and they lead to the documents that
are open, with their versions and the last texts that were accepted, also where these had to wait.
-/

namespace LanguageClient

namespace Workspace

variable {τ κ : Type}

-----------------------------------------------------------------------------------------
-- What the editor said
-----------------------------------------------------------------------------------------

/-- The file that an operation gives a text to, and the text: it opens or changes a document. -/
def Operation.written? : Operation τ κ → Option (Path × String)
  | .openDocument path text | .changeDocument path text => some (path, text)
  | _ => none

/-- The text that a document was given, if that succeeded. -/
def accepted? (uri : String) (entry : Operation τ κ × Outcome) : Option String :=
  entry.1.written?.bind fun (path, text) =>
    if entry.2.isOk ∧ Uri.ofPath? path = some uri then some text else none

/-- The last text that a document was given. -/
def lastText? (history : List (Operation τ κ × Outcome)) (uri : String) : Option String :=
  history.reverse.findSome? (accepted? uri)

/-- The texts that documents have after one more operation. -/
def textsAfter (texts : String → Option String) (entry : Operation τ κ × Outcome)
    : String → Option String :=
  fun uri => (accepted? uri entry).or (texts uri)

theorem lastText?_concat (history : List (Operation τ κ × Outcome))
    (entry : Operation τ κ × Outcome)
    : lastText? (history ++ [entry]) = textsAfter (lastText? history) entry := by
  funext uri
  rw [lastText?, List.reverse_concat, List.findSome?_cons, textsAfter]
  cases accepted? uri entry <;> rfl

variable {texts : String → Option String} {operation : Operation τ κ} {outcome : Outcome}
variable {path : Path} {uri text : String}

/-- A text that was accepted is that of its document from then on. -/
theorem textsAfter_of_written (written : operation.written? = some (path, text))
    (located : Uri.ofPath? path = some uri)
    : textsAfter texts (operation, outcome)
      = if outcome.isOk then said texts uri text else texts := by
  funext other
  cases succeeded : outcome.isOk <;>
    by_cases same : uri = other <;>
    simp [textsAfter, accepted?, said, written, located, succeeded, same, eq_comm]

theorem textsAfter_of_none (silent : operation.written? = none)
    : textsAfter texts (operation, outcome) = texts := by
  funext uri
  simp [textsAfter, accepted?, silent]

/-- Nothing is said of a file that has no URI. -/
theorem textsAfter_of_nowhere (written : operation.written? = some (path, text))
    (nowhere : Uri.ofPath? path = none)
    : textsAfter texts (operation, outcome) = texts := by
  funext uri
  simp [textsAfter, accepted?, written, nowhere]

theorem textsAfter_of_failed (failed : outcome.isOk = false)
    : textsAfter texts (operation, outcome) = texts := by
  funext uri
  simp [textsAfter, accepted?, failed]

/-- An operation that writes a text is about its file. -/
theorem Operation.path?_of_written (written : operation.written? = some (path, text))
    : operation.path? = some path := by
  cases operation <;> cases written <;> rfl

/-- Either nothing is said, or something of the file that the operation is about. -/
theorem textsAfter_cases (texts : String → Option String) (operation : Operation τ κ)
    (outcome : Outcome)
    : textsAfter texts (operation, outcome) = texts
      ∨ ∃ path uri text,
          operation.path? = some path
          ∧ Uri.ofPath? path = some uri
          ∧ textsAfter texts (operation, outcome) = said texts uri text := by
  rcases written : operation.written? with _ | ⟨path, text⟩
  · exact .inl (textsAfter_of_none written)
  · cases located : Uri.ofPath? path with
    | none => exact .inl (textsAfter_of_nowhere written located)
    | some uri =>
        rw [textsAfter_of_written written located]
        split
        · exact .inr ⟨path, uri, text, operation.path?_of_written written, located, rfl⟩
        · exact .inl rfl

-----------------------------------------------------------------------------------------
-- Finding the server of a file
-----------------------------------------------------------------------------------------

section Lookup

variable {workspace : Workspace τ κ} {name : String}

/-- What is found for a file is the server that serves it, and its URI. -/
theorem of_lookup (looked : workspace.lookup path = .ok (some (name, uri)))
    : workspace.settings.serverForPath? path = some name ∧ Uri.ofPath? path = some uri := by
  unfold lookup at looked
  split at looked
  · cases looked
  · next routed =>
      split at looked
      · cases looked
      · split at looked
        · next located =>
            cases looked
            exact ⟨routed, located⟩
        · cases looked

/-- A server that is enabled is found for every file that has the URI of one it serves. -/
theorem lookup_of_serves (enabled : workspace.disabled.contains name = false)
    (serves : workspace.settings.Serves name uri) (located : Uri.ofPath? path = some uri)
    : workspace.lookup path = .ok (some (name, uri)) := by
  obtain ⟨other, same, routed⟩ := serves
  rw [← workspace.settings.serverForPath?_of_uri located same] at routed
  simp only [lookup, routed, enabled, located]
  rfl

end Lookup

end Workspace

-----------------------------------------------------------------------------------------
-- Slots
-----------------------------------------------------------------------------------------

variable {τ κ : Type}

/-- What is done with a server for a document says of this document what the server is told. -/
theorem Server.Agreement.acted [SupervisedTransport τ] {server last : Server (Recorder τ) κ}
    {texts : String → Option String} {settings : Settings} {name uri : String} {path : Path}
    {operation : Workspace.Operation (Recorder τ) κ} {outcome : Workspace.Outcome}
    (agreement : server.Agreement texts settings name) (flushed : server.IsFlushed)
    (about : operation.path? = some path) (located : Uri.ofPath? path = some uri)
    (serves : settings.Serves name uri)
    (acted : Workspace.Acted uri operation server last outcome)
    : last.Agreement (Workspace.textsAfter texts (operation, outcome)) settings name
      ∧ last.IsFlushed := by
  cases acted with
  | @opened _ text =>
      cases about
      rw [Workspace.textsAfter_of_written rfl located, Workspace.Outcome.isOk, isOk_map]
      exact agreement.openDocument flushed serves text
  | @changed _ text =>
      cases about
      rw [Workspace.textsAfter_of_written rfl located, Workspace.Outcome.isOk, isOk_map]
      exact agreement.changeDocument flushed uri text
  | @saved _ copy =>
      rw [Workspace.textsAfter_of_none rfl]
      exact agreement.saveDocument flushed uri copy
  | closed =>
      rw [Workspace.textsAfter_of_none rfl]
      exact agreement.closeDocument flushed uri
  | asked =>
      rw [Workspace.textsAfter_of_none rfl]
      refine ⟨agreement.use (server.connection.ask_used _ _ _), fun ready => flushed ?_⟩
      rwa [Connection.ask_isReady] at ready

/-- The server that runs agrees with what was said last, it is not disabled, and the sessions of the
transport that is left can be replayed.
-/
structure Slot.Agreement (slot : Slot (Recorder τ) κ) (texts : String → Option String)
    (settings : Settings) (name : String)
    : Prop where
  running : ∀ server, slot.server = some server → server.Agreement texts settings name
  enabled : ∀ server, slot.server = some server → slot.disabled = false
  released : ∀ recorder, slot.released = some recorder → recorder.IsLegal

/-- No document waits for the server that runs if it is ready. -/
def Slot.IsFlushed (slot : Slot τ κ) : Prop :=
  ∀ server, slot.server = some server → server.IsFlushed

namespace Slot

variable {slot last : Slot (Recorder τ) κ} {texts : String → Option String} {settings : Settings}
variable {name : String}

/-- A slot with another server agrees if the server does. -/
theorem Agreement.withServer (agreement : slot.Agreement texts settings name)
    {server : Server (Recorder τ) κ} {said : String → Option String}
    (enabled : slot.disabled = false) (running : server.Agreement said settings name)
    : ({ slot with server := some server } : Slot (Recorder τ) κ).Agreement said settings name := by
  refine ⟨fun other same => ?_, fun _ _ => enabled, agreement.released⟩
  obtain rfl := Option.some.inj same
  exact running

/-- A slot without server agrees if the transport that is left does. -/
theorem agreement_of_released {recorder : Recorder τ} (legal : recorder.IsLegal) (disabled : Bool)
    : ({ server := none, released := some recorder, disabled } : Slot (Recorder τ) κ).Agreement
        texts settings name := by
  refine ⟨fun _ running => (nomatch running), fun _ running => (nomatch running),
    fun other same => ?_⟩
  obtain rfl := Option.some.inj same
  exact legal

/-- No document waits in a slot if none waits for its server. -/
theorem isFlushed_of_server {server : Server τ κ} {slot : Slot τ κ} (flushed : server.IsFlushed)
    : ({ slot with server := some server } : Slot τ κ).IsFlushed := by
  intro other same
  obtain rfl := Option.some.inj same
  exact flushed

/-- Where no server runs it does not matter what is said. -/
theorem Agreement.of_absent (agreement : slot.Agreement texts settings name)
    (absent : slot.server = none) (said : String → Option String)
    : slot.Agreement said settings name :=
  ⟨fun _ running => (nomatch absent.symm.trans running),
    fun _ running => (nomatch absent.symm.trans running), agreement.released⟩

/-- What is said of a document that the server does not serve does not concern it. -/
theorem Agreement.elsewhere (agreement : slot.Agreement texts settings name) {uri : String}
    (foreign : slot.disabled = false → ¬ settings.Serves name uri) (text : String)
    : slot.Agreement (said texts uri text) settings name := by
  refine ⟨fun server running => ?_, agreement.enabled, agreement.released⟩
  have apart := foreign (agreement.enabled server running)
  obtain ⟨agrees, earlier⟩ := agreement.running server running
  exact ⟨agrees.elsewhere apart, earlier⟩

variable [SupervisedTransport τ]

theorem Agreement.polled {host : Host (Recorder τ)} {options : Option Json}
    (agreement : slot.Agreement texts settings name)
    (polled : Workspace.SlotPolled host options slot last)
    : last.Agreement texts settings name := by
  cases polled with
  | absent => exact agreement
  | kept running handled =>
      exact agreement.withServer (agreement.enabled _ running)
        ((agreement.running _ running).handled handled)
  | recovered running handled _ started =>
      have lost := ((agreement.running _ running).handled handled).polled
      exact agreement.withServer (agreement.enabled _ running) (lost.restarted started host options)
  | abandoned running handled _ started =>
      have lost := ((agreement.running _ running).handled handled).polled
      exact agreement_of_released (lost.abandoned started) true

/-- Opening the documents that wait keeps the agreement, and then none waits. -/
theorem Agreement.flushed (agreement : slot.Agreement texts settings name)
    : slot.flushed.Agreement texts settings name ∧ slot.flushed.IsFlushed := by
  refine ⟨⟨fun server same => ?_, fun server same => ?_, agreement.released⟩, fun server same => ?_⟩
  all_goals obtain ⟨before, running, rfl⟩ := Option.map_eq_some_iff.mp same
  · exact (agreement.running before running).flush.1.settled
  · exact agreement.enabled before running
  · exact (agreement.running before running).flush.2

theorem Agreement.stopped (agreement : slot.Agreement texts settings name)
    (patience : Recorder τ → Nat)
    : (slot.stopped patience).Agreement texts settings name := by
  unfold Slot.stopped
  split
  · exact agreement
  · next server running =>
      exact agreement_of_released ((agreement.running server running).stopped patience) _

theorem isFlushed_stopped (slot : Slot τ κ) (patience : τ → Nat)
    : (slot.stopped patience).IsFlushed := by
  intro server running
  unfold Slot.stopped at running
  split at running
  · next none => exact nomatch none.symm.trans running
  · cases running

end Slot

namespace Workspace

variable [SupervisedTransport τ] {workspace : Workspace (Recorder τ) κ}

/-- A server that is launched has been told nothing of documents, and none waits for it. -/
theorem Launched.agreement {name : String} {path : Path} {server : Server (Recorder τ) κ}
    (start : Launched workspace name path server) (launches : workspace.LaunchesFresh)
    (texts : String → Option String)
    : server.Agreement texts workspace.settings name ∧ server.IsFlushed := by
  cases start with
  | mk _ launched opened =>
      obtain ⟨journal, earlier⟩ := launches _ _ _ _ launched
      have used := openSession_used opened
      exact ⟨Server.agreement_of_silent journal (by simp [earlier]) used rfl rfl, fun _ => rfl⟩

/-- A server that cannot be told of its session was told nothing else. -/
theorem LaunchRefused.isLegal {name : String} {transport : Recorder τ}
    (start : LaunchRefused workspace name transport) (launches : workspace.LaunchesFresh)
    : transport.IsLegal := by
  cases start with
  | mk launched opened =>
      obtain ⟨journal, earlier⟩ := launches _ _ _ _ launched
      have used := openSession_used opened
      exact Recorder.isLegal_of_silent journal (by simp [earlier]) used

theorem Ensured.agreement {name : String} {path : Path} {slot : Slot (Recorder τ) κ}
    {result : Except ClientError Unit} {texts : String → Option String}
    (ensured : Ensured workspace name path slot result) (launches : workspace.LaunchesFresh)
    (agreement : (workspace.slot name).Agreement texts workspace.settings name)
    (flushed : (workspace.slot name).IsFlushed)
    : slot.Agreement texts workspace.settings name ∧ slot.IsFlushed := by
  cases ensured with
  | running | impossible => exact ⟨agreement, flushed⟩
  | failed absent =>
      have apart : ∀ server, (workspace.slot name).server ≠ some server :=
        fun _ running => (nomatch absent.symm.trans running)
      exact ⟨⟨agreement.running, fun server running => absurd running (apart server),
        agreement.released⟩, flushed⟩
  | refused _ _ start =>
      exact ⟨Slot.agreement_of_released (start.isLegal launches) true,
        fun _ running => (nomatch running)⟩
  | launched _ enabled start =>
      obtain ⟨silent, none⟩ := start.agreement launches texts
      exact ⟨agreement.withServer enabled silent.settled, Slot.isFlushed_of_server none⟩

/-- Every operation keeps the agreement of every slot with what was said last. -/
theorem slot_agreement_after (operation : Operation τ κ) (launches : workspace.LaunchesFresh)
    {name : String} {texts : String → Option String}
    (agreement : (workspace.slot name).Agreement texts workspace.settings name)
    (flushed : (workspace.slot name).IsFlushed)
    : ((workspace.after operation.recorded).slot name).Agreement
          (textsAfter texts (operation.recorded, (workspace.perform operation.recorded).2))
          workspace.settings name
      ∧ ((workspace.after operation.recorded).slot name).IsFlushed := by
  have change := workspace.slot_after operation.recorded name
  generalize (workspace.after operation.recorded).slot name = slot at change ⊢
  generalize recorded : operation.recorded = taken at change ⊢
  generalize (workspace.perform taken).2 = outcome at change ⊢
  cases change with
  | apart other =>
      refine ⟨?_, flushed⟩
      rcases textsAfter_cases texts taken outcome with same | ⟨path, uri, text, about, located, same⟩
      · rw [same]
        exact agreement
      · rw [same]
        refine agreement.elsewhere (fun enabled serves => other ?_) text
        exact (concerns_iff about _).mpr ⟨uri, lookup_of_serves enabled serves located⟩
  | ensured ensured =>
      rw [textsAfter_of_none rfl]
      exact ensured.agreement launches agreement flushed
  | unopened _ ensured =>
      rw [textsAfter_of_failed rfl]
      exact ensured.agreement launches agreement flushed
  | launched looked _ enabled start acted =>
      obtain ⟨silent, none⟩ := start.agreement launches texts
      obtain ⟨routed, located⟩ := of_lookup looked
      obtain ⟨kept, waits⟩ := silent.settled.acted none rfl located ⟨_, located, routed⟩ acted
      exact ⟨agreement.withServer enabled kept.settled, Slot.isFlushed_of_server waits⟩
  | unserved _ _ absent => exact ⟨agreement.of_absent absent _, flushed⟩
  | acted about looked running acted =>
      obtain ⟨routed, located⟩ := of_lookup looked
      obtain ⟨kept, waits⟩ :=
        (agreement.running _ running).acted (flushed _ running) about located ⟨_, located, routed⟩
          acted
      exact ⟨agreement.withServer (agreement.enabled _ running) kept.settled,
        Slot.isFlushed_of_server waits⟩
  | polled polled =>
      rw [textsAfter_of_none rfl]
      exact (agreement.polled polled).flushed
  | stopped =>
      rw [textsAfter_of_none rfl]
      exact ⟨agreement.stopped _, Slot.isFlushed_stopped _ _⟩
  | undisturbed =>
      rw [textsAfter_of_none rfl]
      exact ⟨agreement, flushed⟩
  | disturbed running =>
      rw [textsAfter_of_none rfl]
      cases operation <;> cases recorded
      have waits : (Server.withTransport _ _).IsFlushed := flushed _ running
      exact ⟨agreement.withServer (agreement.enabled _ running)
          ((agreement.running _ running).disturbed _),
        Slot.isFlushed_of_server waits⟩

-----------------------------------------------------------------------------------------
-- Runs
-----------------------------------------------------------------------------------------

/-- The operations of a run, with what they answer. -/
def history {τ : Type} [SupervisedTransport τ] (workspace : Workspace τ κ)
    : List (Operation τ κ) → List (Operation τ κ × Outcome)
  | [] => []
  | operation :: rest =>
      (operation, (workspace.perform operation).2) :: (workspace.after operation).history rest

/-- Every server of a workspace has been told what was said last, as far as it is ready for it. -/
structure Agreement (workspace : Workspace (Recorder τ) κ)
    (past : List (Operation (Recorder τ) κ × Outcome))
    : Prop where
  launches : workspace.LaunchesFresh
  slots : ∀ name, (workspace.slot name).Agreement (lastText? past) workspace.settings name
  flushed : ∀ name, (workspace.slot name).IsFlushed

/-- Every run keeps the agreement. Induction on the operations. -/
theorem Agreement.run {past : List (Operation (Recorder τ) κ × Outcome)}
    (agreement : workspace.Agreement past) (operations : List (Operation τ κ))
    : (workspace.run (operations.map Operation.recorded)).Agreement
        (past ++ workspace.history (operations.map Operation.recorded)) := by
  induction operations generalizing workspace past with
  | nil =>
      rw [List.map_nil, history, List.append_nil]
      exact agreement
  | cons operation rest ih =>
      have step (name : String) :=
        slot_agreement_after operation agreement.launches (agreement.slots name)
          (agreement.flushed name)
      have next
          : (workspace.after operation.recorded).Agreement
              (past ++ [(operation.recorded, (workspace.perform operation.recorded).2)]) := by
        refine ⟨agreement.launches.after operation, fun name => ?_, fun name => (step name).2⟩
        rw [lastText?_concat, settings_after]
        exact (step name).1
      have last := ih next
      rwa [List.append_assoc] at last

/-- In every session of every server, the messages about documents can be replayed without an illegal
step. The documents that are open for a server that runs are those to which its session leads, with
their versions, and their texts are the last with which they were opened, or to which they were
changed, with success.
-/
theorem views_agree (host : Host τ) (settings : Settings) (root : Option Path)
    (operations : List (Operation τ κ))
    : let workspace := runRecorded host settings root operations
      let past := (freshRecorded host settings root).history (operations.map Operation.recorded)
      (∀ name server, workspace.servers.get? name = some server →
          server.connection.transport.IsLegal
          ∧ ∃ view,
              View.replay .empty server.connection.transport.journal = some view
              ∧ view.Matches (lastText? past) server.documents)
      ∧ ∀ name recorder, workspace.released.get? name = some recorder → recorder.IsLegal := by
  have start
      : (freshRecorded host settings root : Workspace (Recorder τ) κ).Agreement [] :=
    ⟨fun _ _ _ _ launched => recorded_launch launched,
      fun _ => ⟨fun _ none => (nomatch none), fun _ none => (nomatch none),
        fun _ none => (nomatch none)⟩,
      fun _ _ none => (nomatch none)⟩
  have last := start.run operations
  refine ⟨fun name server running => ?_, fun name => (last.slots name).released⟩
  have agreement := (last.slots name).running server running
  exact ⟨agreement.isLegal, agreement.agrees.view⟩

/-- A document is changed while it waits to be opened, and once more when it is open. -/
theorem waiting_change_views_agree
    : let file := Text.bytes "/a.rs"
      let operations : List (Operation Channel Unit) :=
        [.openDocument file "one", .changeDocument file "two", .poll 9,
          .changeDocument file "three"]
      ∃ server view,
        (runRecorded promptHost rustSettings none operations).servers.get? "rust" = some server
        ∧ View.replay .empty server.connection.transport.journal = some view
        ∧ view.get? "file:///a.rs" = some (2, "three")
        ∧ lastText?
            ((freshRecorded promptHost rustSettings none).history
              (operations.map Operation.recorded))
            "file:///a.rs"
          = some "three" := by
  intro file operations
  have shown
      : (((runRecorded promptHost rustSettings none operations).servers.get? "rust").bind
            fun server => View.replay .empty server.connection.transport.journal).bind
          (·.get? "file:///a.rs")
        = some (2, "three") := by
    decide +kernel
  obtain ⟨view, replayed, known⟩ := Option.bind_eq_some_iff.mp shown
  obtain ⟨server, running, replayed⟩ := Option.bind_eq_some_iff.mp replayed
  obtain ⟨agree, _⟩ := views_agree promptHost rustSettings none operations
  obtain ⟨_, other, same, matched⟩ := agree "rust" server running
  obtain rfl := Option.some.inj (replayed.symm.trans same)
  exact ⟨server, view, running, replayed, known, matched.said _ _ known⟩

end Workspace

end LanguageClient
