import LanguageClient.Json.Printer
import LanguageClient.Proofs.Workspace.Discipline
import LanguageClient.Proofs.Workspace.Queue

/-! What closing a document leaves behind. The document neither waits nor is open afterwards if that
succeeds, and all documents are as before if it fails. Its diagnostics are forgotten either way, as
long as its server was not given up.
-/

namespace LanguageClient

variable {τ κ : Type} [SupervisedTransport τ]

namespace Server

variable {server last : Server τ κ} {uri other : String}

-----------------------------------------------------------------------------------------
-- Documents that a server knows
-----------------------------------------------------------------------------------------

/-- A step on one document lets no other one be open. -/
theorem knows_of_synced {step : Documents → Except ClientError (Documents × DocumentNotice)}
    (one
      : ∀ stepped notice, step server.documents = .ok (stepped, notice) →
          stepped.contains other = true → other = uri ∨ server.documents.contains other = true)
    (known : (server.synced (server.connection.sync server.documents step)).1.Knows other)
    : other = uri ∨ server.Knows other := by
  obtain ⟨after, documents, result, written, synced⟩ :=
    server.connection.sync_cases server.documents step
  rw [written] at known
  cases synced with
  | unready | illegal | unsent => exact .inr known
  | sent _ legal =>
      rcases known with waits | opened
      · exact .inr (.inl waits)
      · exact (one _ _ legal opened).imp_right .inr

omit [SupervisedTransport τ] in
/-- What is in a table after an insertion is the key inserted or was in it before. -/
theorem contains_of_insert {α : Type} {table : Table α} {key : String} {value : α}
    (present : (table.insert key value).contains other = true)
    : other = key ∨ table.contains other = true := by
  rw [Table.contains, Table.get?_insert] at present
  split at present
  · next same => exact .inl same
  · exact .inr present

theorem knows_of_acted {operation : Workspace.Operation τ κ} {outcome : Workspace.Outcome}
    (acted : Workspace.Acted uri operation server last outcome) (known : last.Knows other)
    : other = uri ∨ server.Knows other := by
  cases acted with
  | opened =>
      rw [openDocument_eq] at known
      split at known
      · refine knows_of_synced (fun stepped notice legal opened => ?_) known
        obtain ⟨_, rfl, _⟩ := Documents.didOpen_eq_ok legal
        exact contains_of_insert opened
      · split at known
        · exact .inr known
        · rcases known with waits | opened
          · obtain ⟨entry, present, rfl⟩ := isQueued_eq_true_iff.mp waits
            rcases List.mem_append.mp present with before | new
            · exact .inr (.inl (isQueued_eq_true_iff.mpr ⟨entry, before, rfl⟩))
            · rw [List.mem_singleton.mp new]
              exact .inl rfl
          · exact .inr (.inr opened)
  | changed =>
      rw [changeDocument_eq] at known
      split at known
      · rcases known with waits | opened
        · obtain ⟨entry, present, rfl⟩ := isQueued_eq_true_iff.mp waits
          obtain ⟨old, before, rfl⟩ := List.mem_map.mp present
          refine .inr (.inl (isQueued_eq_true_iff.mpr ⟨old, before, ?_⟩))
          split <;> rfl
        · exact .inr (.inr opened)
      · refine knows_of_synced (fun stepped notice legal opened => ?_) known
        obtain ⟨_, _, rfl, _⟩ := Documents.didChange_eq_ok legal
        exact contains_of_insert opened
  | saved =>
      rw [saveDocument_eq] at known
      split at known
      · exact .inr known
      · refine knows_of_synced (fun stepped notice legal opened => ?_) known
        obtain ⟨_, _, rfl, _⟩ := Documents.didSave_eq_ok legal
        exact contains_of_insert opened
  | closed =>
      rw [closeDocument_eq] at known
      split at known
      · rcases known with waits | opened
        · obtain ⟨entry, present, rfl⟩ := isQueued_eq_true_iff.mp waits
          have before := List.mem_of_mem_filter present
          exact .inr (.inl (isQueued_eq_true_iff.mpr ⟨entry, before, rfl⟩))
        · exact .inr (.inr opened)
      · refine knows_of_synced (fun stepped notice legal opened => ?_) known
        obtain ⟨_, _, rfl, _⟩ := Documents.didClose_eq_ok legal
        rw [Table.contains, Table.get?_erase] at opened
        split at opened
        · cases opened
        · exact .inr opened
  | asked => exact .inr known

/-- Opening the documents that wait lets no others be open. Induction on the queue. -/
theorem knows_of_flush (known : server.flush.Knows other) : server.Knows other := by
  rw [flush_eq] at known
  split at known
  · suffices ∀ (waiting : List QueuedOpen) (start : Server τ κ),
        (waiting.foldl (fun (server : Server τ κ) entry =>
          (server.synced
            (server.connection.sync server.documents
              (·.didOpen entry.uri server.language entry.text))).1)
          start).Knows other →
          (∃ entry ∈ waiting, entry.uri = other) ∨ start.Knows other by
      rcases this server.queued _ known with waits | none | opened
      · exact .inl (isQueued_eq_true_iff.mpr waits)
      · exact nomatch none
      · exact .inr opened
    intro waiting
    induction waiting with
    | nil => exact fun _ known => .inr known
    | cons entry rest ih =>
        intro start known
        rcases ih _ known with ⟨later, member, same⟩ | known
        · exact .inl ⟨later, List.mem_cons_of_mem _ member, same⟩
        · have one : other = entry.uri ∨ start.Knows other := by
            refine knows_of_synced (fun stepped notice legal opened => ?_) known
            obtain ⟨_, rfl, _⟩ := Documents.didOpen_eq_ok legal
            exact contains_of_insert opened
          rcases one with rfl | known
          · exact .inl ⟨entry, List.mem_cons_self, rfl⟩
          · exact .inr known
  · exact known

/-- Handling messages leaves the documents as they are. Induction on the messages. -/
theorem knows_of_handled (handled : server.Handled last) (known : last.Knows other)
    : server.Knows other := by
  induction handled with
  | nothing => exact known
  | next _ _ ih => exact ih known

-----------------------------------------------------------------------------------------
-- Closing a document
-----------------------------------------------------------------------------------------

/-- A document that was closed with success neither waits nor is open. -/
theorem IsTidy.not_knows_of_closed (tidy : server.IsTidy)
    (closed : (server.closeDocument uri).2 = .ok ())
    : ¬ (server.closeDocument uri).1.Knows uri := by
  rw [closeDocument_eq] at closed ⊢
  split at closed
  · next waits =>
      rw [if_pos waits]
      obtain ⟨entry, present, _⟩ := isQueued_eq_true_iff.mp waits
      have unready : server.connection.isReady = false := by
        cases ready : server.connection.isReady with
        | false => rfl
        | true =>
            rw [tidy.flushed ready] at present
            cases present
      rintro (waits | opened)
      · obtain ⟨entry, present, same⟩ := isQueued_eq_true_iff.mp waits
        have apart : entry.uri ≠ uri := by simpa using (List.mem_filter.mp present).2
        exact apart same
      · have opened : server.documents.contains uri = true := opened
        rw [tidy.unopened unready] at opened
        cases opened
  · next sent =>
      rw [if_neg sent]
      obtain ⟨after, documents, result, written, synced⟩ :=
        server.connection.sync_cases server.documents (·.didClose uri)
      simp only [written, Server.synced] at closed ⊢
      cases synced with
      | unready | illegal | unsent => cases closed
      | sent _ legal =>
          obtain ⟨_, _, rfl, _⟩ := Documents.didClose_eq_ok legal
          rintro (waits | opened)
          · exact sent waits
          · have opened : (server.documents.erase uri).contains uri = true := opened
            rw [Table.contains, Table.get?_erase, if_pos rfl] at opened
            cases opened

/-- Where closing a document fails, all documents wait or are open as before. -/
theorem closeDocument_of_error {error : ClientError}
    (failed : (server.closeDocument uri).2 = .error error)
    : (server.closeDocument uri).1.queued = server.queued
      ∧ (server.closeDocument uri).1.documents = server.documents := by
  rw [closeDocument_eq] at failed ⊢
  split at failed
  · cases failed
  · next sent =>
      rw [if_neg sent]
      obtain ⟨after, documents, result, written, synced⟩ :=
        server.connection.sync_cases server.documents (·.didClose uri)
      simp only [written, Server.synced] at failed
      simp only [written, Server.synced]
      cases synced with
      | unready | illegal | unsent => exact ⟨trivial, rfl⟩
      | sent => cases failed

end Server

/-- The server that runs, if one does, has no documents but of files that this name serves. -/
def Slot.KeepsTo (slot : Slot τ κ) (settings : Settings) (name : String) : Prop :=
  ∀ server, slot.server = some server → ∀ uri, server.Knows uri → settings.Serves name uri

namespace Workspace

variable {workspace : Workspace τ κ} {name uri : String} {path : Path}

-----------------------------------------------------------------------------------------
-- Each server has documents of its own
-----------------------------------------------------------------------------------------

theorem Launched.not_knows {server : Server τ κ}
    (start : Launched workspace name path server) (uri : String)
    : ¬ server.Knows uri := by
  cases start
  rintro (waits | opened)
  · cases waits
  · cases opened

theorem keepsTo_of_ensured {slot : Slot τ κ} {result : Except ClientError Unit}
    (ensured : Ensured workspace name path slot result)
    (keeps : (workspace.slot name).KeepsTo workspace.settings name)
    : slot.KeepsTo workspace.settings name := by
  cases ensured with
  | running | impossible => exact keeps
  | failed absent => exact fun _ runs => nomatch absent.symm.trans runs
  | refused => exact fun _ runs => nomatch runs
  | launched _ _ start =>
      rintro _ ⟨⟩ uri known
      exact absurd known (start.not_knows uri)

theorem keepsTo_of_polled {host : Host τ} {options : Option Json} {settings : Settings}
    {slot last : Slot τ κ} (polled : SlotPolled host options slot last)
    (keeps : slot.KeepsTo settings name)
    : last.flushed.KeepsTo settings name := by
  rintro _ flushed uri known
  obtain ⟨server, runs, rfl⟩ := Option.map_eq_some_iff.mp flushed
  have known : server.Knows uri := Server.knows_of_flush known
  cases polled with
  | absent => exact keeps server runs uri known
  | kept running handled =>
      obtain rfl := Option.some.inj runs
      exact keeps _ running uri (Server.knows_of_handled handled known)
  | recovered =>
      obtain rfl := Option.some.inj runs
      rcases known with waits | opened
      · cases waits
      · cases opened
  | abandoned => cases runs

/-- No operation gives a server the document of another one. -/
theorem keepsTo_after (operation : Operation τ κ)
    (keeps : (workspace.slot name).KeepsTo workspace.settings name)
    : ((workspace.after operation).slot name).KeepsTo workspace.settings name := by
  have change := workspace.slot_after operation name
  generalize (workspace.after operation).slot name = slot at change ⊢
  generalize (workspace.perform operation).2 = outcome at change
  cases change with
  | apart | unserved | undisturbed => exact keeps
  | ensured ensured | unopened _ ensured => exact keepsTo_of_ensured ensured keeps
  | launched looked _ _ start acted =>
      obtain ⟨routed, located⟩ := of_lookup looked
      rintro _ ⟨⟩ uri known
      rcases Server.knows_of_acted acted known with rfl | before
      · exact ⟨_, located, routed⟩
      · exact absurd before (start.not_knows uri)
  | acted _ looked running acted =>
      obtain ⟨routed, located⟩ := of_lookup looked
      rintro _ ⟨⟩ uri known
      rcases Server.knows_of_acted acted known with rfl | before
      · exact ⟨_, located, routed⟩
      · exact keeps _ running uri before
  | polled polled => exact keepsTo_of_polled polled keeps
  | stopped =>
      unfold Slot.stopped
      split
      · exact keeps
      · exact fun _ runs => nomatch runs
  | disturbed running =>
      rintro _ ⟨⟩ uri known
      exact keeps _ running uri known

/-- In every run, servers have no documents but of files that they serve. -/
theorem keepsTo_run (host : Host τ) (settings : Settings) (root : Option Path)
    (operations : List (Operation τ κ)) (name : String)
    : (((fresh host settings root).run operations).slot name).KeepsTo settings name := by
  let P (workspace : Workspace τ κ) : Prop :=
    workspace.settings = settings ∧ (workspace.slot name).KeepsTo settings name
  suffices all : P ((fresh host settings root).run operations) from all.2
  refine run_induction (P := P) ?_ ⟨rfl, fun _ runs => nomatch runs⟩
  rintro workspace operation _ ⟨rfl, keeps⟩
  exact ⟨workspace.settings_after operation, keepsTo_after operation keeps⟩

-----------------------------------------------------------------------------------------
-- Closing a document of a workspace
-----------------------------------------------------------------------------------------

/-- The documents that wait for a server and those that are open, if the server runs. -/
def documentsOf (workspace : Workspace τ κ) (name : String)
    : Option (List QueuedOpen × Documents) :=
  (workspace.servers.get? name).map fun server => (server.queued, server.documents)

/-- A workspace without the diagnostics of a document. -/
def without (workspace : Workspace τ κ) (uri : String) : Workspace τ κ :=
  { workspace with diagnostics := workspace.diagnostics.clear uri }

/-- Closing a document forgets its diagnostics first. -/
theorem closeDocument_of_lookup (looked : workspace.lookup path = .ok (some (name, uri)))
    : workspace.closeDocument path
      = match workspace.servers.get? name with
        | none => (workspace.without uri, .ok ())
        | some server =>
            ((workspace.without uri).put name (server.closeDocument uri).1,
              (server.closeDocument uri).2) := by
  have cleared : workspace.clearDiagnostics path = workspace.without uri := by
    simp only [clearDiagnostics, looked]
    rfl
  have lookedThen : (workspace.without uri).lookup path = .ok (some (name, uri)) := looked
  have same : (workspace.without uri).servers = workspace.servers := rfl
  simp only [closeDocument, withServer, cleared, lookedThen, same]
  cases workspace.servers.get? name with
  | none => rfl
  | some server => simp only [map_some_unit]

/-- Closing a document forgets its diagnostics, whether it succeeds or fails. -/
theorem diagnostics_closeDocument (looked : workspace.lookup path = .ok (some (name, uri)))
    : (workspace.closeDocument path).1.diagnostics = workspace.diagnostics.clear uri := by
  rw [closeDocument_of_lookup looked]
  split <;> rfl

/-- Closing a document with success makes its server forget it. -/
theorem not_knows_of_closeDocument {last : Server τ κ}
    (tidy : (workspace.slot name).Runs Server.IsTidy)
    (looked : workspace.lookup path = .ok (some (name, uri)))
    (closed : (workspace.closeDocument path).2 = .ok ())
    (runs : (workspace.closeDocument path).1.servers.get? name = some last)
    : ¬ last.Knows uri := by
  cases running : workspace.servers.get? name with
  | none =>
      simp only [closeDocument_of_lookup looked, running] at runs
      exact nomatch running.symm.trans runs
  | some server =>
      simp only [closeDocument_of_lookup looked, running] at closed runs
      rw [get?_put] at runs
      obtain rfl := Option.some.inj runs
      exact (tidy server running).1.not_knows_of_closed closed

/-- Where closing a document fails, all documents wait or are open as before. -/
theorem documentsOf_closeDocument_of_error {error : ClientError}
    (looked : workspace.lookup path = .ok (some (name, uri)))
    (failed : (workspace.closeDocument path).2 = .error error) (other : String)
    : (workspace.closeDocument path).1.documentsOf other = workspace.documentsOf other := by
  cases running : workspace.servers.get? name with
  | none => simp only [closeDocument_of_lookup looked, running, documentsOf, without]
  | some server =>
      simp only [closeDocument_of_lookup looked, running] at failed ⊢
      obtain ⟨queued, documents⟩ := server.closeDocument_of_error failed
      by_cases same : other = name
      · subst same
        simp only [documentsOf, get?_put, running, Option.map_some, Server.settled, queued,
          documents]
      · have slots := (workspace.without uri).slot_put name (server.closeDocument uri).1 other
        rw [if_neg same] at slots
        exact congrArg (Option.map _) (congrArg Slot.server slots)

/-- After every run, closing a document that a server serves forgets its diagnostics, unless the
server is disabled, and those of no other document. If it succeeds, the document neither waits for a
server nor is open in one. If it fails, the diagnostics are forgotten all the same, but all documents
wait or are open as before.
-/
theorem closed_document_is_forgotten (host : Host τ) (settings : Settings) (root : Option Path)
    (operations : List (Operation τ κ)) {path : Path} {name : String}
    (served : settings.serverForPath? path = some name) (absolute : path.isAbsolute = true)
    : let workspace := (fresh host settings root).run operations
      let last := (workspace.closeDocument path).1
      let result := (workspace.closeDocument path).2
      ∃ uri,
        Uri.ofPath? path = some uri
        ∧ (workspace.disabled.contains name = false → last.diagnostics.get? uri = none)
        ∧ (∀ other, other ≠ uri → last.diagnostics.get? other = workspace.diagnostics.get? other)
        ∧ (result = .ok () →
            ∀ other server, last.servers.get? other = some server → ¬ server.Knows uri)
        ∧ ∀ error, result = .error error →
            last.diagnostics.get? uri = none
            ∧ ∀ other, last.documentsOf other = workspace.documentsOf other := by
  intro workspace last result
  obtain ⟨uri, located⟩ : ∃ uri, Uri.ofPath? path = some uri := ⟨_, if_pos absolute⟩
  have same : workspace.settings = settings := settings_run _ operations
  have routed : workspace.settings.serverForPath? path = some name := same ▸ served
  have keeps : (workspace.slot name).Runs Server.IsTidy :=
    isTidy_run host settings root operations name
  have elsewhere {other : String} {server : Server τ κ}
      (runs : last.servers.get? other = some server) (known : server.Knows uri)
      : other = name := by
    have home : (last.slot other).KeepsTo workspace.settings other := by
      refine keepsTo_after (.closeDocument path) ?_
      rw [same]
      exact keepsTo_run host settings root operations other
    obtain ⟨file, sameUri, servedThere⟩ := home server runs uri known
    rw [workspace.settings.serverForPath?_of_uri sameUri located, routed] at servedThere
    exact (Option.some.inj servedThere).symm
  cases disabled : workspace.disabled.contains name with
  | true =>
      have ignored : (last, result) = (workspace, .ok ()) :=
        (ignores_of_disabled disabled routed).closing
      obtain ⟨untouched, ok⟩ := Prod.mk.inj ignored
      refine ⟨uri, located, nofun, fun _ _ => by rw [untouched], fun _ other server runs known => ?_,
        fun error failed => nomatch ok.symm.trans failed⟩
      obtain rfl := elsewhere runs known
      rw [untouched] at runs
      obtain ⟨_, enabled⟩ := keeps server runs
      exact nomatch disabled.symm.trans enabled
  | false =>
      have looked : workspace.lookup path = .ok (some (name, uri)) :=
        lookup_of_serves disabled ⟨path, located, routed⟩ located
      have cleared (other : String)
          : last.diagnostics.get? other
            = if other = uri then none else workspace.diagnostics.get? other := by
        simp only [last, diagnostics_closeDocument looked]
        exact Table.get?_erase ..
      refine ⟨uri, located, fun _ => (cleared uri).trans (if_pos rfl),
        fun other apart => (cleared other).trans (if_neg apart), ?_, fun error failed => ?_⟩
      · intro closed other server runs known
        obtain rfl := elsewhere runs known
        exact not_knows_of_closeDocument keeps looked closed runs known
      · exact ⟨(cleared uri).trans (if_pos rfl), documentsOf_closeDocument_of_error looked failed⟩

/-- A diagnostic of the first character of a file. -/
def unusedWarning : Diagnostic :=
  { range := ⟨⟨0, 0⟩, ⟨0, 1⟩⟩, severity := .warning, code := none, source := none
    message := "unused" }

/-- A machine whose servers have opened their session and published that diagnostic of `/b.rs`. They
cannot be started again.
-/
def outspokenHost : Host Channel :=
  let answer := Message.result (.nat 0) (.object [])
  let publication :=
    Message.notification "textDocument/publishDiagnostics" <| some <|
      .object [("uri", .str "file:///b.rs"), ("diagnostics", .arr [unusedWarning.toJson])]
  { promptHost with
    launch := fun _ _ _ =>
      .ok (((Channel.fresh 0).push (.ok answer.printBytes)).push (.ok publication.printBytes)) }

/-- A document that was never opened cannot be closed, which forgets its diagnostics and opens or
closes no other one.
-/
theorem unopened_document_is_forgotten
    : let file : Path := Text.bytes "/b.rs"
      let workspace : Workspace Channel Unit :=
        (fresh outspokenHost rustSettings none).run
          [.openDocument (Text.bytes "/a.rs") "one", .poll 9]
      let last := (workspace.closeDocument file).1
      rustSettings.serverForPath? file = some "rust"
      ∧ file.isAbsolute = true
      ∧ workspace.disabled.contains "rust" = false
      ∧ (workspace.closeDocument file).2.isOk = false
      ∧ last.diagnostics.get? "file:///b.rs" = none
      ∧ ∀ other, last.documentsOf other = workspace.documentsOf other := by
  intro file workspace last
  have served : rustSettings.serverForPath? file = some "rust" := by decide +kernel
  have absolute : file.isAbsolute = true := by decide +kernel
  have enabled : workspace.disabled.contains "rust" = false := by decide +kernel
  have failed : (workspace.closeDocument file).2.isOk = false := by decide +kernel
  obtain ⟨uri, located, forgotten, _, _, refused⟩ :=
    closed_document_is_forgotten (κ := Unit) outspokenHost rustSettings none
      [.openDocument (Text.bytes "/a.rs") "one", .poll 9] served absolute
  obtain rfl : "file:///b.rs" = uri :=
    Option.some.inj ((by decide +kernel : Uri.ofPath? file = some "file:///b.rs").symm.trans located)
  refine ⟨served, absolute, enabled, failed, forgotten enabled, ?_⟩
  cases result : (workspace.closeDocument file).2 with
  | ok => exact nomatch (result ▸ failed)
  | error error => exact (refused error result).2

/-- That a document was closed and that its diagnostics are gone do not go together. Closing one that
was never opened fails, and its diagnostics are gone; closing one whose server was given up succeeds,
and its diagnostics stay.
-/
theorem closed_and_forgotten_differ
    : let file : Path := Text.bytes "/b.rs"
      let workspace : Workspace Channel Unit :=
        (fresh outspokenHost rustSettings none).run
          [.openDocument (Text.bytes "/a.rs") "one", .poll 9]
      let lost := workspace.run [.disturb "rust" Channel.stop, .poll 9]
      rustSettings.serverForPath? file = some "rust"
      ∧ file.isAbsolute = true
      ∧ workspace.diagnostics.get? "file:///b.rs" = some [unusedWarning]
      ∧ (workspace.closeDocument file).2.isOk = false
      ∧ (workspace.closeDocument file).1.diagnostics.get? "file:///b.rs" = none
      ∧ (lost.closeDocument file).2.isOk = true
      ∧ (lost.closeDocument file).1.diagnostics.get? "file:///b.rs" = some [unusedWarning] := by
  decide +kernel

end Workspace

end LanguageClient
