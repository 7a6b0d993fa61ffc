import LanguageClient.Proofs.Workspace.Apart
import LanguageClient.Proofs.Workspace.Publications

/-! A workspace tells files apart by the names on their paths. The URI of a file is one of its own,
so every text and all diagnostics that are known under the URI are those of this file.
-/

namespace LanguageClient.Workspace

variable {τ κ : Type} [SupervisedTransport τ]

-----------------------------------------------------------------------------------------
-- Texts
-----------------------------------------------------------------------------------------

section Texts

omit [SupervisedTransport τ]

/-- The text that a file was given, if that succeeded, however its path was written. -/
def given? (file : Path) (entry : Operation τ κ × Outcome) : Option String :=
  entry.1.written?.bind fun (path, text) =>
    if entry.2.isOk ∧ path.isAbsolute = true ∧ path.names = file.names then some text else none

/-- The last text that a file was given. -/
def lastGiven? (history : List (Operation τ κ × Outcome)) (file : Path) : Option String :=
  history.reverse.findSome? (given? file)

/-- What is said of a URI is said of its file. -/
theorem lastText?_eq_lastGiven? {file : Path} {uri : String}
    (located : Uri.ofPath? file = some uri) (history : List (Operation τ κ × Outcome))
    : lastText? history uri = lastGiven? history file := by
  have same : accepted? (τ := τ) (κ := κ) uri = given? file := by
    funext entry
    simp only [accepted?, given?, Uri.ofPath?_eq_some_iff located]
  rw [lastText?, lastGiven?, same]

end Texts

/-- Every text that waits for a server under a URI, and every text that a server was told of under
it, is the last one that the file was given.
-/
structure HoldsTextsOf (file : Path) (uri : String) (workspace : Workspace (Recorder τ) κ)
    (past : List (Operation (Recorder τ) κ × Outcome))
    : Prop where
  waiting
    : ∀ name server entry,
        workspace.servers.get? name = some server →
          entry ∈ server.queued → entry.uri = uri → lastGiven? past file = some entry.text
  told
    : ∀ name server,
        workspace.servers.get? name = some server →
          ∃ view,
            View.replay .empty server.connection.transport.journal = some view
            ∧ ∀ known, view.get? uri = some known → lastGiven? past file = some known.2

omit [SupervisedTransport τ] in
/-- Before anything was done, no server runs that could disagree with what was said. -/
theorem agreement_fresh (host : Host τ) (settings : Settings) (root : Option Path)
    : (freshRecorded host settings root : Workspace (Recorder τ) κ).Agreement [] where
  launches := fun _ _ _ _ launched => recorded_launch launched
  slots := fun _ =>
    ⟨fun _ running => (nomatch running), fun _ running => (nomatch running),
      fun _ released => (nomatch released)⟩
  flushed := fun _ _ running => (nomatch running)

/-- After a run, the texts that are known under a URI are those of its file. -/
theorem holdsTextsOf_run (host : Host τ) (settings : Settings) (root : Option Path)
    (operations : List (Operation τ κ)) {file : Path} {uri : String}
    (located : Uri.ofPath? file = some uri)
    : HoldsTextsOf file uri (runRecorded host settings root operations)
        ((freshRecorded host settings root).history (operations.map Operation.recorded)) := by
  have last := (agreement_fresh host settings root).run operations
  refine ⟨fun name server entry running waits same => ?waiting, fun name server running => ?told⟩
  case waiting =>
    have agrees := ((last.slots name).running server running).agrees
    rw [← lastText?_eq_lastGiven? located, ← same]
    exact (agrees.queued entry waits).1
  case told =>
    obtain ⟨view, replayed, matched⟩ := ((last.slots name).running server running).agrees.view
    refine ⟨view, replayed, fun known found => ?_⟩
    rw [← lastText?_eq_lastGiven? located]
    exact matched.said uri known found

-----------------------------------------------------------------------------------------
-- Diagnostics
-----------------------------------------------------------------------------------------

/-- Diagnostics change only where something happens to them. -/
theorem exists_of_get?_foldl_note_ne {happenings : List Happening} {store : DiagnosticStore}
    {uri : String} (changed : (happenings.foldl Happening.note store).get? uri ≠ store.get? uri)
    : ∃ happening ∈ happenings, happening.uri = uri := by
  induction happenings generalizing store with
  | nil => exact absurd rfl changed
  | cons first rest ih =>
      by_cases own : first.uri = uri
      · exact ⟨first, List.mem_cons_self, own⟩
      · have kept : (first.note store).get? uri = store.get? uri := by
          rw [Happening.get?_note, if_neg (Ne.symm own)]
        obtain ⟨happening, later, same⟩ := ih (kept ▸ changed)
        exact ⟨happening, List.mem_cons_of_mem _ later, same⟩

/-- An operation touches the diagnostics of a file: it closes the file, however its path is written,
or it reads what a server publishes under the file's URI.
-/
inductive TouchesDiagnosticsOf (file : Path) (uri : String) (workspace : Workspace (Recorder τ) κ)
    : Operation τ κ → Prop
  | closed {path} (absolute : path.isAbsolute = true) (same : path.names = file.names)
    : TouchesDiagnosticsOf file uri workspace (.closeDocument path)
  | published {operation body happening} (heard : body ∈ workspace.heard operation.recorded)
    (read : Happening.ofBody? body = some happening) (own : happening.uri = uri)
    : TouchesDiagnosticsOf file uri workspace operation

theorem touches_of_happened {workspace : Workspace (Recorder τ) κ} {operation : Operation τ κ}
    {file : Path} {uri : String} {happening : Happening} (located : Uri.ofPath? file = some uri)
    (happened : happening ∈ workspace.happened operation.recorded) (own : happening.uri = uri)
    : TouchesDiagnosticsOf file uri workspace operation := by
  rcases List.mem_append.mp happened with cleared | heard
  · obtain ⟨other, found, rfl⟩ := List.mem_map.mp cleared
    obtain rfl : other = uri := own
    have found := Option.mem_toList.mp found
    cases operation with
    | closeDocument path =>
        simp only [Operation.recorded, cleared?] at found
        split at found
        · next looked =>
            obtain rfl := Option.some.inj found
            obtain ⟨absolute, same⟩ := (Uri.ofPath?_eq_some_iff located).mp (of_lookup looked).2
            exact .closed absolute same
        · cases found
    | _ => cases found
  · obtain ⟨body, heard, read⟩ := List.mem_filterMap.mp heard
    exact .published heard read own

/-- Servers are listened to, and no notification waits to be looked at. -/
structure IsAttentive (workspace : Workspace (Recorder τ) κ) : Prop where
  servers : ∀ name, (workspace.slot name).Runs (Server.IsAttentive name)
  inbox : workspace.inbox = []

theorem isAttentive_run (host : Host τ) (settings : Settings) (root : Option Path)
    (operations : List (Operation τ κ))
    : (runRecorded host settings root operations : Workspace (Recorder τ) κ).IsAttentive := by
  refine run_induction (P := IsAttentive) (fun workspace operation member attentive => ?_)
    ⟨fun _ => Slot.runs_of_none rfl, rfl⟩
  obtain ⟨plain, _, rfl⟩ := List.mem_map.mp member
  refine ⟨fun name => ?_, (after_applied attentive.servers attentive.inbox plain).inbox⟩
  exact (Server.isAttentive_kept name).slot_after trivial trivial (attentive.servers name)

/-- The diagnostics of a file change in a run only where an operation touches them. -/
theorem touches_of_changed (host : Host τ) (settings : Settings) (root : Option Path)
    (operations : List (Operation τ κ)) (operation : Operation τ κ) {file : Path} {uri : String}
    (located : Uri.ofPath? file = some uri)
    (changed
      : ((runRecorded host settings root operations).after operation.recorded).diagnostics.get? uri
        ≠ (runRecorded host settings root operations).diagnostics.get? uri)
    : TouchesDiagnosticsOf file uri (runRecorded host settings root operations) operation := by
  have attentive := isAttentive_run host settings root operations
  have applied := after_applied attentive.servers attentive.inbox operation
  rw [applied.diagnostics] at changed
  obtain ⟨happening, happened, own⟩ := exists_of_get?_foldl_note_ne changed
  exact touches_of_happened located happened own

-----------------------------------------------------------------------------------------
-- Files
-----------------------------------------------------------------------------------------

/-- The URI of a path from the root without a step upward is read as a path from the root with the
same names, whatever bytes there are in them, and also where the first one looks like the letter of
a drive. So files share a URI exactly when the names on their paths are the same, and a path that
does not start at the root has none: nothing is done for it, and it is refused where an enabled
server serves it. What is done for one file leaves what is known of others as it is. In every run,
the texts that are known under the URI of a file are the last ones that the file was given, and its
diagnostics change only when the file is closed or some are published under its URI.
-/
theorem file_uris_identify_paths (τ κ : Type) [SupervisedTransport τ]
    : (∀ path : Path,
        path.isAbsolute = true →
          [Path.dot, Path.dot] ∉ path.names →
            ∃ uri back,
              Uri.ofPath? path = some uri
              ∧ Uri.toPath? uri = some back
              ∧ back.isAbsolute = true
              ∧ back.names = path.names)
      ∧ (∀ (first second : Path) (uri : String),
          Uri.ofPath? first = some uri →
            (Uri.ofPath? second = some uri
              ↔ second.isAbsolute = true ∧ second.names = first.names))
      ∧ (∀ path : Path, path.isAbsolute = false → Uri.ofPath? path = none)
      ∧ (∀ (workspace : Workspace τ κ) (operation : Operation τ κ) (path : Path),
          operation.path? = some path →
            path.isAbsolute = false →
              workspace.after operation = workspace
              ∧ ∀ name,
                  workspace.settings.serverForPath? path = some name →
                    workspace.disabled.contains name = false →
                      (workspace.perform operation).2.isOk = false)
      ∧ (∀ (workspace : Workspace τ κ) (operation : Operation τ κ) (first second : Path)
            (uri : String),
          Uri.ofPath? first = some uri →
            operation.path? = some second →
              second.names ≠ first.names →
                SameOf uri workspace (workspace.after operation))
      ∧ ∀ (host : Host τ) (settings : Settings) (root : Option Path)
            (operations : List (Operation τ κ)) (file : Path) (uri : String),
          Uri.ofPath? file = some uri →
            let workspace := runRecorded host settings root operations
            HoldsTextsOf file uri workspace
                ((freshRecorded host settings root).history (operations.map Operation.recorded))
            ∧ ∀ operation : Operation τ κ,
                (workspace.after operation.recorded).diagnostics.get? uri
                    ≠ workspace.diagnostics.get? uri →
                  TouchesDiagnosticsOf file uri workspace operation := by
  refine ⟨fun _ => Uri.toPath?_of_ofPath?, fun _ _ _ => Uri.ofPath?_eq_some_iff,
    fun _ => Uri.ofPath?_of_not_isAbsolute, ?refused, ?apart, ?runs⟩
  case refused =>
    intro workspace operation path about relative
    have nowhere := Uri.ofPath?_of_not_isAbsolute relative
    exact ⟨after_of_nowhere about nowhere, fun _ => refused_of_nowhere about nowhere⟩
  case apart =>
    intro workspace operation first second uri located about different
    refine sameOf_after about fun shared => different ?_
    exact ((Uri.ofPath?_eq_some_iff located).mp shared).2
  case runs =>
    intro host settings root operations file uri located workspace
    exact ⟨holdsTextsOf_run host settings root operations located,
      fun operation => touches_of_changed host settings root operations operation located⟩

/-- A file with separators, a drive, a line break and bytes beyond UTF-8 on its path, and files
whose paths look like those of others.
-/
theorem strange_names_are_kept_apart
    : let strange : Path := Text.bytes "/c|/a b//./%#?\\" ++ [0xFF, 0x0A]
      let respelt : Path := Text.bytes "//c|/./a b/%#?\\" ++ [0xFF, 0x0A, 0x2F]
      let file : Path := Text.bytes "/b.rs"
      let encoded : Path := Text.bytes "/%62.rs"
      let relative : Path := Text.bytes "b.rs"
      let operations : List (Operation Channel Unit) :=
        [.openDocument file "one", .openDocument encoded "two"]
      let workspace := (fresh outspokenHost rustSettings none).run operations
      let recorded := runRecorded outspokenHost rustSettings none operations
      let past :=
        (freshRecorded outspokenHost rustSettings none).history (operations.map Operation.recorded)
      (∃ back,
        Uri.toPath? "file:///c|/a%20b/%25%23%3F%5C%FF%0A" = some back
        ∧ back.names = strange.names)
      ∧ Uri.ofPath? respelt = Uri.ofPath? strange
      ∧ Uri.ofPath? encoded ≠ Uri.ofPath? file
      ∧ Uri.ofPath? relative = none
      ∧ workspace.after (.openDocument relative "three") = workspace
      ∧ (workspace.perform (.openDocument relative "three")).2.isOk = false
      ∧ SameOf "file:///b.rs" workspace (workspace.after (.closeDocument encoded))
      ∧ HoldsTextsOf file "file:///b.rs" recorded past
      ∧ TouchesDiagnosticsOf file "file:///b.rs" recorded (.poll 9) := by
  intro strange respelt file encoded relative operations workspace recorded past
  obtain ⟨returns, identifies, rejects, refuses, apart, runs⟩ :=
    file_uris_identify_paths Channel Unit
  have located : Uri.ofPath? file = some "file:///b.rs" := by decide +kernel
  have unrooted : relative.isAbsolute = false := by decide +kernel
  have different : encoded.names ≠ file.names := by decide +kernel
  obtain ⟨uri, back, written, read, _, names⟩ :=
    returns strange (by decide +kernel) (by decide +kernel)
  have text : Uri.ofPath? strange = some "file:///c|/a%20b/%25%23%3F%5C%FF%0A" := by decide +kernel
  obtain rfl := Option.some.inj (text.symm.trans written)
  obtain ⟨still, refused⟩ :=
    refuses workspace (.openDocument relative "three") relative rfl unrooted
  obtain ⟨texts, touched⟩ := runs outspokenHost rustSettings none operations file _ located
  refine ⟨⟨back, read, names⟩, ?_, fun shared => ?_, rejects relative unrooted, still,
    refused "rust" (by decide +kernel) (by decide +kernel),
    apart workspace (.closeDocument encoded) file encoded _ located rfl different, texts,
    touched (.poll 9) (by decide +kernel)⟩
  · rw [text]
    exact (identifies strange respelt _ text).mpr ⟨by decide +kernel, by decide +kernel⟩
  · exact different ((identifies file encoded _ located).mp (shared.trans located)).2

end LanguageClient.Workspace
