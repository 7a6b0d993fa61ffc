import LanguageClient.Proofs.Connection.Heard
import LanguageClient.Proofs.Diagnostic.Store
import LanguageClient.Proofs.Workspace.Notice

/-! What changes the diagnostics that a workspace shows: a server publishes some for a document, or
the document is closed. The last such happening decides what is shown of a document.
-/

namespace LanguageClient

variable {τ κ : Type}

-----------------------------------------------------------------------------------------
-- Publications
-----------------------------------------------------------------------------------------

/-- What changes the diagnostics of a document: entries are published for it, well-formed or not, or
it is closed.
-/
inductive Happening where
  | published (uri : String) (entries : List Json)
  | cleared (uri : String)

namespace Happening

/-- The document whose diagnostics change. -/
def uri : Happening → String
  | .published uri _ | .cleared uri => uri

/-- What the entries that are well-formed tell; nothing is left of the others, and of a document that
is closed.
-/
def diagnostics : Happening → List Diagnostic
  | .published _ entries => entries.filterMap Diagnostic.ofJson?
  | .cleared _ => []

/-- The report of a publication: how many of its entries are well-formed. -/
def report? : Happening → Option (String × Nat)
  | .published uri entries => some (uri, (entries.filterMap Diagnostic.ofJson?).length)
  | .cleared _ => none

/-- The store after it. -/
def note (store : DiagnosticStore) (happening : Happening) : DiagnosticStore :=
  store.update happening.uri happening.diagnostics

/-- The document and the entries that the parameters of a publication tell. -/
def entriesIn? (params : Json) : Option (String × List Json) := do
  let record ← Json.Record.of? 2 params
  let uri ← record.required 0 "uri" Json.string?
  let entries ← record.withDefault 1 "diagnostics" [] Json.array?
  return (uri, entries)

/-- What a notification publishes. -/
def ofNotification? (method : String) (params : Json) : Option Happening :=
  if method = "textDocument/publishDiagnostics" then
    (entriesIn? params).map fun (uri, entries) => .published uri entries
  else none

/-- What a body publishes. -/
def ofBody? (body : Bytes) : Option Happening :=
  match Message.Incoming.ofBytes? body with
  | some (.notification method params) => ofNotification? method params
  | _ => none

/-- A publication is read as the well-formed ones of its entries. -/
theorem publication_ofJson? (params : Json)
    : Publication.ofJson? params
      = (entriesIn? params).map fun (uri, entries) =>
          ⟨uri, entries.filterMap Diagnostic.ofJson?⟩ := by
  unfold Publication.ofJson? entriesIn?
  cases Json.Record.of? 2 params with
  | none => rfl
  | some record =>
      cases uri : record.required 0 "uri" Json.string? with
      | none => simp [uri]
      | some uri' =>
          cases entries : record.withDefault 1 "diagnostics" [] Json.array? with
          | none => simp [uri, entries]
          | some entries' => simp [uri, entries]

/-- What a body publishes is what its notification publishes, whoever is told of it. -/
theorem filterMap_noticeIn? (listener : String) (bodies : List Bytes)
    : (bodies.filterMap (noticeIn? listener)).filterMap
        (fun notice => ofNotification? notice.method notice.params)
      = bodies.filterMap ofBody? := by
  rw [List.filterMap_filterMap]
  congr 1
  funext body
  unfold noticeIn? ofBody?
  rcases Message.Incoming.ofBytes? body with _ | incoming
  · rfl
  · cases incoming <;> rfl

/-- What happens to a document leaves its diagnostics, if there are any, and those of all others. -/
theorem get?_note (store : DiagnosticStore) (happening : Happening) (uri : String)
    : (happening.note store).get? uri
      = if uri = happening.uri then (some happening.diagnostics).filter (! ·.isEmpty)
        else store.get? uri :=
  store.get?_update happening.uri uri happening.diagnostics

/-- The diagnostics that are left of a document after some happenings are those of the last one that
concerns it. Induction on the happenings, from the last one.
-/
theorem get?_foldl_note (happenings : List Happening) (uri : String)
    : (happenings.foldl note .empty).get? uri
      = ((happenings.reverse.find? (·.uri = uri)).map diagnostics).filter (! ·.isEmpty) := by
  rw [← List.foldr_reverse]
  induction happenings.reverse with
  | nil => rfl
  | cons last rest ih =>
      rw [List.foldr_cons, get?_note, List.find?_cons]
      by_cases same : last.uri = uri
      · simp [same]
      · simp [same, Ne.symm same, ih]

end Happening

/-- What an event tells of diagnostics. -/
def Event.diagnostics? : Event → Option (String × Nat)
  | .diagnostics uri count => some (uri, count)
  | _ => none

namespace Workspace

/-- The publications that were not looked at yet. -/
def waiting (workspace : Workspace τ κ) : List Happening :=
  workspace.inbox.filterMap fun notice => Happening.ofNotification? notice.method notice.params

/-- Looking at a notification shows and reports what it publishes. -/
theorem published_of_notice (notice : Notice)
    : let published := Happening.ofNotification? notice.method notice.params
      (∀ diagnostics,
        notice.shown diagnostics = published.elim diagnostics (Happening.note diagnostics))
      ∧ notice.event?.bind Event.diagnostics? = published.bind Happening.report? := by
  intro published
  by_cases publishes : notice.method = "textDocument/publishDiagnostics"
  · simp only [published, Notice.shown, Notice.publication?, Notice.event?,
      Happening.ofNotification?, publishes, if_true, Happening.publication_ofJson?]
    cases Happening.entriesIn? notice.params with
    | none => exact ⟨fun _ => rfl, rfl⟩
    | some told => exact ⟨fun _ => rfl, rfl⟩
  · have nothing : published = none := by
      simp only [published, Happening.ofNotification?, publishes, if_false]
    have unpublished : notice.publication? = none := if_neg publishes
    have silent : notice.event?.bind Event.diagnostics? = none := by
      cases told : notice.event? with
      | none => rfl
      | some event =>
          rcases Notice.event?_cases told with ⟨_, published, _⟩ | ⟨level, text, rfl⟩
          · cases unpublished.symm.trans published
          · rfl
    simp only [nothing, silent, Notice.shown, unpublished]
    exact ⟨fun _ => rfl, rfl⟩

/-- Looking at all notifications applies what they publish, one after the other. -/
theorem drain_published (workspace : Workspace τ κ)
    : workspace.drain.diagnostics = workspace.waiting.foldl Happening.note workspace.diagnostics
      ∧ workspace.drain.events.filterMap Event.diagnostics?
        = workspace.events.filterMap Event.diagnostics?
          ++ workspace.waiting.filterMap Happening.report?
      ∧ workspace.drain.waiting = [] := by
  rw [drain_eq]
  refine ⟨?_, ?_, rfl⟩
  · rw [waiting, List.foldl_filterMap]
    refine congrArg (workspace.inbox.foldl · workspace.diagnostics) ?_
    funext diagnostics notice
    rw [(published_of_notice notice).1]
    cases Happening.ofNotification? notice.method notice.params <;> rfl
  · rw [waiting, List.filterMap_append, List.filterMap_filterMap, List.filterMap_filterMap]
    refine congrArg (_ ++ workspace.inbox.filterMap ·) ?_
    funext notice
    exact (published_of_notice notice).2

/-- Looking at all notifications reports what the editor is told of each, in the order in which they
wait, and leaves none.
-/
theorem drain_events (workspace : Workspace τ κ)
    : workspace.drain.events = workspace.events ++ workspace.inbox.filterMap Notice.event?
      ∧ workspace.drain.inbox = [] := by
  rw [drain_eq]
  exact ⟨rfl, rfl⟩

end Workspace

end LanguageClient
