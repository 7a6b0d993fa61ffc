import LanguageClient.Proofs.Connection.View
import LanguageClient.Workspace.Operations

/-! A session agrees with what the editor said last: its messages can be replayed without an illegal
step, and lead to the documents that are open, with their versions and the texts that were said
last. The documents that wait in a queue are about to be opened with their last texts.
-/

namespace LanguageClient

-----------------------------------------------------------------------------------------
-- Documents, the queue and the server's view
-----------------------------------------------------------------------------------------

/-- The texts that documents have after one was given a text. -/
def said (texts : String → Option String) (uri text : String) : String → Option String :=
  fun other => if other = uri then some text else texts other

/-- What was said before is said again. -/
theorem said_self {texts : String → Option String} {uri text : String}
    (before : texts uri = some text)
    : said texts uri text = texts := by
  funext other
  rw [said]
  split
  · next same => rw [same, before]
  · rfl

/-- A server serves a document. -/
def Settings.Serves (settings : Settings) (name uri : String) : Prop :=
  ∃ path, Uri.ofPath? path = some uri ∧ settings.serverForPath? path = some name

/-- A server's view shows these documents, with their versions and the texts that were said last. -/
structure View.Matches (view : View) (texts : String → Option String) (documents : Documents)
    : Prop where
  versions : ∀ uri, (view.get? uri).map (·.1) = (documents.get? uri).map (·.version)
  said : ∀ uri known, view.get? uri = some known → texts uri = some known.2

/-- A session, the documents that are open in it and those that wait agree: the session leads to the
open documents, and those that wait are others, with the texts that were said last. All of them are
served under the name of the server.
-/
structure Agrees (texts : String → Option String) (settings : Settings) (name : String)
    (journal : Journal) (documents : Documents) (queued : List QueuedOpen)
    : Prop where
  view : ∃ view : View, View.replay .empty journal = some view ∧ view.Matches texts documents
  queued
    : ∀ entry ∈ queued,
        texts entry.uri = some entry.text
        ∧ documents.get? entry.uri = none
        ∧ settings.Serves name entry.uri
  home : ∀ uri document, documents.get? uri = some document → settings.Serves name uri

namespace View.Matches

variable {view : View} {texts : String → Option String} {documents : Documents} {uri : String}

/-- A document that is open is in the view. -/
theorem found {document : Document} (matched : view.Matches texts documents)
    (opened : documents.get? uri = some document)
    : ∃ text, view.get? uri = some (document.version, text) := by
  have version := matched.versions uri
  rw [opened] at version
  obtain ⟨⟨_, text⟩, known, rfl⟩ := Option.map_eq_some_iff.mp version
  exact ⟨text, known⟩

theorem absent (matched : view.Matches texts documents) (closed : documents.get? uri = none)
    : view.get? uri = none := by
  have version := matched.versions uri
  rwa [closed, Option.map_none, Option.map_eq_none_iff] at version

/-- A document with a version and the text that was said is added to both. -/
theorem insert {document : Document} (matched : view.Matches texts documents) (text : String)
    : View.Matches (view.insert uri (document.version, text)) (LanguageClient.said texts uri text)
        (documents.insert uri document) := by
  refine ⟨fun other => ?_, fun other known found => ?_⟩
  · rw [Table.get?_insert, Table.get?_insert]
    split
    · rfl
    · exact matched.versions other
  · rw [Table.get?_insert] at found
    unfold LanguageClient.said
    split at found
    · next same =>
        obtain rfl := Option.some.inj found
        rw [if_pos same]
    · next other' =>
        rw [if_neg other']
        exact matched.said other known found

/-- A document with the version that it had stays in the view. -/
theorem keep {document : Document} (matched : view.Matches texts documents)
    (same : (documents.get? uri).map (·.version) = some document.version)
    : view.Matches texts (documents.insert uri document) := by
  refine ⟨fun other => ?_, matched.said⟩
  rw [matched.versions other, Table.get?_insert]
  split
  · next here => rw [here, same]; rfl
  · rfl

theorem erase (matched : view.Matches texts documents)
    : View.Matches (view.erase uri) texts (documents.erase uri) := by
  refine ⟨fun other => ?_, fun other known found => ?_⟩
  · rw [Table.get?_erase, Table.get?_erase]
    split
    · rfl
    · exact matched.versions other
  · rw [Table.get?_erase] at found
    split at found
    · cases found
    · exact matched.said other known found

/-- Nothing changes where something is said of a document that is not open. -/
theorem elsewhere (matched : view.Matches texts documents) (closed : documents.get? uri = none)
    (text : String)
    : view.Matches (LanguageClient.said texts uri text) documents := by
  refine ⟨matched.versions, fun other known found => ?_⟩
  have apart : other ≠ uri := by
    rintro rfl
    rw [matched.absent closed] at found
    cases found
  rw [LanguageClient.said, if_neg apart]
  exact matched.said other known found

end View.Matches

namespace Agrees

variable {texts : String → Option String} {settings : Settings} {name uri text : String}
variable {journal : Journal} {documents : Documents} {queued : List QueuedOpen}

/-- What is said of a document that the server does not serve does not concern it. -/
theorem elsewhere (agrees : Agrees texts settings name journal documents queued)
    (foreign : ¬ settings.Serves name uri)
    : Agrees (said texts uri text) settings name journal documents queued := by
  have closed : documents.get? uri = none := by
    cases opened : documents.get? uri with
    | none => rfl
    | some document => exact absurd (agrees.home uri document opened) foreign
  obtain ⟨view, replayed, matched⟩ := agrees.view
  refine ⟨⟨view, replayed, matched.elsewhere closed text⟩, fun entry member => ?_, agrees.home⟩
  obtain ⟨same, absent, serves⟩ := agrees.queued entry member
  have apart : entry.uri ≠ uri := by
    rintro rfl
    exact foreign serves
  exact ⟨by rw [said, if_neg apart]; exact same, absent, serves⟩

/-- A document is opened while none waits. -/
theorem opened (agrees : Agrees texts settings name journal documents [])
    (absent : documents.get? uri = none) (serves : settings.Serves name uri)
    (language text : String)
    : Agrees (said texts uri text) settings name
        (journal
          ++ [.sent (Message.notification "textDocument/didOpen"
                (some (Message.didOpen uri language 1 text)))])
        (documents.insert uri { language, version := 1, synced := true }) [] := by
  obtain ⟨view, replayed, matched⟩ := agrees.view
  refine ⟨⟨_, ?_, matched.insert text⟩, fun _ member => (nomatch member), fun other document => ?_⟩
  · rw [View.replay_concat replayed, View.read_didOpen (matched.absent absent)]
  · rw [Table.get?_insert]
    split
    · next same => exact fun _ => same ▸ serves
    · exact agrees.home other document

/-- A document that does not wait is changed. -/
theorem changed (agrees : Agrees texts settings name journal documents queued)
    {document : Document} (found : documents.get? uri = some document)
    (sent : ∀ entry ∈ queued, entry.uri ≠ uri)
    : Agrees (said texts uri text) settings name
        (journal
          ++ [.sent (Message.notification "textDocument/didChange"
                (some (Message.didChange uri (document.version + 1) text)))])
        (documents.insert uri { document with version := document.version + 1, synced := false })
        queued := by
  obtain ⟨view, replayed, matched⟩ := agrees.view
  obtain ⟨old, known⟩ := matched.found found
  refine ⟨⟨_, ?_, matched.insert text⟩, fun entry member => ?_, fun other document' => ?_⟩
  · rw [View.replay_concat replayed, View.read_didChange known]
  · obtain ⟨same, absent, serves⟩ := agrees.queued entry member
    have apart := sent entry member
    rw [said, if_neg apart, Table.get?_insert, if_neg apart]
    exact ⟨same, absent, serves⟩
  · rw [Table.get?_insert]
    split
    · next same => exact fun _ => same ▸ agrees.home uri document found
    · exact agrees.home other document'

theorem saved (agrees : Agrees texts settings name journal documents queued)
    {document : Document} (found : documents.get? uri = some document) (copy : Option String)
    : Agrees texts settings name
        (journal
          ++ [.sent (Message.notification "textDocument/didSave"
                (some (Message.didSave uri copy)))])
        (documents.insert uri { document with synced := true }) queued := by
  obtain ⟨view, replayed, matched⟩ := agrees.view
  obtain ⟨old, known⟩ := matched.found found
  refine ⟨⟨view, ?_, matched.keep (by rw [found]; rfl)⟩, fun entry member => ?_,
    fun other document' => ?_⟩
  · rw [View.replay_concat replayed, View.read_didSave known]
  · obtain ⟨same, absent, serves⟩ := agrees.queued entry member
    have apart : entry.uri ≠ uri := by
      intro here
      rw [here, found] at absent
      cases absent
    rw [Table.get?_insert, if_neg apart]
    exact ⟨same, absent, serves⟩
  · rw [Table.get?_insert]
    split
    · next same => exact fun _ => same ▸ agrees.home uri document found
    · exact agrees.home other document'

theorem closed (agrees : Agrees texts settings name journal documents queued)
    {document : Document} (found : documents.get? uri = some document)
    : Agrees texts settings name
        (journal
          ++ [.sent (Message.notification "textDocument/didClose"
                (some (Message.document uri)))])
        (documents.erase uri) queued := by
  obtain ⟨view, replayed, matched⟩ := agrees.view
  obtain ⟨old, known⟩ := matched.found found
  refine ⟨⟨_, ?_, matched.erase⟩, fun entry member => ?_, fun other document' => ?_⟩
  · rw [View.replay_concat replayed, View.read_didClose known]
  · obtain ⟨same, absent, serves⟩ := agrees.queued entry member
    refine ⟨same, ?_, serves⟩
    rw [Table.get?_erase]
    split
    · rfl
    · exact absent
  · rw [Table.get?_erase]
    split
    · exact fun none => (nomatch none)
    · exact agrees.home other document'

/-- A document that is not known starts to wait. -/
theorem enqueued (agrees : Agrees texts settings name journal documents queued)
    (absent : documents.get? uri = none) (fresh : ∀ entry ∈ queued, entry.uri ≠ uri)
    (serves : settings.Serves name uri)
    : Agrees (said texts uri text) settings name journal documents (queued ++ [⟨uri, text⟩]) := by
  obtain ⟨view, replayed, matched⟩ := agrees.view
  refine ⟨⟨view, replayed, matched.elsewhere absent text⟩, fun entry member => ?_, agrees.home⟩
  rcases List.mem_append.mp member with old | new
  · obtain ⟨same, closed, served⟩ := agrees.queued entry old
    exact ⟨by rw [said, if_neg (fresh entry old)]; exact same, closed, served⟩
  · obtain rfl := List.mem_singleton.mp new
    exact ⟨by rw [said, if_pos rfl], absent, serves⟩

/-- A document that waits is changed. -/
theorem requeued (agrees : Agrees texts settings name journal documents queued)
    (absent : documents.get? uri = none)
    : Agrees (said texts uri text) settings name journal documents
        (Server.replaceQueued queued uri text) := by
  obtain ⟨view, replayed, matched⟩ := agrees.view
  refine ⟨⟨view, replayed, matched.elsewhere absent text⟩, fun entry member => ?_, agrees.home⟩
  obtain ⟨old, present, rfl⟩ := List.mem_map.mp member
  obtain ⟨same, closed, serves⟩ := agrees.queued old present
  by_cases here : old.uri = uri
  · rw [if_pos here]
    exact ⟨by rw [said, if_pos here], closed, serves⟩
  · rw [if_neg here]
    exact ⟨by rw [said, if_neg here]; exact same, closed, serves⟩

theorem dequeued (agrees : Agrees texts settings name journal documents queued)
    {fewer : List QueuedOpen} (part : fewer ⊆ queued)
    : Agrees texts settings name journal documents fewer :=
  ⟨agrees.view, fun entry member => agrees.queued entry (part member), agrees.home⟩

/-- Nothing was said to a server that has no documents. -/
theorem nothing : Agrees texts settings name [] .empty [] :=
  ⟨⟨.empty, rfl, fun _ => rfl, fun _ _ none => (nomatch none)⟩, fun _ member => (nomatch member),
    fun _ _ none => (nomatch none)⟩

/-- The session counts only for what it leads to. -/
theorem of_replay (agrees : Agrees texts settings name journal documents queued) {longer : Journal}
    (same : View.replay .empty longer = View.replay .empty journal)
    : Agrees texts settings name longer documents queued :=
  ⟨by rw [same]; exact agrees.view, agrees.queued, agrees.home⟩

end Agrees

end LanguageClient
