import LanguageClient.Proofs.Connection.Traffic
import LanguageClient.Proofs.Transport.Recorder

/-! What a server knows of documents from the messages that it was sent. Every message that it must
not be sent spoils the view: a second opening, a gap between versions, a document that is not open.
-/

namespace LanguageClient

/-- The documents that are open for a server, with their versions and texts. -/
abbrev View := Table (Nat × String)

namespace View

-----------------------------------------------------------------------------------------
-- Reading a notification
-----------------------------------------------------------------------------------------

/-- The document that a notification is about. -/
def document? (message : Json) : Option Json :=
  (Message.params? message).bind (·.get? "textDocument")

/-- The URI of the document that a notification is about. -/
def uri? (message : Json) : Option String :=
  ((document? message).bind (·.get? "uri")).bind Json.string?

/-- The version that a notification gives to its document. -/
def version? (message : Json) : Option Json :=
  (document? message).bind (·.get? "version")

/-- The text with which a document is opened. -/
def openedText? (message : Json) : Option String :=
  ((document? message).bind (·.get? "text")).bind Json.string?

/-- The text that a document is changed to: that of the only change, which has no range. -/
def changedText? (message : Json) : Option String :=
  match (Message.params? message).bind (·.get? "contentChanges") with
  | some (.arr [change]) =>
      if change.get? "range" = none then (change.get? "text").bind Json.string? else none
  | _ => none

/-- Open a document that is not open, with version 1. -/
def opened (view : View) (message : Json) : Option View :=
  match uri? message, openedText? message with
  | some uri, some text =>
      if view.get? uri = none ∧ version? message = some (.nat 1) then
        some (view.insert uri (1, text))
      else none
  | _, _ => none

/-- Change a document that is open to its next version. -/
def changed (view : View) (message : Json) : Option View :=
  match uri? message, changedText? message with
  | some uri, some text =>
      (view.get? uri).bind fun (version, _) =>
        if version? message = some (.nat (version + 1)) then
          some (view.insert uri (version + 1, text))
        else none
  | _, _ => none

/-- Save a document that is open. -/
def saved (view : View) (message : Json) : Option View :=
  (uri? message).bind fun uri => (view.get? uri).map fun _ => view

/-- Close a document that is open. -/
def closed (view : View) (message : Json) : Option View :=
  (uri? message).bind fun uri => (view.get? uri).map fun _ => view.erase uri

/-- What a server knows after one more message, unless it must not be sent this message. -/
def read (view : View) (message : Json) : Option View :=
  if Message.method? message = some "textDocument/didOpen" then view.opened message
  else if Message.method? message = some "textDocument/didChange" then view.changed message
  else if Message.method? message = some "textDocument/didSave" then view.saved message
  else if Message.method? message = some "textDocument/didClose" then view.closed message
  else some view

/-- What a server knows after the messages in a journal, if all of them are legal. -/
def replay (view : View) : Journal → Option View
  | [] => some view
  | .sent message :: rest => (view.read message).bind (replay · rest)
  | .received _ :: rest => view.replay rest

/-- Replaying a journal replays its parts. -/
theorem replay_append (view : View) (first second : Journal)
    : view.replay (first ++ second) = (view.replay first).bind (replay · second) := by
  induction first generalizing view with
  | nil => rfl
  | cons traffic rest ih =>
      cases traffic with
      | sent message =>
          simp only [List.cons_append, replay]
          cases view.read message with
          | none => rfl
          | some next => exact ih next
      | received body => exact ih view

/-- One more message is read by whoever knows what came before it. -/
theorem replay_concat {view known : View} {journal : Journal}
    (before : view.replay journal = some known) (message : Json)
    : view.replay (journal ++ [.sent message]) = known.read message := by
  rw [replay_append, before]
  cases read : known.read message <;> simp [replay, read]

-----------------------------------------------------------------------------------------
-- Notifications that are sent
-----------------------------------------------------------------------------------------

theorem read_didOpen {view : View} {uri : String} (absent : view.get? uri = none)
    (language text : String)
    : view.read
        (Message.notification "textDocument/didOpen" (some (Message.didOpen uri language 1 text)))
      = some (view.insert uri (1, text)) := by
  simp [read, opened, uri?, openedText?, version?, document?, Message.didOpen, Json.get?_object,
    lookup_cons_eq, Json.string?, absent]

theorem read_didChange {view : View} {uri old : String} {version : Nat}
    (found : view.get? uri = some (version, old)) (text : String)
    : view.read
        (Message.notification "textDocument/didChange"
          (some (Message.didChange uri (version + 1) text)))
      = some (view.insert uri (version + 1, text)) := by
  simp [read, changed, uri?, changedText?, version?, document?, Message.didChange, Json.get?_object,
    lookup_cons_eq, Json.string?, found]

theorem read_didSave {view : View} {uri : String} {known : Nat × String}
    (found : view.get? uri = some known) (text : Option String)
    : view.read (Message.notification "textDocument/didSave" (some (Message.didSave uri text)))
      = some view := by
  cases text <;>
    simp [read, saved, uri?, document?, Message.didSave, Message.documentMember, Json.get?_object,
      lookup_cons_eq, Json.string?, found]

theorem read_didClose {view : View} {uri : String} {known : Nat × String}
    (found : view.get? uri = some known)
    : view.read (Message.notification "textDocument/didClose" (some (Message.document uri)))
      = some (view.erase uri) := by
  simp [read, closed, uri?, document?, Message.document, Message.documentMember, Json.get?_object,
    Json.string?, found]

theorem read_of_isAside {message : Json} (aside : Message.IsAside message) (view : View)
    : view.read message = some view := by
  rw [read, if_neg (aside _ (by decide)), if_neg (aside _ (by decide)), if_neg (aside _ (by decide)),
    if_neg (aside _ (by decide))]

variable {τ : Type} [SupervisedTransport τ]

/-- Use of a transport for other messages tells nothing of documents. -/
theorem replay_of_used {recorder after : Recorder τ} {view : View}
    (used : Transport.Used Message.IsAside recorder after)
    : view.replay after.journal = view.replay recorder.journal := by
  refine used.induct (P := fun other => view.replay other.journal = view.replay recorder.journal)
    ?_ ?_ rfl
  · intro transport message aside same
    rcases sent : Transport.send transport message with ⟨next, error | _⟩
    · rw [(Recorder.send_of_error sent).1, same]
    · rw [(Recorder.send_of_ok sent).1, replay_append, same]
      cases view.replay recorder.journal with
      | none => rfl
      | some known => simp [replay, read_of_isAside aside]
  · intro transport same
    rcases received : Transport.receive transport with ⟨next, error | _ | body⟩
    · rw [(Recorder.receive_of_none received (by simp)).1, same]
    · rw [(Recorder.receive_of_none received (by simp)).1, same]
    · rw [(Recorder.receive_of_some received).1, replay_append, same]
      cases view.replay recorder.journal <;> rfl

end View

end LanguageClient
