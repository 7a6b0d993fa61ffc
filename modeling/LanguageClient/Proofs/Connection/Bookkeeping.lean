import LanguageClient.Proofs.Connection.Operation
import LanguageClient.Proofs.Connection.View
import LanguageClient.Proofs.Transport.Talk
import Mathlib.Data.List.DropRight

/-! What is kept of documents never runs ahead of what was written about them. A call that fails
leaves no trace, and for each document the notifications that were written tell whether it is open,
in which language, with which version, and whether it is saved.
-/

namespace LanguageClient

-----------------------------------------------------------------------------------------
-- Calls about documents
-----------------------------------------------------------------------------------------

/-- A call about a document. -/
inductive DocumentCall where
  | didOpen (language text : String)
  | didChange (text : String)
  | didSave (text : Option String)
  | didClose
deriving DecidableEq, Repr

namespace DocumentCall

/-- The method by which the server is told of a call. -/
def method : DocumentCall → String
  | .didOpen .. => "textDocument/didOpen"
  | .didChange _ => "textDocument/didChange"
  | .didSave _ => "textDocument/didSave"
  | .didClose => "textDocument/didClose"

/-- Why a call cannot be made for a document that is known in this way. -/
def refusal? (uri : String) : DocumentCall → Option Document → Option ClientError
  | .didOpen .., none => none
  | .didOpen .., some _ => some (.documentAlreadyOpen uri)
  | .didChange _, some document =>
      if document.version < Document.lastVersion then none else some (.versionExhausted uri)
  | .didSave _, some _ | .didClose, some _ => none
  | .didChange _, none | .didSave _, none | .didClose, none => some (.documentNotOpen uri)

/-- What is known of a document after a call. -/
def outcome : DocumentCall → Option Document → Option Document
  | .didOpen language _, _ => some { language, version := 1, synced := true }
  | .didChange _, known =>
      known.map fun document => { document with version := document.version + 1, synced := false }
  | .didSave _, known => known.map fun document => { document with synced := true }
  | .didClose, _ => none

/-- The version that a call answers: that of the document after it, or that of the document that it
has closed.
-/
def version? (call : DocumentCall) (known : Option Document) : Option Nat :=
  ((call.outcome known).or known).map (·.version)

/-- The parameters by which the server is told of a call. -/
def params (uri : String) (version : Nat) : DocumentCall → Json
  | .didOpen language text => Message.didOpen uri language version text
  | .didChange text => Message.didChange uri version text
  | .didSave text => Message.didSave uri text
  | .didClose => Message.document uri

/-- The notification that tells the server of a call. -/
def message (call : DocumentCall) (uri : String) (version : Nat) : Json :=
  Message.notification call.method (some (call.params uri version))

/-- The step that a call takes on the documents. -/
def step (uri : String)
    : DocumentCall → Documents → Except ClientError (Documents × DocumentNotice)
  | .didOpen language text => (·.didOpen uri language text)
  | .didChange text => (·.didChange uri text)
  | .didSave text => (·.didSave uri text)
  | .didClose => (·.didClose uri)

@[simp]
theorem method?_message (call : DocumentCall) (uri : String) (version : Nat)
    : Message.method? (call.message uri version) = some call.method :=
  Message.method?_notification _ _

/-- Every call names its document to the server. -/
@[simp]
theorem uri?_message (call : DocumentCall) (uri : String) (version : Nat)
    : View.uri? (call.message uri version) = some uri := by
  rcases call with ⟨language, text⟩ | text | (_ | text) | _ <;>
    simp [message, params, View.uri?, View.document?, Message.didOpen, Message.didChange,
      Message.didSave, Message.document, Message.documentMember, Json.get?_object, lookup_cons_eq,
      Json.string?]

/-- A step is refused for the reason that its call has, and otherwise it leads to what the call says
and is told in its words.
-/
theorem step_eq (call : DocumentCall) (uri : String) (documents : Documents)
    : (∃ error,
          call.refusal? uri (documents.get? uri) = some error
          ∧ call.step uri documents = .error error)
      ∨ ∃ stepped version,
          call.refusal? uri (documents.get? uri) = none
          ∧ call.step uri documents
            = .ok (stepped, { method := call.method, params := call.params uri version, version })
          ∧ call.version? (documents.get? uri) = some version
          ∧ stepped = documents.set uri (call.outcome (documents.get? uri)) := by
  cases call with
  | didOpen language text =>
      rcases known : documents.get? uri with _ | document
      · have absent : documents.contains uri = false := by simp [Table.contains, known]
        refine .inr ⟨_, 1, rfl, ?_, rfl, rfl⟩
        simp [step, Documents.didOpen, absent, method, params, outcome, Table.set]
      · have present : documents.contains uri = true := by simp [Table.contains, known]
        exact .inl ⟨_, rfl, by simp [step, Documents.didOpen, present]⟩
  | didChange text =>
      rcases known : documents.get? uri with _ | document
      · exact .inl ⟨_, rfl, by simp [step, Documents.didChange, known]⟩
      · by_cases left : document.version < Document.lastVersion
        · refine .inr ⟨_, document.version + 1, by simp [refusal?, left], ?_, rfl, rfl⟩
          simp [step, Documents.didChange, known, left, method, params, outcome, Table.set]
        · refine .inl ⟨.versionExhausted uri, by simp [refusal?, left], ?_⟩
          simp [step, Documents.didChange, known, left]
  | didSave text =>
      rcases known : documents.get? uri with _ | document
      · exact .inl ⟨_, rfl, by simp [step, Documents.didSave, known]⟩
      · refine .inr ⟨_, document.version, rfl, ?_, rfl, rfl⟩
        simp [step, Documents.didSave, known, method, params, outcome, Table.set]
  | didClose =>
      rcases known : documents.get? uri with _ | document
      · exact .inl ⟨_, rfl, by simp [step, Documents.didClose, known]⟩
      · refine .inr ⟨_, document.version, rfl, ?_, rfl, rfl⟩
        simp [step, Documents.didClose, known, method, params, outcome, Table.set]

end DocumentCall

namespace Connection

variable {τ κ : Type} [Transport τ]

/-- Make a call about a document. -/
def call (connection : Connection τ κ) (documents : Documents) (uri : String)
    : DocumentCall → Connection τ κ × Documents × Except ClientError Nat
  | .didOpen language text => connection.didOpen documents uri language text
  | .didChange text => connection.didChange documents uri text
  | .didSave text => connection.didSave documents uri text
  | .didClose => connection.didClose documents uri

theorem call_eq_sync (connection : Connection τ κ) (documents : Documents) (uri : String)
    (call : DocumentCall)
    : connection.call documents uri call = connection.sync documents (call.step uri) := by
  cases call with
  | didOpen language text => exact connection.didOpen_eq_sync documents uri language text
  | didChange text => exact connection.didChange_eq_sync documents uri text
  | didSave text => exact connection.didSave_eq_sync documents uri text
  | didClose => exact connection.didClose_eq_sync documents uri

end Connection

-----------------------------------------------------------------------------------------
-- Runs of calls
-----------------------------------------------------------------------------------------

/-- A connection, and the documents that are kept over it. All that is written is on record. -/
structure Editor (τ κ : Type) where
  connection : Connection (Overheard τ) κ
  documents : Documents

/-- An operation that tells of no document, and that leaves the record of what was written as it is.
-/
def Connection.Operation.IsAside {τ κ : Type} : Connection.Operation (Overheard τ) κ → Prop
  | .request method _ _ | .notify method _ => method ∉ documentMethods
  | .disturb change => ∃ inside, change = Overheard.alter inside
  | _ => True

namespace Editor

variable {τ κ : Type}

/-- An editor over any connection, with no document open and nothing written. -/
def fresh (connection : Connection τ κ) : Editor τ κ :=
  { connection := { connection with transport := Overheard.fresh connection.transport }
    documents := .empty }

/-- All that was written, first to last. -/
def written (editor : Editor τ κ) : List Json :=
  editor.connection.transport.written

/-- What is done at an editor: a call about a document, or something else with the connection, which
may be opened, lost, refuse to be written to and be opened again.
-/
inductive Move (τ κ : Type) where
  | call (uri : String) (call : DocumentCall)
  | meanwhile (operation : Connection.Operation (Overheard τ) κ) (aside : operation.IsAside)

variable [Transport τ]

/-- Make a call about a document. -/
def call (editor : Editor τ κ) (uri : String) (call : DocumentCall)
    : Editor τ κ × Except ClientError Nat :=
  let (connection, documents, result) := editor.connection.call editor.documents uri call
  ({ connection, documents }, result)

/-- The editor after a move. -/
def after (editor : Editor τ κ) : Move τ κ → Editor τ κ
  | .call uri call => (editor.call uri call).1
  | .meanwhile operation _ => { editor with connection := editor.connection.after operation }

/-- The editor after a run. -/
def run (editor : Editor τ κ) (moves : List (Move τ κ)) : Editor τ κ :=
  moves.foldl after editor

/-- What becomes of a call. It is made if the session is open, nothing known of its document speaks
against it, and its notification is taken. Then this notification was written and nothing else, and
only what is known of the one document is other than before. A call that fails has written nothing
and changed nothing.
-/
structure Accounts (before : Editor τ κ) (uri : String) (call : DocumentCall) (after : Editor τ κ)
    (result : Except ClientError Nat) : Prop where
  made_iff
    : ∀ version,
        result = .ok version
        ↔ before.connection.isReady
          ∧ call.refusal? uri (before.documents.get? uri) = none
          ∧ call.version? (before.documents.get? uri) = some version
          ∧ before.connection.takes (call.message uri version)
  failed_iff
    : ∀ error,
        result = .error error
        ↔ ¬ before.connection.isReady ∧ error = .notInitialized
          ∨ before.connection.isReady
            ∧ call.refusal? uri (before.documents.get? uri) = some error
          ∨ before.connection.isReady
            ∧ call.refusal? uri (before.documents.get? uri) = none
            ∧ ∃ version,
                call.version? (before.documents.get? uri) = some version
                ∧ (Transport.send before.connection.transport (call.message uri version)).2
                  = .error error
  written
    : ∀ version,
        result = .ok version → after.written = before.written ++ [call.message uri version]
  kept
    : ∀ version,
        result = .ok version →
          ∀ other,
            after.documents.get? other
            = if other = uri then call.outcome (before.documents.get? uri)
              else before.documents.get? other
  undone
    : ∀ error,
        result = .error error →
          after.written = before.written ∧ after.documents = before.documents

/-- Every call, whatever it is about and whatever becomes of it, leaves the books in order. -/
theorem accounts (editor : Editor τ κ) (uri : String) (call : DocumentCall)
    : Accounts editor uri call (editor.call uri call).1 (editor.call uri call).2 := by
  obtain ⟨after, synced, result, same, cases⟩ :=
    editor.connection.sync_cases editor.documents (call.step uri)
  have called : editor.call uri call = ({ connection := after, documents := synced }, result) := by
    rw [Editor.call, Connection.call_eq_sync, same]
  rw [called]
  have step := call.step_eq uri editor.documents
  cases cases with
  | unready closed =>
      have closed : editor.connection.isReady = false := by simp [Connection.isReady, closed]
      refine ⟨by simp [closed], by simp [closed, eq_comm], by simp, by simp, fun _ _ => ⟨rfl, rfl⟩⟩
  | illegal ready illegal =>
      have ready : editor.connection.isReady = true := by simp [Connection.isReady, ready]
      obtain ⟨error, refused, failed⟩ | ⟨_, _, _, legal, _⟩ := step
      · obtain rfl := Except.error.inj (illegal.symm.trans failed)
        exact ⟨by simp [refused], by simp [ready, refused, eq_comm], by simp, by simp,
          fun _ _ => ⟨rfl, rfl⟩⟩
      · cases illegal.symm.trans legal
  | @unsent stepped notice transport error ready legal sent =>
      have ready : editor.connection.isReady = true := by simp [Connection.isReady, ready]
      obtain ⟨_, _, failed⟩ | ⟨_, version, free, legal', named, _⟩ := step
      · cases legal.symm.trans failed
      · obtain ⟨rfl, rfl⟩ := Prod.mk.inj (Except.ok.inj (legal.symm.trans legal'))
        change Transport.send _ (call.message uri version) = _ at sent
        have silent := Overheard.send_written_of_error (congrArg (·.2) sent)
        rw [sent] at silent
        refine ⟨?_, ?_, by simp, by simp, fun _ _ => ⟨silent, rfl⟩⟩
        · simp [Connection.takes, named, sent]
        · simp [ready, free, named, sent, eq_comm]
  | @sent stepped notice transport ready legal sent =>
      have ready : editor.connection.isReady = true := by simp [Connection.isReady, ready]
      obtain ⟨_, _, failed⟩ | ⟨_, version, free, legal', named, rfl⟩ := step
      · cases legal.symm.trans failed
      · obtain ⟨rfl, rfl⟩ := Prod.mk.inj (Except.ok.inj (legal.symm.trans legal'))
        change Transport.send _ (call.message uri version) = _ at sent
        have takes : editor.connection.takes (call.message uri version) := by
          rw [Connection.takes, sent]
        have taken := Overheard.send_written_of_ok (congrArg (·.2) sent)
        rw [sent] at taken
        refine ⟨?_, ?_, ?_, ?_, by simp⟩
        · intro other
          constructor
          · rintro ⟨⟩
            exact ⟨ready, free, named, takes⟩
          · rintro ⟨_, _, answered, _⟩
            rw [Option.some.inj (named.symm.trans answered)]
        · simp [ready, free, named, sent]
        · rintro _ ⟨⟩
          exact taken
        · rintro _ ⟨⟩ other
          exact Table.get?_set _ _ _ _

end Editor

-----------------------------------------------------------------------------------------
-- What the notifications tell
-----------------------------------------------------------------------------------------

namespace Report

/-- Whether a message tells of a document by one of these methods. -/
def tells (uri : String) (methods : List String) (message : Json) : Bool :=
  View.uri? message = some uri ∧ ∃ method ∈ methods, Message.method? message = some method

/-- The last of the messages that tell of a document by one of these methods. -/
def last? (written : List Json) (uri : String) (methods : List String) : Option Json :=
  (written.filter (tells uri methods)).getLast?

/-- The method of the last of these messages. -/
def lastMethod? (written : List Json) (uri : String) (methods : List String) : Option String :=
  (last? written uri methods).bind Message.method?

/-- The language in which a document is opened. -/
def language? (message : Json) : Option String :=
  ((View.document? message).bind (·.get? "languageId")).bind Json.string?

/-- How often a document was changed since it was last opened. -/
def changes (written : List Json) (uri : String) : Nat :=
  (written.rtakeWhile fun message => ! tells uri ["textDocument/didOpen"] message).countP
    (tells uri ["textDocument/didChange"])

/-- What is known of a document is what the messages tell: it is open if it was opened last and not
closed, in the language in which it was opened; its first version is 1, and each change since then
has added one to it; and it is out of step with its file if it was changed last, and neither opened
nor saved since.
-/
structure Tells (written : List Json) (uri : String) (known : Option Document) : Prop where
  open_iff
    : known.isSome
      ↔ lastMethod? written uri ["textDocument/didOpen", "textDocument/didClose"]
        = some "textDocument/didOpen"
  language
    : ∀ document ∈ known,
        (last? written uri ["textDocument/didOpen"]).bind language? = some document.language
  version : ∀ document ∈ known, document.version = 1 + changes written uri
  unsynced_iff
    : ∀ document ∈ known,
        document.synced = false
        ↔ lastMethod? written uri
            ["textDocument/didOpen", "textDocument/didChange", "textDocument/didSave"]
          = some "textDocument/didChange"

variable {written : List Json} {uri : String} {methods : List String} {message : Json}
  {known : Option Document}

theorem tells_message (call : DocumentCall) (other : String) (version : Nat)
    : tells uri methods (call.message other version)
      = decide (other = uri ∧ call.method ∈ methods) := by
  simp [tells]

theorem language?_message (language text other : String) (version : Nat)
    : language? ((DocumentCall.didOpen language text).message other version) = some language := by
  simp [language?, View.document?, DocumentCall.message, DocumentCall.params, Message.didOpen,
    Json.get?_object, lookup_cons_eq, Json.string?]

theorem last?_concat
    : last? (written ++ [message]) uri methods
      = if tells uri methods message then some message else last? written uri methods := by
  rw [last?, List.filter_append]
  cases told : tells uri methods message <;> simp [told, last?]

theorem lastMethod?_concat
    : lastMethod? (written ++ [message]) uri methods
      = if tells uri methods message then Message.method? message
        else lastMethod? written uri methods := by
  rw [lastMethod?, last?_concat]
  split <;> rfl

theorem changes_concat
    : changes (written ++ [message]) uri
      = if tells uri ["textDocument/didOpen"] message then 0
        else changes written uri + if tells uri ["textDocument/didChange"] message then 1 else 0 := by
  rw [changes, List.rtakeWhile_concat]
  cases opens : tells uri ["textDocument/didOpen"] message <;>
    simp [changes, List.countP_singleton]

/-- Nothing is told of a document before anything was written. -/
theorem tells_nothing (uri : String) : Tells [] uri none where
  open_iff := by simp [lastMethod?, last?]
  language := by simp
  version := by simp
  unsynced_iff := by simp

/-- A message that does not tell of a document leaves what is told of it. -/
theorem Tells.concat_of_silent (told : Tells written uri known)
    (silent : ∀ method ∈ documentMethods, tells uri [method] message = false)
    : Tells (written ++ [message]) uri known := by
  have quiet {methods : List String} (about : methods ⊆ documentMethods)
      : tells uri methods message = false := by
    simp only [tells, decide_eq_false_iff_not, List.mem_singleton, exists_eq_left] at silent ⊢
    rintro ⟨named, method, listed, same⟩
    exact silent method (about listed) ⟨named, same⟩
  have last {methods : List String} (about : methods ⊆ documentMethods)
      : last? (written ++ [message]) uri methods = last? written uri methods := by
    rw [last?_concat, quiet about]
    rfl
  have lastMethod {methods : List String} (about : methods ⊆ documentMethods)
      : lastMethod? (written ++ [message]) uri methods = lastMethod? written uri methods := by
    rw [lastMethod?, last about, lastMethod?]
  have changed : changes (written ++ [message]) uri = changes written uri := by
    rw [changes_concat, quiet (by decide), quiet (by decide)]
    rfl
  exact {
    open_iff := by rw [lastMethod (by decide)]; exact told.open_iff
    language := by rw [last (by decide)]; exact told.language
    version := by rw [changed]; exact told.version
    unsynced_iff := by rw [lastMethod (by decide)]; exact told.unsynced_iff }

/-- The message of a call tells of its document what the call makes of it. One case for each call:
what was told before goes on, but for what the call sets.
-/
theorem Tells.concat_call (told : Tells written uri known) (call : DocumentCall) (version : Nat)
    : Tells (written ++ [call.message uri version]) uri (call.outcome known) := by
  obtain ⟨isOpen, language, counted, unsynced⟩ := told
  constructor
  · rw [lastMethod?_concat, tells_message]
    cases call <;> simp [DocumentCall.outcome, DocumentCall.method, isOpen]
  · rw [last?_concat, tells_message]
    cases call with
    | didOpen => simp [DocumentCall.outcome, DocumentCall.method, language?_message]
    | didChange => simpa [DocumentCall.outcome, DocumentCall.method] using language
    | didSave => simpa [DocumentCall.outcome, DocumentCall.method] using language
    | didClose => simp [DocumentCall.outcome]
  · rw [changes_concat, tells_message, tells_message]
    cases call with
    | didOpen => simp [DocumentCall.outcome, DocumentCall.method]
    | didChange => simpa [DocumentCall.outcome, DocumentCall.method, ← Nat.add_assoc] using counted
    | didSave => simpa [DocumentCall.outcome, DocumentCall.method] using counted
    | didClose => simp [DocumentCall.outcome]
  · rw [lastMethod?_concat, tells_message]
    cases call <;> simp [DocumentCall.outcome, DocumentCall.method]

end Report

namespace Editor

variable {τ κ : Type} [Transport τ]

/-- What is known of every document is what was told of it. -/
def InStep (editor : Editor τ κ) : Prop :=
  ∀ uri, Report.Tells editor.written uri (editor.documents.get? uri)

theorem inStep_call {editor : Editor τ κ} (inStep : editor.InStep) (uri : String)
    (call : DocumentCall)
    : (editor.call uri call).1.InStep := by
  intro other
  have accounts := editor.accounts uri call
  rcases made : (editor.call uri call).2 with error | version
  · obtain ⟨written, documents⟩ := accounts.undone error made
    rw [written, documents]
    exact inStep other
  · rw [accounts.written version made, accounts.kept version made]
    split
    · next same =>
        rw [same]
        exact (inStep uri).concat_call call version
    · next apart =>
        refine (inStep other).concat_of_silent fun method _ => ?_
        simp [Report.tells_message, Ne.symm apart]

/-- What is done meanwhile sends no message about a document. -/
theorem used_of_isAside (connection : Connection (Overheard τ) κ)
    {operation : Connection.Operation (Overheard τ) κ} (aside : operation.IsAside)
    (own : ∀ change, operation ≠ .disturb change)
    : Transport.Used Message.IsAside connection.transport
        (connection.after operation).transport := by
  cases operation with
  | openSession params ticket => exact connection.openSession_used params ticket
  | request method params ticket =>
      obtain ⟨after, result, written, requested⟩ := connection.request_cases method params ticket
      simp only [Connection.after, Connection.perform, written]
      refine requested.used fun about listed same => ?_
      obtain rfl : method = about := by simpa using same
      exact aside listed
  | notify method params =>
      obtain ⟨after, result, written, notified⟩ := connection.notify_cases method params
      simp only [Connection.after, Connection.perform, written]
      cases notified with
      | refused => exact .unused
      | written _ sent =>
          refine .sent .unused (fun about listed same => ?_) sent
          obtain rfl : method = about := by simpa using same
          exact aside listed
  | shutdown ticket => exact connection.shutdown_used ticket
  | exit => exact connection.exit_used
  | reset => exact .unused
  | poll => exact connection.poll_used
  | listen listener => exact .unused
  | disturb change => exact absurd rfl (own change)

/-- Whatever is done meanwhile, the books stay in order. Induction on the use of the transport. -/
theorem inStep_meanwhile {editor : Editor τ κ} (inStep : editor.InStep)
    {operation : Connection.Operation (Overheard τ) κ} (aside : operation.IsAside)
    : (editor.after (.meanwhile operation aside)).InStep := by
  by_cases disturbs : ∃ change, operation = .disturb change
  · obtain ⟨_, rfl⟩ := disturbs
    obtain ⟨inside, rfl⟩ := aside
    exact inStep
  · have used := used_of_isAside editor.connection aside fun change same => disturbs ⟨change, same⟩
    refine used.induct
      (P := fun transport : Overheard τ =>
        ∀ uri, Report.Tells transport.written uri (editor.documents.get? uri))
      ?_ ?_ inStep
    · intro transport message quiet told uri
      rcases sent : (Transport.send transport message).2 with error | _
      · rw [Overheard.send_written_of_error sent]
        exact told uri
      · rw [Overheard.send_written_of_ok sent]
        refine (told uri).concat_of_silent fun method listed => ?_
        simp [Report.tells, quiet method listed]
    · intro transport told uri
      rw [Overheard.receive_written]
      exact told uri

omit [Transport τ] in
theorem inStep_fresh (connection : Connection τ κ) : (fresh connection).InStep :=
  Report.tells_nothing

theorem inStep_run {editor : Editor τ κ} (inStep : editor.InStep) (moves : List (Move τ κ))
    : (editor.run moves).InStep := by
  induction moves generalizing editor with
  | nil => exact inStep
  | cons move rest ih =>
      cases move with
      | call uri call => exact ih (inStep_call inStep uri call)
      | meanwhile operation aside => exact ih (inStep_meanwhile inStep aside)

/-- Over any connection, whatever is done with it and whatever becomes of what is written: at every
moment each document is known as the notifications tell that were written about it, and every call
that is made then accounts for what it does.
-/
theorem documents_follow_the_wire (connection : Connection τ κ) (moves : List (Move τ κ))
    : let editor := (fresh connection).run moves
      (∀ uri, Report.Tells editor.written uri (editor.documents.get? uri))
      ∧ ∀ uri call, Accounts editor uri call (editor.call uri call).1 (editor.call uri call).2 :=
  ⟨inStep_run (inStep_fresh connection) moves, fun uri call => accounts _ uri call⟩

end Editor

end LanguageClient
