import LanguageClient.Document
import LanguageClient.Proofs.Table

/-! The steps on open documents: which are legal, what they lead to, and what the server is told. -/

namespace LanguageClient

/-- The methods of notifications about documents. -/
def documentMethods : List String :=
  ["textDocument/didOpen", "textDocument/didChange", "textDocument/didSave",
    "textDocument/didClose"]

namespace Documents

/-- A legal step on documents, and the notification that tells of it. -/
inductive Step (documents : Documents) : Documents → DocumentNotice → Prop
  | opened {uri language text} (absent : documents.get? uri = none)
    : Step documents (documents.insert uri { language, version := 1, synced := true })
        { method := "textDocument/didOpen", params := Message.didOpen uri language 1 text
          version := 1 }
  | changed {uri text document} (found : documents.get? uri = some document)
    : Step documents
        (documents.insert uri { document with version := document.version + 1, synced := false })
        { method := "textDocument/didChange"
          params := Message.didChange uri (document.version + 1) text
          version := document.version + 1 }
  | saved {uri text document} (found : documents.get? uri = some document)
    : Step documents (documents.insert uri { document with synced := true })
        { method := "textDocument/didSave", params := Message.didSave uri text
          version := document.version }
  | closed {uri document} (found : documents.get? uri = some document)
    : Step documents (documents.erase uri)
        { method := "textDocument/didClose", params := Message.document uri
          version := document.version }

/-- Every step is announced by its method. -/
theorem Step.method_mem {documents after : Documents} {notice : DocumentNotice}
    (step : Step documents after notice)
    : notice.method ∈ documentMethods := by
  cases step <;> simp [documentMethods]

variable {documents after : Documents} {notice : DocumentNotice} {uri text : String}

/-- A document that is opened was not open, and has version 1. -/
theorem didOpen_eq_ok {language : String}
    (opened : documents.didOpen uri language text = .ok (after, notice))
    : documents.get? uri = none
      ∧ after = documents.insert uri { language, version := 1, synced := true }
      ∧ notice
        = { method := "textDocument/didOpen", params := Message.didOpen uri language 1 text
            version := 1 } := by
  unfold didOpen at opened
  split at opened
  · cases opened
  · next absent =>
      obtain ⟨rfl, rfl⟩ := Prod.mk.inj (Except.ok.inj opened)
      exact ⟨by simpa [Table.contains] using absent, rfl, rfl⟩

theorem didChange_eq_ok (changed : documents.didChange uri text = .ok (after, notice))
    : ∃ document,
        documents.get? uri = some document
        ∧ after
          = documents.insert uri { document with version := document.version + 1, synced := false }
        ∧ notice
          = { method := "textDocument/didChange"
              params := Message.didChange uri (document.version + 1) text
              version := document.version + 1 } := by
  unfold didChange at changed
  split at changed
  · cases changed
  · next document found =>
      split at changed
      · obtain ⟨rfl, rfl⟩ := Prod.mk.inj (Except.ok.inj changed)
        exact ⟨document, found, rfl, rfl⟩
      · cases changed

theorem didSave_eq_ok {saved : Option String}
    (done : documents.didSave uri saved = .ok (after, notice))
    : ∃ document,
        documents.get? uri = some document
        ∧ after = documents.insert uri { document with synced := true }
        ∧ notice
          = { method := "textDocument/didSave", params := Message.didSave uri saved
              version := document.version } := by
  unfold didSave at done
  split at done
  · cases done
  · next document found =>
      obtain ⟨rfl, rfl⟩ := Prod.mk.inj (Except.ok.inj done)
      exact ⟨document, found, rfl, rfl⟩

theorem didClose_eq_ok (closed : documents.didClose uri = .ok (after, notice))
    : ∃ document,
        documents.get? uri = some document
        ∧ after = documents.erase uri
        ∧ notice
          = { method := "textDocument/didClose", params := Message.document uri
              version := document.version } := by
  unfold didClose at closed
  split at closed
  · cases closed
  · next document found =>
      obtain ⟨rfl, rfl⟩ := Prod.mk.inj (Except.ok.inj closed)
      exact ⟨document, found, rfl, rfl⟩

theorem didOpen_step {language : String}
    (opened : documents.didOpen uri language text = .ok (after, notice))
    : Step documents after notice := by
  obtain ⟨absent, rfl, rfl⟩ := didOpen_eq_ok opened
  exact .opened absent

theorem didChange_step (changed : documents.didChange uri text = .ok (after, notice))
    : Step documents after notice := by
  obtain ⟨_, found, rfl, rfl⟩ := didChange_eq_ok changed
  exact .changed found

theorem didSave_step {saved : Option String}
    (done : documents.didSave uri saved = .ok (after, notice))
    : Step documents after notice := by
  obtain ⟨_, found, rfl, rfl⟩ := didSave_eq_ok done
  exact .saved found

theorem didClose_step (closed : documents.didClose uri = .ok (after, notice))
    : Step documents after notice := by
  obtain ⟨_, found, rfl, rfl⟩ := didClose_eq_ok closed
  exact .closed found

-----------------------------------------------------------------------------------------
-- Steps on one document
-----------------------------------------------------------------------------------------

/-- A step is about one document: where it is legal, it leaves what is known of the others. -/
def IsAbout (uri : String) (step : Documents → Except ClientError (Documents × DocumentNotice))
    : Prop :=
  ∀ documents stepped notice,
    step documents = .ok (stepped, notice) →
      ∀ other, other ≠ uri → stepped.get? other = documents.get? other

theorem didOpen_isAbout (uri language text : String)
    : IsAbout uri (·.didOpen uri language text) := by
  intro documents stepped notice legal other apart
  obtain ⟨_, rfl, _⟩ := didOpen_eq_ok legal
  rw [Table.get?_insert, if_neg apart]

theorem didChange_isAbout (uri text : String) : IsAbout uri (·.didChange uri text) := by
  intro documents stepped notice legal other apart
  obtain ⟨_, _, rfl, _⟩ := didChange_eq_ok legal
  rw [Table.get?_insert, if_neg apart]

theorem didSave_isAbout (uri : String) (text : Option String)
    : IsAbout uri (·.didSave uri text) := by
  intro documents stepped notice legal other apart
  obtain ⟨_, _, rfl, _⟩ := didSave_eq_ok legal
  rw [Table.get?_insert, if_neg apart]

theorem didClose_isAbout (uri : String) : IsAbout uri (·.didClose uri) := by
  intro documents stepped notice legal other apart
  obtain ⟨_, _, rfl, _⟩ := didClose_eq_ok legal
  rw [Table.get?_erase, if_neg apart]

/-- Putting back what was known of a document undoes a step on it. -/
theorem IsAbout.restore {step : Documents → Except ClientError (Documents × DocumentNotice)}
    {stepped : Documents} (about : IsAbout uri step)
    (legal : step documents = .ok (stepped, notice))
    : stepped.restore uri (documents.get? uri) = documents :=
  Table.set_get? (about documents stepped notice legal)

end Documents

end LanguageClient
