import LanguageClient.Proofs.Json.Kind
import LanguageClient.Proofs.Json.Object
import LanguageClient.Proofs.Selection
import LanguageClient.Proofs.Text.Order
import LanguageClient.Reply.CodeAction
import Mathlib.Algebra.GroupWithZero.Nat
import Mathlib.Data.List.Count
import Mathlib.Data.Prod.Basic

/-! The edits of several documents are read without loss: the groups are those of the list of document
changes, or else of the map of changes, and every edit that can be read stands in its group as often as
it was written. A code action holds the same groups.
-/

namespace LanguageClient.Reply

-----------------------------------------------------------------------------------------
-- Edits as they are written
-----------------------------------------------------------------------------------------

/-- The value tells a range and the text to put there. -/
def TextEdit.IsWritten (edit : TextEdit) (value : Json) : Prop :=
  ∃ record range,
    Json.Record.of? 2 value = some record
    ∧ record.get? 0 "range" = some range
    ∧ Range.ofJson? range = some edit.range
    ∧ record.get? 1 "newText" = some (.str edit.newText)

theorem TextEdit.ofJson?_eq_some_iff {value : Json} {edit : TextEdit}
    : ofJson? value = some edit ↔ edit.IsWritten value := by
  simp only [ofJson?, IsWritten, Json.Record.required, Option.bind_eq_bind, Option.bind_eq_some_iff,
    Json.string?_eq_some_iff, Option.pure_def, Option.some_inj]
  constructor
  · rintro ⟨record, seen, read, ⟨range, found, same⟩, text, ⟨_, given, rfl⟩, rfl⟩
    exact ⟨record, range, seen, found, same, given⟩
  · rintro ⟨record, range, seen, found, same, given⟩
    exact ⟨record, seen, _, ⟨range, found, same⟩, _, ⟨_, given, rfl⟩, rfl⟩

instance (edit : TextEdit) (value : Json) : Decidable (edit.IsWritten value) :=
  decidable_of_iff _ TextEdit.ofJson?_eq_some_iff

theorem selects_textEdits (elements : List Json)
    : Selects (fun value edit => TextEdit.IsWritten edit value) elements (textEdits elements) :=
  (selects_iff fun _ _ => TextEdit.ofJson?_eq_some_iff).mpr rfl

/-- The edits of one document, as they are written. -/
structure WrittenEdits where
  uri : String
  elements : List Json

/-- The change of a document names it by its URI and lists its edits. -/
structure WrittenEdits.IsDocumentChange (written : WrittenEdits) (change : Json) : Prop where
  document
    : ∃ document,
        change.get? "textDocument" = some document
        ∧ document.get? "uri" = some (.str written.uri)
  edits : change.get? "edits" = some (.arr written.elements)

/-- What a workspace edit with these members lists: where its document changes are an array, the
changes of documents among them, in order; otherwise the arrays in the map of changes, in the order of
the bytes of their keys. Of several values of one key the last counts.
-/
structure Lists (members : List (String × Json)) (written : List WrittenEdits) : Prop where
  documentChanges
    : ∀ changes,
        Json.lookup? "documentChanges" members = some (.arr changes) →
          Selects (fun change own => own.IsDocumentChange change) changes written
  changes
    : (∀ changes, Json.lookup? "documentChanges" members ≠ some (.arr changes)) →
        (∀ own,
          own ∈ written
          ↔ ∃ changes,
              Json.lookup? "changes" members = some (.obj changes)
              ∧ (Json.object changes).get? own.uri = some (.arr own.elements))
        ∧ written.Pairwise (fun one other => Text.bytes one.uri < Text.bytes other.uri)

/-- The group is that of these edits: it has every edit that can be read, in order. -/
structure WrittenEdits.IsGroup (written : WrittenEdits) (group : FileEdits) : Prop where
  uri : group.uri = written.uri
  edits : Selects (fun value edit => TextEdit.IsWritten edit value) written.elements group.edits

/-- How often an edit is written for a document. -/
def occurrences (uri : String) (edit : TextEdit) (written : List WrittenEdits) : Nat :=
  (written.map fun own =>
    if own.uri = uri then own.elements.countP (fun value => edit.IsWritten value) else 0).sum

/-- The edits of groups, each with the document that it is for. -/
def FileEdits.pairs (groups : List FileEdits) : List (String × TextEdit) :=
  groups.flatMap fun group => group.edits.map fun edit => (group.uri, edit)

-----------------------------------------------------------------------------------------
-- Reading
-----------------------------------------------------------------------------------------

/-- The group of edits as they are written. -/
def WrittenEdits.group (written : WrittenEdits) : FileEdits :=
  ⟨written.uri, textEdits written.elements⟩

theorem WrittenEdits.isGroup_group (written : WrittenEdits) : written.IsGroup written.group :=
  ⟨rfl, selects_textEdits written.elements⟩

/-- The edits that the change of a document lists. -/
def WrittenEdits.ofChange? (change : Json) : Option WrittenEdits := do
  let uri ← (← (← change.get? "textDocument").get? "uri").string?
  let elements ← (← change.get? "edits").array?
  return ⟨uri, elements⟩

theorem WrittenEdits.ofChange?_eq_some_iff {change : Json} {written : WrittenEdits}
    : ofChange? change = some written ↔ written.IsDocumentChange change := by
  simp only [ofChange?, Option.bind_eq_bind, Option.bind_eq_some_iff, Json.string?_eq_some_iff,
    Json.array?_eq_some_iff, Option.pure_def, Option.some_inj]
  constructor
  · rintro ⟨document, found, _, named, uri, rfl, _, given, elements, rfl, rfl⟩
    exact ⟨⟨document, found, named⟩, given⟩
  · rintro ⟨⟨document, found, named⟩, given⟩
    exact ⟨document, found, _, named, _, rfl, _, given, _, rfl, rfl⟩

theorem documentEdits?_eq (change : Json)
    : documentEdits? change = (WrittenEdits.ofChange? change).map WrittenEdits.group := by
  simp only [documentEdits?, WrittenEdits.ofChange?, Option.bind_eq_bind, Option.map_bind,
    Option.pure_def, Function.comp_def, Option.map_some, WrittenEdits.group]

/-- The edits that a member of the map of changes lists. -/
def WrittenEdits.ofMember? (member : String × Json) : Option WrittenEdits :=
  member.2.array?.map (WrittenEdits.mk member.1)

theorem WrittenEdits.ofMember?_eq_some_iff {member : String × Json} {written : WrittenEdits}
    : ofMember? member = some written ↔ member = (written.uri, .arr written.elements) := by
  obtain ⟨uri, value⟩ := member
  obtain ⟨own, elements⟩ := written
  simp only [ofMember?, Option.map_eq_some_iff, Json.array?_eq_some_iff, WrittenEdits.mk.injEq,
    Prod.mk.injEq]
  constructor
  · rintro ⟨_, rfl, rfl, rfl⟩
    exact ⟨rfl, rfl⟩
  · rintro ⟨rfl, rfl⟩
    exact ⟨_, rfl, rfl, rfl⟩

theorem keyedEdits?_eq (member : String × Json)
    : keyedEdits? member = (WrittenEdits.ofMember? member).map WrittenEdits.group := by
  obtain ⟨uri, value⟩ := member
  cases value <;> rfl

theorem lists_of_documentChanges {members : List (String × Json)} {changes : List Json}
    (given : Json.lookup? "documentChanges" members = some (.arr changes))
    : Lists members (changes.filterMap WrittenEdits.ofChange?) where
  documentChanges others found := by
    obtain rfl : others = changes := by
      rw [given] at found
      cases found
      rfl
    exact (selects_iff fun _ _ => WrittenEdits.ofChange?_eq_some_iff).mpr rfl
  changes absent := absurd given (absent changes)

theorem lists_of_changes {members changes : List (String × Json)}
    (absent : ∀ changes, Json.lookup? "documentChanges" members ≠ some (.arr changes))
    (given : Json.lookup? "changes" members = some (.obj changes))
    : Lists members ((Json.sortMembers changes).filterMap WrittenEdits.ofMember?) where
  documentChanges changes found := absurd found (absent changes)
  changes _ := by
    constructor
    · intro own
      simp only [List.mem_filterMap, WrittenEdits.ofMember?_eq_some_iff, exists_eq_right,
        Json.mem_sortMembers_iff, given, Option.some_inj, Json.obj.injEq, exists_eq_left']
    · refine List.pairwise_filterMap.mpr ((Json.ascending_sortMembers changes).imp ?_)
      intro first second less one made other madeToo
      rw [WrittenEdits.ofMember?_eq_some_iff] at made madeToo
      subst made madeToo
      exact Text.bytes_lt_bytes_iff.mpr less

theorem lists_nil {members : List (String × Json)}
    (absent : ∀ changes, Json.lookup? "documentChanges" members ≠ some (.arr changes))
    (unmapped : ∀ changes, Json.lookup? "changes" members ≠ some (.obj changes))
    : Lists members [] where
  documentChanges changes found := absurd found (absent changes)
  changes _ := by simp [unmapped]

/-- A workspace edit is read as the groups of what it lists. -/
theorem exists_lists (members : List (String × Json))
    : ∃ written,
        Lists members written
        ∧ workspaceEdit (.obj members) = written.map WrittenEdits.group := by
  simp only [workspaceEdit, Json.get?]
  cases listed : (Json.lookup? "documentChanges" members).bind Json.array? with
  | some changes =>
      refine ⟨_, lists_of_documentChanges (Json.bind_array?_eq_some_iff.mp listed), ?_⟩
      simp only [List.map_filterMap, funext documentEdits?_eq]
  | none =>
      have absent (changes : List Json)
          : Json.lookup? "documentChanges" members ≠ some (.arr changes) := fun found => by
        rw [found] at listed
        cases listed
      cases keyed : (Json.lookup? "changes" members).bind Json.object? with
      | some changes =>
          refine ⟨_, lists_of_changes absent (Json.bind_object?_eq_some_iff.mp keyed), ?_⟩
          simp only [List.map_filterMap, funext keyedEdits?_eq]
      | none =>
          refine ⟨[], lists_nil absent fun changes found => ?_, rfl⟩
          rw [found] at keyed
          cases keyed

/-- A list of document changes is all that counts where there is one. -/
theorem workspaceEdit_of_documentChanges {members others : List (String × Json)}
    {changes : List Json}
    (given : Json.lookup? "documentChanges" members = some (.arr changes))
    (same : Json.lookup? "documentChanges" others = some (.arr changes))
    : workspaceEdit (.obj others) = workspaceEdit (.obj members) := by
  simp only [workspaceEdit, Json.get?, given, same, Option.bind_some, Json.array?]

-----------------------------------------------------------------------------------------
-- Counting
-----------------------------------------------------------------------------------------

theorem count_pairs_group (written : WrittenEdits) (uri : String) (edit : TextEdit)
    : (written.group.edits.map fun own => (written.group.uri, own)).count (uri, edit)
      = if written.uri = uri then
          written.elements.countP (fun value => edit.IsWritten value)
        else 0 := by
  simp only [WrittenEdits.group, textEdits]
  split
  · next same =>
      subst same
      rw [List.count_map_of_injective _ _ (Prod.mk_right_injective _), List.count_eq_countP,
        List.countP_filterMap]
      refine List.countP_congr fun value _ => ?_
      rw [decide_eq_true_iff, ← TextEdit.ofJson?_eq_some_iff]
      cases TextEdit.ofJson? value <;> simp
  · next other =>
      refine List.count_eq_zero.mpr fun member => ?_
      obtain ⟨_, _, made⟩ := List.mem_map.mp member
      exact other (Prod.mk.inj made).1

/-- Each edit stands in the groups as often as it is written. -/
theorem count_pairs (written : List WrittenEdits) (uri : String) (edit : TextEdit)
    : (FileEdits.pairs (written.map WrittenEdits.group)).count (uri, edit)
      = occurrences uri edit written := by
  simp only [FileEdits.pairs, occurrences, List.count_flatMap, List.map_map, Function.comp_def,
    count_pairs_group]

-----------------------------------------------------------------------------------------
-- Workspace edits
-----------------------------------------------------------------------------------------

/-- A titled offer that is no bare command is an action, and its edit is read whatever it holds. -/
theorem CodeOffer.exists_action {value : Json} {record : Json.Record} {title : String}
    {members : List (String × Json)} (seen : Json.Record.of? 5 value = some record)
    (titled : record.get? 0 "title" = some (.str title))
    (notBare : ∀ name, value.get? "command" ≠ some (.str name))
    (edit : record.get? 2 "edit" = some (.obj members))
    : ∃ action,
        ofJson? value = some (.action action)
        ∧ action.title = title
        ∧ action.edit = workspaceEdit (.obj members) := by
  have read : ofJson? value = (CodeAction.ofJson? value).map .action := by
    unfold ofJson?
    split
    · next name found => exact absurd found (notBare name)
    · rfl
  simp only [read, CodeAction.ofJson?, seen, Json.Record.required, titled, Json.Record.nullable,
    edit, Json.string?, Option.bind_eq_bind, Option.bind_some, Option.map_some, Option.pure_def,
    Option.some_inj, CodeOffer.action.injEq, exists_eq_left', Option.getD_some, and_self]

theorem Lists.nodup_uris {members : List (String × Json)} {written : List WrittenEdits}
    (lists : Lists members written)
    (absent : ∀ changes, Json.lookup? "documentChanges" members ≠ some (.arr changes))
    : (written.map WrittenEdits.uri).Nodup := by
  refine List.pairwise_map.mpr ((lists.changes absent).2.imp fun less same => ?_)
  rw [same] at less
  exact List.lt_irrefl _ less

/-- An object that holds changes is always read as a workspace edit. Its groups are those of what it
lists, one for each, in the same order; each has the edits that can be read, in order, so that every
edit of a document stands in the groups as often as it is written. Without a list of document changes
no document has two groups; with one nothing else counts. A code action with this edit has the same
groups.
-/
theorem workspace_edits_keep_every_edit {members : List (String × Json)}
    (given
      : (Json.lookup? "changes" members).isSome = true
        ∨ (Json.lookup? "documentChanges" members).isSome = true)
    : ∃ groups,
        decodeRename (.obj members) = .ok groups
        ∧ (∃ written,
            Lists members written
            ∧ List.Forall₂ WrittenEdits.IsGroup written groups
            ∧ ∀ uri edit,
                (FileEdits.pairs groups).count (uri, edit) = occurrences uri edit written)
        ∧ ((∀ changes, Json.lookup? "documentChanges" members ≠ some (.arr changes)) →
            (groups.map FileEdits.uri).Nodup)
        ∧ (∀ changes others,
            Json.lookup? "documentChanges" members = some (.arr changes) →
              Json.lookup? "documentChanges" others = some (.arr changes) →
                decodeRename (.obj others) = .ok groups)
        ∧ ∀ value record title,
            Json.Record.of? 5 value = some record →
              record.get? 0 "title" = some (.str title) →
                (∀ name, value.get? "command" ≠ some (.str name)) →
                  record.get? 2 "edit" = some (.obj members) →
                    ∃ action,
                      CodeOffer.ofJson? value = some (.action action)
                      ∧ action.title = title
                      ∧ action.edit = groups := by
  have decoded (others : List (String × Json))
      (given
        : (Json.lookup? "changes" others).isSome = true
          ∨ (Json.lookup? "documentChanges" others).isSome = true)
      : decodeRename (.obj others) = .ok (workspaceEdit (.obj others)) :=
    if_pos (Bool.or_eq_true_iff.mpr given)
  obtain ⟨written, lists, made⟩ := exists_lists members
  refine ⟨workspaceEdit (.obj members), decoded members given, ⟨written, lists, ?groups, ?counted⟩,
    ?distinct, ?alone, ?action⟩
  case groups =>
    rw [made]
    exact List.forall₂_map_right_iff.mpr (List.forall₂_same.mpr fun own _ => own.isGroup_group)
  case counted =>
    intro uri edit
    rw [made, count_pairs]
  case distinct =>
    intro absent
    rw [made, List.map_map]
    exact lists.nodup_uris absent
  case alone =>
    intro changes others found same
    rw [decoded others (.inr (by rw [same]; rfl)), workspaceEdit_of_documentChanges found same]
  case action =>
    exact fun value record title seen titled notBare edit =>
      CodeOffer.exists_action seen titled notBare edit

/-- Two changes of one document among document changes, each with an element that is no edit, beside
the creation of a file and a map of changes that does not count.
-/
theorem document_changed_twice_keeps_every_edit
    : let range : Json := .arr [.arr [.nat 0, .nat 0], .arr [.nat 0, .nat 3]]
      let change : Json :=
        .obj [("edits", .arr [.null, .arr [range, .str "bar"]]),
          ("textDocument", .obj [("uri", .str "file:///a")])]
      let members : List (String × Json) :=
        [("changes", .obj [("file:///b", .arr [.arr [range, .str "bar"]])]),
          ("documentChanges", .arr [change, .obj [("kind", .str "create")], change])]
      let offer : Json := .arr [.str "Rename", .null, .obj members]
      let edit : TextEdit := ⟨⟨⟨0, 0⟩, ⟨0, 3⟩⟩, "bar"⟩
      let groups : List FileEdits := [⟨"file:///a", [edit]⟩, ⟨"file:///a", [edit]⟩]
      ((Json.lookup? "changes" members).isSome = true
        ∧ decodeRename (.obj members) = .ok groups)
      ∧ (∃ written,
          Lists members written
          ∧ occurrences "file:///a" edit written = 2
          ∧ occurrences "file:///b" edit written = 0)
      ∧ decodeRename (.obj members.tail) = .ok groups
      ∧ ∃ action, CodeOffer.ofJson? offer = some (.action action) ∧ action.edit = groups := by
  intro range change members offer edit groups
  have given : (Json.lookup? "changes" members).isSome = true := rfl
  have read : decodeRename (.obj members) = .ok groups := by decide +kernel
  obtain ⟨found, decoded, ⟨written, lists, _, counted⟩, _, alone, action⟩ :=
    workspace_edits_keep_every_edit (.inl given)
  obtain rfl : found = groups := by
    rw [read] at decoded
    cases decoded
    rfl
  refine ⟨⟨given, read⟩, ⟨written, lists, ?_, ?_⟩, ?_, ?_⟩
  · rw [← counted]
    decide +kernel
  · rw [← counted]
    decide +kernel
  · exact alone [change, .obj [("kind", .str "create")], change] members.tail rfl rfl
  · obtain ⟨made, offered, _, same⟩ :=
      action offer _ "Rename" rfl rfl (fun _ found => nomatch found) rfl
    exact ⟨made, offered, same⟩

end LanguageClient.Reply
