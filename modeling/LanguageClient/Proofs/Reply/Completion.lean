import LanguageClient.Proofs.Reply.Member
import LanguageClient.Proofs.Selection
import LanguageClient.Reply.Completion
import Mathlib.Data.List.Nodup

/-! Completions are read member by member. What an item tells under one of its names depends on the
member of that name alone, and only an item without a label is left out.
-/

namespace LanguageClient.Reply

-----------------------------------------------------------------------------------------
-- Kinds
-----------------------------------------------------------------------------------------

/-- The number of a kind: the kinds are numbered from one, in their order. -/
def CompletionKind.number (kind : CompletionKind) : Nat :=
  kind.ctorIdx + 1

theorem CompletionKind.ofNat?_eq_some_iff {n : Nat} {kind : CompletionKind}
    : ofNat? n = some kind ↔ n = kind.number := by
  have listed : all[kind.ctorIdx]? = some kind := by cases kind <;> rfl
  have distinct : all.Nodup := by decide
  constructor
  · intro found
    unfold ofNat? at found
    split at found
    · cases found
    · next positive =>
        have within := (List.getElem?_eq_some_iff.mp listed).1
        have same := (List.getElem?_inj within distinct).mp (listed.trans found.symm)
        rw [number, same]
        omega
  · rintro rfl
    simpa [ofNat?, number] using listed

theorem CompletionKind.number_lt (kind : CompletionKind) : kind.number < Text.word64 := by
  cases kind <;> decide

/-- The value is the number of the kind. -/
def IsKind (value : Json) (kind : CompletionKind) : Prop :=
  value = .nat kind.number

theorem bind_ofNat?_eq_some_iff {value : Json} {kind : CompletionKind}
    : value.u64?.bind CompletionKind.ofNat? = some kind ↔ IsKind value kind := by
  simp only [Option.bind_eq_some_iff, Json.u64?, Json.natBelow?_eq_some_iff,
    CompletionKind.ofNat?_eq_some_iff, IsKind]
  constructor
  · rintro ⟨_, ⟨rfl, _⟩, rfl⟩
    rfl
  · rintro rfl
    exact ⟨_, ⟨rfl, kind.number_lt⟩, rfl⟩

-----------------------------------------------------------------------------------------
-- Items
-----------------------------------------------------------------------------------------

/-- The members tell this item. -/
structure CompletionItem.IsTold (members : List (String × Json)) (item : CompletionItem)
    : Prop where
  label : Json.lookup? "label" members = some (.str item.label)
  kind : Tells IsKind (Json.lookup? "kind" members) item.kind
  detail : Tells (fun value text => value = .str text) (Json.lookup? "detail" members) item.detail
  documentation : Tells IsMarkup (Json.lookup? "documentation" members) item.documentation
  insertText
    : Tells (fun value text => value = .str text) (Json.lookup? "insertText" members)
        item.insertText
  filterText
    : Tells (fun value text => value = .str text) (Json.lookup? "filterText" members)
        item.filterText
  sortText
    : Tells (fun value text => value = .str text) (Json.lookup? "sortText" members) item.sortText

/-- An item tells the same as another one, except perhaps under one name. -/
structure CompletionItem.SameBut (name : String) (first second : CompletionItem) : Prop where
  label : second.label = first.label
  kind : name ≠ "kind" → second.kind = first.kind
  detail : name ≠ "detail" → second.detail = first.detail
  documentation : name ≠ "documentation" → second.documentation = first.documentation
  insertText : name ≠ "insertText" → second.insertText = first.insertText
  filterText : name ≠ "filterText" → second.filterText = first.filterText
  sortText : name ≠ "sortText" → second.sortText = first.sortText

namespace CompletionItem

variable {members changed : List (String × Json)} {item other : CompletionItem}

/-- What is read of an object is what its members tell. -/
theorem isTold_of_ofJson? (read : ofJson? (.obj members) = some item) : item.IsTold members := by
  simp only [ofJson?, Json.Record.of?, Json.Record.required, Json.Record.get?, Json.Record.lenient,
    Option.bind_eq_bind, Option.bind_some, Option.bind_eq_some_iff, Json.string?_eq_some_iff,
    Option.pure_def, Option.some_inj, exists_eq_right] at read
  obtain ⟨label, given, rfl⟩ := read
  have text (name : String)
      : Tells (fun value text => value = .str text) (Json.lookup? name members)
          ((Json.lookup? name members).bind Json.string?) :=
    tells_bind (fun _ _ => Json.string?_eq_some_iff) _
  refine ⟨given, ?_, text "detail", ?_, text "insertText", text "filterText", text "sortText"⟩
  · rw [Option.bind_assoc]
    exact tells_bind (fun _ _ => bind_ofNat?_eq_some_iff) _
  · exact tells_bind (fun _ _ => markupText?_eq_some_iff) _

/-- The members of an object tell one item only. -/
theorem IsTold.unique (one : item.IsTold members) (two : other.IsTold members) : item = other := by
  have label := one.label.symm.trans two.label
  have kind := one.kind.unique two.kind
  have detail := one.detail.unique two.detail
  have documentation := one.documentation.unique two.documentation
  have insertText := one.insertText.unique two.insertText
  have filterText := one.filterText.unique two.filterText
  have sortText := one.sortText.unique two.sortText
  cases item
  cases other
  simp_all

/-- An object with a label is read as an item, whatever its other members are. -/
theorem exists_ofJson? {label : String}
    (given : Json.lookup? "label" members = some (.str label))
    : ∃ item, ofJson? (.obj members) = some item := by
  simp [ofJson?, Json.Record.of?, Json.Record.required, Json.Record.get?, given, Json.string?]

/-- An object is read as the item that its members tell. -/
theorem ofJson?_eq_some_iff : ofJson? (.obj members) = some item ↔ item.IsTold members := by
  refine ⟨isTold_of_ofJson?, fun told => ?_⟩
  obtain ⟨other, read⟩ := exists_ofJson? told.label
  rw [read, (isTold_of_ofJson? read).unique told]

/-- Members tell an item exactly when the label is a string. -/
theorem exists_isTold_iff
    : (∃ item, IsTold members item)
      ↔ ∃ label, Json.lookup? "label" members = some (.str label) := by
  constructor
  · rintro ⟨item, told⟩
    exact ⟨_, told.label⟩
  · rintro ⟨label, given⟩
    obtain ⟨item, read⟩ := exists_ofJson? given
    exact ⟨item, isTold_of_ofJson? read⟩

/-- Where another member is changed, or taken away, an item is told that differs under its name
alone.
-/
theorem IsTold.exists_sameBut {name : String} (told : item.IsTold members)
    (named : name ≠ "label")
    (elsewhere : ∀ key, key ≠ name → Json.lookup? key changed = Json.lookup? key members)
    : ∃ other, CompletionItem.IsTold changed other ∧ item.SameBut name other := by
  have label := elsewhere "label" named.symm
  obtain ⟨other, toldNow⟩ := exists_isTold_iff.mpr ⟨_, label.trans told.label⟩
  refine ⟨other, toldNow, ?_, fun apart => ?_, fun apart => ?_, fun apart => ?_, fun apart => ?_,
    fun apart => ?_, fun apart => ?_⟩
  · have same := (toldNow.label.symm.trans label).trans told.label
    exact Json.str.inj (Option.some.inj same)
  · exact toldNow.kind.unique (elsewhere "kind" apart.symm ▸ told.kind)
  · exact toldNow.detail.unique (elsewhere "detail" apart.symm ▸ told.detail)
  · exact toldNow.documentation.unique (elsewhere "documentation" apart.symm ▸ told.documentation)
  · exact toldNow.insertText.unique (elsewhere "insertText" apart.symm ▸ told.insertText)
  · exact toldNow.filterText.unique (elsewhere "filterText" apart.symm ▸ told.filterText)
  · exact toldNow.sortText.unique (elsewhere "sortText" apart.symm ▸ told.sortText)

end CompletionItem

-----------------------------------------------------------------------------------------
-- Lists of completions
-----------------------------------------------------------------------------------------

/-- The items of a list of objects are those that can be read, in order. -/
theorem selects_filterMap_ofJson? (objects : List (List (String × Json)))
    : Selects CompletionItem.IsTold objects
        ((objects.map Json.obj).filterMap CompletionItem.ofJson?) := by
  rw [List.filterMap_map]
  exact (selects_iff fun _ _ => CompletionItem.ofJson?_eq_some_iff).mpr rfl

/-- A list of objects is always decoded, to what those with a string as label tell, in order: each
under one name what the member of that name tells, and nothing if its value is not of the right
kind. So an object whose members are changed under another name than the label stays among the
items, and differs there under this name alone. An object that holds a list decodes to the same
items, and is incomplete only if it says so.
-/
theorem items_degrade_by_member
    : (∀ objects : List (List (String × Json)),
        ∃ items,
          decodeCompletion (.arr (objects.map .obj)) = .ok ⟨false, items⟩
          ∧ Selects CompletionItem.IsTold objects items)
      ∧ (∀ members,
          (∃ item, CompletionItem.IsTold members item)
          ↔ ∃ label, Json.lookup? "label" members = some (.str label))
      ∧ (∀ front back members changed name item,
          CompletionItem.IsTold members item →
            name ≠ "label" →
              (∀ key, key ≠ name → Json.lookup? key changed = Json.lookup? key members) →
                ∃ before other after,
                  decodeCompletion (.arr (front ++ .obj members :: back))
                      = .ok ⟨false, before ++ item :: after⟩
                  ∧ decodeCompletion (.arr (front ++ .obj changed :: back))
                      = .ok ⟨false, before ++ other :: after⟩
                  ∧ item.SameBut name other)
      ∧ ∀ members elements,
          Json.lookup? "items" members = some (.arr elements) →
            ∃ incomplete items,
              decodeCompletion (.obj members) = .ok ⟨incomplete, items⟩
              ∧ decodeCompletion (.arr elements) = .ok ⟨false, items⟩
              ∧ (incomplete = true
                ↔ Json.lookup? "isIncomplete" members = some (.bool true)) := by
  refine ⟨fun objects => ⟨_, rfl, selects_filterMap_ofJson? objects⟩,
    fun members => CompletionItem.exists_isTold_iff, ?changed, ?wrapped⟩
  case changed =>
    intro front back members changed name item told named elsewhere
    obtain ⟨other, toldNow, same⟩ := told.exists_sameBut named elsewhere
    refine ⟨front.filterMap CompletionItem.ofJson?, other,
      back.filterMap CompletionItem.ofJson?, ?_, ?_, same⟩
    · rw [decodeCompletion, List.filterMap_append,
        List.filterMap_cons_some (CompletionItem.ofJson?_eq_some_iff.mpr told)]
    · rw [decodeCompletion, List.filterMap_append,
        List.filterMap_cons_some (CompletionItem.ofJson?_eq_some_iff.mpr toldNow)]
  case wrapped =>
    intro members elements given
    refine ⟨((Json.lookup? "isIncomplete" members).bind Json.bool?).getD false,
      elements.filterMap CompletionItem.ofJson?, ?_, rfl, ?_⟩
    · rw [decodeCompletion, given]
    · rcases Json.lookup? "isIncomplete" members with _ | value
      · simp
      · cases value <;> simp [Json.bool?]

/-- An item whose kind is negative and whose detail is a number, between an object without a label
and an item that is a list, and the same item with the last of the kinds.
-/
theorem item_with_negative_kind_degrades
    : let members : List (String × Json) :=
        [("detail", .nat 7), ("documentation", .obj [("value", .str "docs")]),
          ("kind", .int (-1)), ("label", .str "x"), ("sortText", .str "0001")]
      let changed := insertEntry "kind" (.nat 25) members
      let item : CompletionItem := ⟨"x", none, none, some "docs", none, none, some "0001"⟩
      let unlabelled : Json := .obj [("kind", .nat 6)]
      let listed : Json := .arr [.str "y", .nat 3]
      (item.IsTold members
        ∧ ∀ key, key ≠ "kind" → Json.lookup? key changed = Json.lookup? key members)
      ∧ (∃ before other after,
          decodeCompletion (.arr [unlabelled, .obj members, listed])
              = .ok ⟨false, before ++ item :: after⟩
          ∧ decodeCompletion (.arr [unlabelled, .obj changed, listed])
              = .ok ⟨false, before ++ other :: after⟩
          ∧ item.SameBut "kind" other)
      ∧ ∃ items,
          decodeCompletion
              (.obj [("isIncomplete", .str "true"), ("items", .arr [unlabelled, .obj members])])
            = .ok ⟨false, items⟩ := by
  intro members changed item unlabelled listed
  obtain ⟨_, _, differ, wrapped⟩ := items_degrade_by_member
  have told : item.IsTold members := CompletionItem.ofJson?_eq_some_iff.mp (by decide +kernel)
  have elsewhere (key : String) (apart : key ≠ "kind")
      : Json.lookup? key changed = Json.lookup? key members := by
    rw [Json.lookup?, lookup_insertEntry, if_neg apart, Json.lookup?]
  refine ⟨⟨told, elsewhere⟩, ?_, ?_⟩
  · exact differ [unlabelled] [listed] members changed "kind" item told (by decide) elsewhere
  · obtain ⟨incomplete, items, decoded, _, only⟩ := wrapped
      [("isIncomplete", .str "true"), ("items", .arr [unlabelled, .obj members])] _ rfl
    have complete : incomplete = false :=
      Bool.eq_false_iff.mpr fun said => nomatch only.mp said
    exact ⟨items, complete ▸ decoded⟩

end LanguageClient.Reply
