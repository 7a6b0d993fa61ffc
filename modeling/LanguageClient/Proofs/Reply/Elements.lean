import LanguageClient.Proofs.Reply.Outline
import LanguageClient.Reply.Answer

/-! Lists in responses are decoded element by element: each element gives at most one item, whatever
stands around it. So it is for the responses that are lists, and for the lists inside symbols, edits
of a document, signature help and signatures.
-/

namespace LanguageClient.Reply

-----------------------------------------------------------------------------------------
-- Lists decoded element by element
-----------------------------------------------------------------------------------------

variable {α β : Type}

/-- The items of a list are those of its parts, one after the other, and an element has at most one.
So an element that has none can be put anywhere, or taken away, and the items stay the same.
-/
structure EachAlone (items : List Json → List α) : Prop where
  append : ∀ front back, items (front ++ back) = items front ++ items back
  single : ∀ element, (items [element]).length ≤ 1
  spared
    : ∀ front element back,
        items [element] = [] → items (front ++ element :: back) = items (front ++ back)

/-- A list is always decoded, and what it is decoded to is made of its items, which are read element
by element.
-/
def DecodesEach (decode : List Json → β) (whole : List α → β) : Prop :=
  ∃ items : List Json → List α,
    EachAlone items ∧ ∀ elements, decode elements = whole (items elements)

theorem eachAlone_filterMap (read? : Json → Option α) : EachAlone (List.filterMap read?) where
  append _ _ := List.filterMap_append
  single element := List.length_filterMap_le read? [element]
  spared _ element _ empty := by
    have unread : read? element = none :=
      List.filterMap_eq_nil_iff.mp empty element List.mem_cons_self
    rw [List.filterMap_append, List.filterMap_append, List.filterMap_cons_none unread]

theorem decodesEach_of_filterMap {decode : List Json → β} {whole : List α → β}
    (read? : Json → Option α)
    (decoded : ∀ elements, decode elements = whole (elements.filterMap read?))
    : DecodesEach decode whole :=
  ⟨_, eachAlone_filterMap read?, decoded⟩

-----------------------------------------------------------------------------------------
-- Lists inside a response
-----------------------------------------------------------------------------------------

namespace Symbol

/-- The symbol with other symbols inside it. -/
def withChildren : Symbol → List Symbol → Symbol
  | .node name detail kind range selection _, children =>
      .node name detail kind range selection children

/-- What a symbol says of itself does not depend on the symbols inside it. -/
theorem Header.ofRecord?_withField (record : Json.Record) (inside : Json)
    : Header.ofRecord? (record.withField 5 "children" inside) = Header.ofRecord? record := by
  simp (disch := decide) only [Header.ofRecord?, Json.Record.required_withField_of_ne,
    Json.Record.lenient_withField_of_ne]

/-- The symbols inside a nested symbol are read element by element, and the rest of it stays. -/
theorem decodesEach_children {value : Json} {symbol : Symbol} {inside : List Json}
    (read : ofJson? value = some symbol) (nested : value.get? "location" = none)
    (given : value.field? 5 "children" = some (.arr inside))
    : DecodesEach (fun elements => ofJson? (value.withField 5 "children" (.arr elements)))
        (fun children => some (symbol.withChildren children)) := by
  rw [ofJson?_of_nested nested] at read
  obtain ⟨record, seen, read⟩ := Option.bind_eq_some_iff.mp read
  obtain ⟨header, said, read⟩ := Option.bind_eq_some_iff.mp read
  obtain ⟨children, _, rfl⟩ := Option.map_eq_some_iff.mp read
  rw [Json.Record.field?_of_of? seen] at given
  apply decodesEach_of_filterMap ofJson?
  intro elements
  have elsewhere : (value.withField 5 "children" (.arr elements)).get? "location" = none := by
    rw [Json.get?_withField value _ (by decide), nested]
  rw [ofJson?_of_nested elsewhere, Json.Record.of?_withField, seen, Option.map_some,
    Option.bind_some, ofRecord?, Header.ofRecord?_withField, said, Option.bind_some,
    Json.Record.withDefault_withField_self given, listOfJson?, listOfElements_eq_filterMap]
  rfl

end Symbol

/-- The edits of a versioned document are read element by element, and its name stays. -/
theorem decodesEach_documentEdits {value : Json} {group : FileEdits}
    (read : documentEdits? value = some group)
    : DecodesEach (fun elements => documentEdits? (value.set "edits" (.arr elements)))
        (fun edits => some { group with edits }) := by
  simp only [documentEdits?, Option.bind_eq_bind, Option.bind_eq_some_iff, Option.pure_def] at read
  obtain ⟨document, found, _, has, uri, text, _, given, _, _, made⟩ := read
  obtain rfl := Option.some.inj made
  apply decodesEach_of_filterMap TextEdit.ofJson?
  intro elements
  have elsewhere
      : (value.set "edits" (.arr elements)).get? "textDocument" = some document := by
    rw [Json.get?_set value _ _ _ (by decide), found]
  simp only [documentEdits?, elsewhere, has, text, Json.get?_set_self given, Json.array?,
    Option.bind_eq_bind, Option.bind_some, Option.pure_def, textEdits]

/-- The parameters of a signature are those of its list that can be read for its label; with another
list the rest of it stays.
-/
theorem Signature.ofJson?_withField {value : Json} {signature : Signature} {written : List Json}
    (read : ofJson? value = some signature)
    (given : value.field? 2 "parameters" = some (.arr written))
    : signature.parameters = written.filterMap (Parameter.ofJson? signature.label)
      ∧ ∀ elements,
          ofJson? (value.withField 2 "parameters" (.arr elements))
          = some {
              signature with parameters := elements.filterMap (Parameter.ofJson? signature.label) }
    := by
  simp only [ofJson?, Option.bind_eq_bind, Option.bind_eq_some_iff] at read
  obtain ⟨record, seen, label, named, parameters, listed, made⟩ := read
  obtain rfl := Option.some.inj made
  rw [Json.Record.field?_of_of? seen] at given
  constructor
  · rw [Json.Record.withDefault, given] at listed
    obtain rfl := Option.some.inj listed
    rfl
  · intro elements
    rw [ofJson?, Json.Record.of?_withField, seen]
    simp (disch := decide) only [Json.Record.required_withField_of_ne,
      Json.Record.lenient_withField_of_ne, Json.Record.withDefault_withField_self given, named,
      Json.array?, Option.map_some, Option.bind_eq_bind, Option.bind_some, Option.pure_def]

/-- The signatures of signature help are read element by element, and what is active stays. Without
a signature there is no help.
-/
theorem decodesEach_signatures (members : List (String × Json))
    : DecodesEach
        (fun elements => decodeSignatureHelp ((Json.obj members).set "signatures" (.arr elements)))
        (fun signatures =>
          .ok (if signatures.isEmpty then none else some {
            signatures
            activeSignature :=
              ((Json.Record.named members).lenient 1 "activeSignature" Json.u32?).getD 0
            activeParameter :=
              (Json.Record.named members).lenient 2 "activeParameter" Json.u32? })) := by
  apply decodesEach_of_filterMap Signature.ofJson?
  intro elements
  have listed
      : Json.lookup? "signatures" (insertEntry "signatures" (.arr elements) members)
        = some (.arr elements) := by
    rw [Json.lookup?, lookup_insertEntry, if_pos rfl]
  have kept : Json.Record.named (insertEntry "signatures" (.arr elements) members)
      = (Json.Record.named members).withField 0 "signatures" (.arr elements) := rfl
  rw [Json.set, decodeSignatureHelp, listed, kept]
  simp (disch := decide) only [Json.Record.lenient_withField_of_ne]
  split <;> rfl

-----------------------------------------------------------------------------------------
-- All lists of responses
-----------------------------------------------------------------------------------------

/-- A list that answers a question is always decoded, element by element. So are, one level down, the
symbols inside a nested symbol, the edits of a document in either form, the signatures of signature
help, and the parameters of a signature; what they stand in is decoded whatever they are, and all
else of it stays the same.
-/
theorem elements_are_decoded_alone
    : DecodesEach (fun elements => Topic.completion.read (.arr elements))
        (fun items => .ok (.completion ⟨false, items⟩))
      ∧ (∀ topic ∈ [Topic.definition, .references],
          DecodesEach (fun elements => topic.read (.arr elements))
            (fun found => .ok (.locations found)))
      ∧ DecodesEach (fun elements => Topic.formatting.read (.arr elements))
          (fun edits => .ok (.formatting edits))
      ∧ DecodesEach (fun elements => Topic.codeAction.read (.arr elements))
          (fun offers => .ok (.codeActions offers))
      ∧ DecodesEach (fun elements => Topic.documentSymbol.read (.arr elements))
          (fun roots => .ok (.outline roots))
      ∧ (∀ (value : Json) symbol inside,
          Symbol.ofJson? value = some symbol → value.get? "location" = none →
            value.field? 5 "children" = some (.arr inside) →
              DecodesEach
                (fun elements => Symbol.ofJson? (value.withField 5 "children" (.arr elements)))
                (fun children => some (symbol.withChildren children)))
      ∧ (∀ (value : Json) group,
          documentEdits? value = some group →
            DecodesEach (fun elements => documentEdits? (value.set "edits" (.arr elements)))
              (fun edits => some { group with edits }))
      ∧ (∀ uri,
          DecodesEach (fun elements => keyedEdits? (uri, .arr elements))
            (fun edits => some ⟨uri, edits⟩))
      ∧ (∀ members,
          DecodesEach
            (fun elements =>
              decodeSignatureHelp ((Json.obj members).set "signatures" (.arr elements)))
            (fun signatures =>
              .ok (if signatures.isEmpty then none else some {
                signatures
                activeSignature :=
                  ((Json.Record.named members).lenient 1 "activeSignature" Json.u32?).getD 0
                activeParameter :=
                  (Json.Record.named members).lenient 2 "activeParameter" Json.u32? })))
      ∧ ∀ (value : Json) signature written,
          Signature.ofJson? value = some signature →
            value.field? 2 "parameters" = some (.arr written) →
              DecodesEach
                (fun elements => Signature.ofJson? (value.withField 2 "parameters" (.arr elements)))
                (fun parameters => some { signature with parameters }) := by
  refine ⟨?completion, ?locations, ?formatting, ?codeAction, ?documentSymbol, ?children,
    ?documentEdits, ?keyedEdits, decodesEach_signatures, ?parameters⟩
  case completion => exact decodesEach_of_filterMap CompletionItem.ofJson? fun _ => rfl
  case locations =>
    intro topic member
    rcases List.mem_cons.mp member with rfl | member
    · exact decodesEach_of_filterMap Location.ofJson? fun _ => rfl
    · obtain rfl := List.mem_singleton.mp member
      exact decodesEach_of_filterMap Location.ofJson? fun _ => rfl
  case formatting => exact decodesEach_of_filterMap TextEdit.ofJson? fun _ => rfl
  case codeAction => exact decodesEach_of_filterMap CodeOffer.ofJson? fun _ => rfl
  case documentSymbol =>
    refine decodesEach_of_filterMap Symbol.ofJson? fun elements => ?_
    rw [← Symbol.listOfElements_eq_filterMap]
    rfl
  case children => exact fun _ _ _ read nested given => Symbol.decodesEach_children read nested given
  case documentEdits => exact fun _ _ read => decodesEach_documentEdits read
  case keyedEdits => exact fun _ => decodesEach_of_filterMap TextEdit.ofJson? fun _ => rfl
  case parameters =>
    exact fun _ _ _ read given => decodesEach_of_filterMap _ (Signature.ofJson?_withField read given).2

/-- A symbol and a signature that are written as lists, the edits of a document, and one of the
topics that are answered by locations.
-/
theorem listed_elements_are_decoded_alone
    : let range : Json := .arr [.arr [.nat 0, .nat 0], .arr [.nat 0, .nat 3]]
      let outer : Json := .arr [.str "f", .nat 12, range, range, .null, .arr [.null]]
      let symbol : Symbol := .node "f" none 12 ⟨⟨0, 0⟩, ⟨0, 3⟩⟩ ⟨⟨0, 0⟩, ⟨0, 3⟩⟩ []
      let document : Json :=
        .obj [("edits", .arr [.null]), ("textDocument", .obj [("uri", .str "file:///a")])]
      let signature : Json := .arr [.str "f(x)", .null, .arr [.arr [.str "x"]]]
      let x : Parameter := ⟨"x", none, none⟩
      (Symbol.ofJson? outer = some symbol
        ∧ DecodesEach
          (fun elements => Symbol.ofJson? (outer.withField 5 "children" (.arr elements)))
          (fun children => some (symbol.withChildren children)))
      ∧ (documentEdits? document = some ⟨"file:///a", []⟩
        ∧ DecodesEach (fun elements => documentEdits? (document.set "edits" (.arr elements)))
          (fun edits => some ⟨"file:///a", edits⟩))
      ∧ (Signature.ofJson? signature = some ⟨"f(x)", none, [x], none⟩
        ∧ DecodesEach
          (fun elements => Signature.ofJson? (signature.withField 2 "parameters" (.arr elements)))
          (fun parameters => some ⟨"f(x)", none, parameters, none⟩))
      ∧ DecodesEach (fun elements => Topic.references.read (.arr elements))
          (fun found => .ok (.locations found)) := by
  intro range outer symbol document signature x
  obtain ⟨-, locations, -, -, -, children, edits, -, -, parameters⟩ := elements_are_decoded_alone
  have outerRead : Symbol.ofJson? outer = some symbol := rfl
  have documentRead : documentEdits? document = some ⟨"file:///a", []⟩ := by decide +kernel
  have signatureRead : Signature.ofJson? signature = some ⟨"f(x)", none, [x], none⟩ := by
    decide +kernel
  exact ⟨⟨outerRead, children outer symbol _ outerRead rfl rfl⟩,
    ⟨documentRead, edits document _ documentRead⟩,
    ⟨signatureRead, parameters signature _ _ signatureRead rfl⟩,
    locations .references (by decide)⟩

end LanguageClient.Reply
