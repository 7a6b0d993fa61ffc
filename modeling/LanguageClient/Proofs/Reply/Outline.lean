import LanguageClient.Proofs.Json.Record
import LanguageClient.Proofs.Position
import LanguageClient.Reply.Outline
import Mathlib.Data.List.Basic

/-! Outlines are read as they are written, whatever stands between the symbols and is none, and a
walk through a symbol meets every symbol inside it once, at its place.
-/

namespace LanguageClient.Reply.Symbol

-----------------------------------------------------------------------------------------
-- Forests
-----------------------------------------------------------------------------------------

/-- What holds of no symbols, and of a symbol before others if it holds of those inside it and of
those after it, holds of all lists of symbols.
-/
theorem forest_induction {motive : List Symbol → Prop} (nil : motive [])
    (cons
      : ∀ (name : String) (detail : Option String) (kind : Nat) (range selection : Range)
          (children rest : List Symbol),
          motive children → motive rest →
            motive (.node name detail kind range selection children :: rest))
    : ∀ forest, motive forest
  | [] => nil
  | .node name detail kind range selection children :: rest =>
      cons name detail kind range selection children rest
        (forest_induction nil cons children) (forest_induction nil cons rest)

-----------------------------------------------------------------------------------------
-- Reading
-----------------------------------------------------------------------------------------

theorem listOfElements_eq_filterMap (elements : List Json)
    : listOfElements elements = elements.filterMap ofJson? := by
  induction elements with
  | nil => rw [listOfElements, List.filterMap_nil]
  | cons element rest ih =>
      rw [listOfElements, ih]
      cases read : ofJson? element with
      | none => rw [List.filterMap_cons_none read]
      | some symbol => rw [List.filterMap_cons_some read]

/-- The symbols that a field holds; none where the field is not given. -/
theorem childrenOf?_eq (members : List (String × Json))
    : childrenOf? members
      = (Json.Record.named members).withDefault 5 "children" [] listOfJson? := by
  rw [Json.Record.withDefault, Json.Record.get?, Json.lookup?]
  induction members with
  | nil => rfl
  | cons member rest ih =>
      obtain ⟨key, value⟩ := member
      rw [childrenOf?, lookup_cons_eq, ih]
      by_cases same : key = "children"
      · simp [same]
      · simp [same, Ne.symm same]

theorem childrenAt?_eq (index : Nat) (values : List Json)
    : childrenAt? index values
      = (Json.Record.listed values).withDefault index "children" [] listOfJson? := by
  induction values generalizing index with
  | nil => rfl
  | cons value rest ih =>
      cases index with
      | zero => rfl
      | succ index => exact ih index

/-- Read a nested symbol: what it says of itself, and the symbols inside it. -/
def ofRecord? (record : Json.Record) : Option Symbol :=
  (Header.ofRecord? record).bind fun header =>
    (record.withDefault 5 "children" [] listOfJson?).map header.symbol

theorem ofRecord?_eq (record : Json.Record)
    : ofRecord? record
      = match Header.ofRecord? record, record.withDefault 5 "children" [] listOfJson? with
        | some header, some children => some (header.symbol children)
        | _, _ => none := by
  unfold ofRecord?
  cases Header.ofRecord? record with
  | none => rfl
  | some header => cases record.withDefault 5 "children" [] listOfJson? <;> rfl

/-- A symbol without a location is read as a nested one. -/
theorem ofJson?_of_nested {value : Json} (nested : value.get? "location" = none)
    : ofJson? value = (Json.Record.of? 6 value).bind ofRecord? := by
  cases value with
  | obj members =>
      rw [Json.get?] at nested
      rw [ofJson?, nested, childrenOf?_eq, Json.Record.of?, Option.bind_some]
      exact (ofRecord?_eq _).symm
  | arr values =>
      rw [ofJson?, childrenAt?_eq, Json.Record.of?]
      by_cases few : values.length ≤ 6
      · rw [if_pos few, if_pos few, Option.bind_some]
        exact (ofRecord?_eq _).symm
      · rw [if_neg few, if_neg few, Option.bind_none]
  | _ => rw [ofJson?, Json.Record.of?, Option.bind_none] <;> simp

-----------------------------------------------------------------------------------------
-- Symbols as they are written
-----------------------------------------------------------------------------------------

/-- The value is the object of a nested symbol that says this of itself and has these values inside.
A detail that there is none of may be null, and an empty list may be left out. Other members may
stand beside these, but no location.
-/
structure IsNested (header : Header) (inside : List Json) (value : Json) : Prop where
  nested : value.get? "location" = none
  name : value.get? "name" = some (.str header.name)
  kind : value.get? "kind" = some (.nat header.kind)
  kindFits : header.kind < Text.word32
  range : ∃ range, value.get? "range" = some range ∧ header.range.IsWritten range
  selection
    : ∃ selection,
        value.get? "selectionRange" = some selection ∧ header.selection.IsWritten selection
  detail
    : value.get? "detail" = header.detail.map .str
      ∨ header.detail = none ∧ value.get? "detail" = some .null
  children
    : value.get? "children" = some (.arr inside)
      ∨ inside = [] ∧ value.get? "children" = none

/-- The values are symbols as they are written, in their order; anywhere among them, and among the
values inside them, stand others that cannot be read as symbols.
-/
inductive AreWritten : List Symbol → List Json → Prop
  | done : AreWritten [] []
  | noise {symbols values noise} (rejected : ofJson? noise = none)
    (rest : AreWritten symbols values)
    : AreWritten symbols (noise :: values)
  | symbol {header children inside value symbols values} (written : IsNested header inside value)
    (below : AreWritten children inside) (rest : AreWritten symbols values)
    : AreWritten (header.symbol children :: symbols) (value :: values)

/-- The value is the object of a flat symbol: it has a location with this range, and perhaps the name
of what contains it.
-/
structure IsFlat (name : String) (kind : Nat) (range : Range) (container : Option String)
    (value : Json)
    : Prop where
  kindFits : kind < Text.word32
  name : value.get? "name" = some (.str name)
  kind : value.get? "kind" = some (.nat kind)
  location
    : ∃ location given,
        value.get? "location" = some location
        ∧ location.get? "range" = some given
        ∧ range.IsWritten given
  container
    : value.get? "containerName" = container.map .str
      ∨ container = none ∧ value.get? "containerName" = some .null

/-- A string that may be left out or null is read back. -/
theorem bind_string?_of_optional {given : Option Json} {text : Option String}
    (written : given = text.map .str ∨ text = none ∧ given = some .null)
    : given.bind Json.string? = text := by
  rcases written with rfl | ⟨rfl, rfl⟩
  · cases text <;> rfl
  · rfl

theorem IsNested.header {header : Header} {inside : List Json} {members : List (String × Json)}
    (written : IsNested header inside (.obj members))
    : Header.ofRecord? (.named members) = some header := by
  obtain ⟨_, name, kind, kindFits, ⟨range, rangeGiven, rangeWritten⟩,
    ⟨selection, selectionGiven, selectionWritten⟩, detail, _⟩ := written
  simp only [Json.get?] at name kind rangeGiven selectionGiven detail
  simp only [Header.ofRecord?, Json.Record.required, Json.Record.lenient, Json.Record.get?,
    name, kind, rangeGiven, selectionGiven, bind_string?_of_optional detail,
    rangeWritten.ofJson?, selectionWritten.ofJson?, Json.u32?_nat kindFits, Json.string?,
    Option.bind_eq_bind, Option.bind_some, Option.pure_def]

/-- The object of a nested symbol is read as that symbol, with the symbols among the values inside. -/
theorem IsNested.ofJson? {header : Header} {inside : List Json} {value : Json}
    (written : IsNested header inside value)
    : ofJson? value = some (header.symbol (listOfElements inside)) := by
  obtain ⟨members, rfl, seen⟩ := Json.exists_record written.name 6
  have children
      : (Json.Record.named members).withDefault 5 "children" [] listOfJson?
        = some (listOfElements inside) := by
    have given := written.children
    simp only [Json.get?] at given
    rw [Json.Record.withDefault, Json.Record.get?]
    rcases given with given | ⟨rfl, given⟩
    · rw [given]
      rfl
    · rw [given]
      rfl
  rw [ofJson?_of_nested written.nested, seen, Option.bind_some, ofRecord?, written.header,
    Option.bind_some, children]
  rfl

/-- Symbols are read as they are written. Induction on what is written. -/
theorem AreWritten.listOfElements {symbols : List Symbol} {values : List Json}
    (written : AreWritten symbols values)
    : listOfElements values = symbols := by
  induction written with
  | done => rw [Symbol.listOfElements]
  | noise rejected _ ih => rw [Symbol.listOfElements, rejected, ih]
  | symbol object _ _ below rest => rw [Symbol.listOfElements, object.ofJson?, below, rest]

theorem IsFlat.ofJson? {name : String} {kind : Nat} {range : Range} {container : Option String}
    {value : Json} (written : IsFlat name kind range container value)
    : ofJson? value = some (.node name container kind range range []) := by
  obtain ⟨kindFits, nameGiven, kindGiven, ⟨location, given, locationGiven, rangeGiven,
    rangeWritten⟩, containerGiven⟩ := written
  obtain ⟨members, rfl, _⟩ := Json.exists_record nameGiven 4
  obtain ⟨inner, rfl, _⟩ := Json.exists_record rangeGiven 1
  simp only [Json.get?] at nameGiven kindGiven locationGiven rangeGiven containerGiven
  have rangeRead : locationRange? (.obj inner) = some range := by
    simp only [locationRange?, Json.Record.of?, Json.Record.required, Json.Record.get?, rangeGiven,
      rangeWritten.ofJson?, Option.bind_eq_bind, Option.bind_some]
  rw [Symbol.ofJson?, locationGiven, Option.isSome_some, if_pos rfl]
  simp only [flat?, Json.Record.of?, Json.Record.required, Json.Record.lenient, Json.Record.get?,
    nameGiven, kindGiven, locationGiven, rangeRead, bind_string?_of_optional containerGiven,
    Json.u32?_nat kindFits, Json.string?, Option.bind_eq_bind, Option.bind_some, Option.pure_def]

/-- All numbers that these symbols tell, and those inside them, are of 32 bits. -/
inductive AllFit : List Symbol → Prop
  | nil : AllFit []
  | cons {header children others} (kind : header.kind < Text.word32) (range : header.range.Fits)
    (selection : header.selection.Fits) (below : AllFit children) (rest : AllFit others)
    : AllFit (Header.symbol header children :: others)

/-- The object of a symbol that says this of itself and has these values inside. -/
def Header.toJson (header : Header) (inside : List Json) : Json :=
  .object [("name", .str header.name), ("kind", .nat header.kind), ("range", header.range.toJson),
    ("selectionRange", header.selection.toJson), ("detail", .stringOrNull header.detail),
    ("children", .arr inside)]

theorem Header.isNested_toJson {header : Header} (inside : List Json)
    (kind : header.kind < Text.word32) (range : header.range.Fits)
    (selection : header.selection.Fits)
    : IsNested header inside (header.toJson inside) := by
  have detail : (header.toJson inside).get? "detail" = some (.stringOrNull header.detail) := by
    simp [toJson, Json.get?_object, lookup_cons_eq]
  refine {
    nested := by simp [toJson, Json.get?_object, lookup_cons_eq]
    name := by simp [toJson, Json.get?_object, lookup_cons_eq]
    kind := by simp [toJson, Json.get?_object, lookup_cons_eq]
    kindFits := kind
    range := ⟨_, by simp [toJson, Json.get?_object, lookup_cons_eq], range.isWritten_toJson⟩
    selection :=
      ⟨_, by simp [toJson, Json.get?_object, lookup_cons_eq], selection.isWritten_toJson⟩
    detail := ?_
    children := .inl (by simp [toJson, Json.get?_object])
  }
  rw [detail]
  cases header.detail with
  | none => exact .inr ⟨rfl, rfl⟩
  | some text => exact .inl rfl

/-- All symbols whose numbers are of 32 bits can be written. -/
theorem AllFit.exists_written {symbols : List Symbol} (fit : AllFit symbols)
    : ∃ values, AreWritten symbols values := by
  induction fit with
  | nil => exact ⟨[], .done⟩
  | cons kind range selection _ _ below rest =>
      obtain ⟨inside, belowWritten⟩ := below
      obtain ⟨values, restWritten⟩ := rest
      have object := Header.isNested_toJson inside kind range selection
      exact ⟨_ :: values, .symbol object belowWritten restWritten⟩

-----------------------------------------------------------------------------------------
-- Walks
-----------------------------------------------------------------------------------------

/-- The symbol at a place inside a symbol. A place tells the way to it: at every level, how many
neighbours stand before.
-/
def at? : Symbol → List Nat → Option Symbol
  | symbol, [] => some symbol
  | symbol, index :: way => symbol.children[index]?.bind (at? · way)

/-- The symbol at a place among neighbours. -/
def among? (forest : List Symbol) : List Nat → Option Symbol
  | [] => none
  | index :: way => forest[index]?.bind (at? · way)

/-- The same place with one neighbour more before it. -/
def shift : List Nat → List Nat :=
  List.modifyHead (· + 1)

mutual

/-- The places of a symbol and of all symbols inside it, a symbol before those inside it. -/
def places : Symbol → List (List Nat)
  | .node _ _ _ _ _ children => [] :: placesAll children

/-- The places of several symbols and of all symbols inside them. -/
def placesAll : List Symbol → List (List Nat)
  | [] => []
  | symbol :: rest => (places symbol).map (0 :: ·) ++ (placesAll rest).map shift

end

@[simp]
theorem among?_shift (symbol : Symbol) (rest : List Symbol) (place : List Nat)
    : among? (symbol :: rest) (shift place) = among? rest place := by
  cases place <;> rfl

@[simp]
theorem tail_shift (place : List Nat) : (shift place).tail = place.tail := by
  cases place <;> rfl

theorem shift_lt_shift {first second : List Nat} (less : first < second)
    : shift first < shift second := by
  cases first with
  | nil =>
      cases second with
      | nil => exact absurd less (List.lt_irrefl _)
      | cons => exact List.nil_lt_cons _ _
  | cons index way =>
      cases second with
      | nil => cases less
      | cons other last =>
          rcases List.cons_lt_cons_iff.mp less with earlier | ⟨rfl, below⟩
          · exact List.cons_lt_cons_iff.mpr (.inl (Nat.succ_lt_succ earlier))
          · exact List.cons_lt_cons_iff.mpr (.inr ⟨rfl, below⟩)

theorem mem_places_node {name : String} {detail : Option String} {kind : Nat}
    {range selection : Range} {children : List Symbol}
    (inside : ∀ place, place ∈ placesAll children ↔ (among? children place).isSome) (place : List Nat)
    : place ∈ places (.node name detail kind range selection children)
      ↔ (at? (.node name detail kind range selection children) place).isSome := by
  rw [places, List.mem_cons]
  cases place with
  | nil => simp [at?]
  | cons index way =>
      have below : at? (.node name detail kind range selection children) (index :: way)
          = among? children (index :: way) := rfl
      rw [below, inside]
      simp

/-- The places among neighbours are those where a symbol stands. -/
theorem mem_placesAll_iff (forest : List Symbol)
    : ∀ place, place ∈ placesAll forest ↔ (among? forest place).isSome := by
  induction forest using forest_induction with
  | nil =>
      intro place
      cases place <;> simp [placesAll, among?]
  | cons name detail kind range selection children rest below later =>
      intro place
      rw [placesAll, List.mem_append, List.mem_map, List.mem_map]
      constructor
      · rintro (⟨way, here, rfl⟩ | ⟨other, there, rfl⟩)
        · exact (mem_places_node below way).mp here
        · rw [among?_shift]
          exact (later other).mp there
      · intro stands
        obtain _ | ⟨_ | index, way⟩ := place
        · cases stands
        · exact .inl ⟨way, (mem_places_node below way).mpr stands, rfl⟩
        · exact .inr ⟨index :: way, (later (index :: way)).mpr stands, rfl⟩

theorem mem_places_iff (symbol : Symbol) (place : List Nat)
    : place ∈ places symbol ↔ (at? symbol place).isSome := by
  obtain ⟨name, detail, kind, range, selection, children⟩ := symbol
  exact mem_places_node (mem_placesAll_iff children) place

theorem ne_nil_of_mem_placesAll {forest : List Symbol} {place : List Nat}
    (member : place ∈ placesAll forest)
    : place ≠ [] := by
  rintro rfl
  cases (mem_placesAll_iff forest []).mp member

theorem pairwise_places_node {name : String} {detail : Option String} {kind : Nat}
    {range selection : Range} {children : List Symbol}
    (inside : (placesAll children).Pairwise (· < ·))
    : (places (.node name detail kind range selection children)).Pairwise (· < ·) := by
  rw [places]
  refine List.pairwise_cons.mpr ⟨fun place member => ?_, inside⟩
  obtain ⟨index, way, rfl⟩ := List.exists_cons_of_ne_nil (ne_nil_of_mem_placesAll member)
  exact List.nil_lt_cons index way

/-- Places come in the order of their numbers: a place before those below it, and before those of
later neighbours and below these.
-/
theorem pairwise_placesAll (forest : List Symbol) : (placesAll forest).Pairwise (· < ·) := by
  induction forest using forest_induction with
  | nil => exact .nil
  | cons name detail kind range selection children rest below later =>
      rw [placesAll, List.pairwise_append, List.pairwise_map, List.pairwise_map]
      refine ⟨?_, later.imp shift_lt_shift, ?_⟩
      · apply (pairwise_places_node below).imp
        intro first second less
        exact List.cons_lt_cons_iff.mpr (.inr ⟨rfl, less⟩)
      · intro first here second there
        obtain ⟨way, _, rfl⟩ := List.mem_map.mp here
        obtain ⟨place, member, rfl⟩ := List.mem_map.mp there
        obtain ⟨index, other, rfl⟩ := List.exists_cons_of_ne_nil (ne_nil_of_mem_placesAll member)
        exact List.cons_lt_cons_iff.mpr (.inl (Nat.succ_pos index))

theorem pairwise_places (symbol : Symbol) : (places symbol).Pairwise (· < ·) := by
  obtain ⟨name, detail, kind, range, selection, children⟩ := symbol
  exact pairwise_places_node (pairwise_placesAll children)

/-- A walk through a symbol is at its own place first, and then goes through those inside it. -/
theorem map_some_walk_node {name : String} {detail : Option String} {kind : Nat}
    {range selection : Range} {children : List Symbol} {depth : Nat}
    (inside
      : (walkAll (depth + 1) children).map some
        = (placesAll children).map fun place =>
            (among? children place).map (depth + 1 + place.tail.length, ·))
    : (walk depth (.node name detail kind range selection children)).map some
      = (places (.node name detail kind range selection children)).map fun place =>
          (at? (.node name detail kind range selection children) place).map
            (depth + place.length, ·) := by
  rw [walk, places, List.map_cons, List.map_cons, inside]
  congr 1
  apply List.map_congr_left
  intro place member
  obtain ⟨index, way, rfl⟩ := List.exists_cons_of_ne_nil (ne_nil_of_mem_placesAll member)
  have deeper : depth + 1 + way.length = depth + (way.length + 1) := by omega
  rw [List.tail_cons, List.length_cons, deeper]
  rfl

/-- A walk through neighbours is at each of their places in turn, as deep as the way to it is long. -/
theorem map_some_walkAll (forest : List Symbol)
    : ∀ depth,
        (walkAll depth forest).map some
        = (placesAll forest).map fun place =>
            (among? forest place).map (depth + place.tail.length, ·) := by
  induction forest using forest_induction with
  | nil =>
      intro depth
      rfl
  | cons name detail kind range selection children rest below later =>
      intro depth
      rw [walkAll, placesAll, List.map_append, List.map_append, List.map_map, List.map_map,
        map_some_walk_node (below (depth + 1)), later depth]
      congr 1
      apply List.map_congr_left
      intro place _
      rw [Function.comp_apply, among?_shift, tail_shift]

theorem map_some_walk (symbol : Symbol) (depth : Nat)
    : (walk depth symbol).map some
      = (places symbol).map fun place => (at? symbol place).map (depth + place.length, ·) := by
  obtain ⟨name, detail, kind, range, selection, children⟩ := symbol
  exact map_some_walk_node (map_some_walkAll children (depth + 1))

-----------------------------------------------------------------------------------------
-- Outlines
-----------------------------------------------------------------------------------------

/-- Symbols that are written as nested objects are decoded as they were, whatever stands among them
that is no symbol, and all symbols can be written so. A walk from a root is once at every place where
a symbol stands, as deep as the way there is long; it is at a place before those below it, and before
its later neighbours. A flat symbol has nothing inside it, and the range of its location for both its
ranges.
-/
theorem outline_is_decoded_and_walked
    : (∀ symbols values,
          AreWritten symbols values → decodeOutline (.arr values) = .ok symbols)
      ∧ (∀ symbols, AllFit symbols → ∃ values, AreWritten symbols values)
      ∧ (∀ root : Symbol,
          ∃ places : List (List Nat),
            (∀ place, place ∈ places ↔ (root.at? place).isSome)
            ∧ places.Pairwise (· < ·)
            ∧ (root.walk 0).map some
              = places.map fun place => (root.at? place).map (place.length, ·))
      ∧ ∀ name kind range container value,
          IsFlat name kind range container value →
            ofJson? value = some (.node name container kind range range []) := by
  refine ⟨fun symbols values written => ?_, fun symbols fit => fit.exists_written, fun root => ?_,
    fun name kind range container value flat => flat.ofJson?⟩
  · rw [decodeOutline, written.listOfElements]
  · refine ⟨places root, mem_places_iff root, pairwise_places root, ?_⟩
    rw [map_some_walk]
    simp only [Nat.zero_add]

/-- A symbol inside another, with noise around both, and a flat symbol. -/
theorem noisy_outline_is_decoded
    : let range : Range := ⟨⟨2, 0⟩, ⟨4, 1⟩⟩
      let outer : Header := ⟨"Parser", 23, ⟨⟨0, 0⟩, ⟨9, 1⟩⟩, ⟨⟨0, 7⟩, ⟨0, 13⟩⟩, none⟩
      let inner : Header := ⟨"new", 12, range, ⟨⟨2, 3⟩, ⟨2, 6⟩⟩, some "fn() -> Self"⟩
      let forest := [outer.symbol [inner.symbol []]]
      let values := [.null, outer.toJson [.obj [], inner.toJson [], .str "new"]]
      let location : Json :=
        .object [("uri", .str "file:///main.rs"), ("range", range.toJson)]
      let flat : Json :=
        .object [("name", .str "main"), ("kind", .nat 12), ("location", location)]
      AreWritten forest values
      ∧ decodeOutline (.arr values) = .ok forest
      ∧ (∃ values, AreWritten forest values)
      ∧ IsFlat "main" 12 range none flat
      ∧ ofJson? flat = some (.node "main" none 12 range range []) := by
  intro range outer inner forest values location flat
  have rangeFits : range.Fits := by decide
  have fit : AllFit forest :=
    .cons (by decide) (by decide) (by decide)
      (.cons (by decide) rangeFits (by decide) .nil .nil) .nil
  have inside : AreWritten [inner.symbol []] [.obj [], inner.toJson [], .str "new"] :=
    .noise rfl (.symbol (Header.isNested_toJson [] (by decide) rangeFits (by decide)) .done
      (.noise rfl .done))
  have written : AreWritten forest values :=
    .noise rfl
      (.symbol (Header.isNested_toJson _ (by decide) (by decide) (by decide)) inside .done)
  have isFlat : IsFlat "main" 12 range none flat := {
    kindFits := by decide
    name := by simp [flat, Json.get?_object, lookup_cons_eq]
    kind := by simp [flat, Json.get?_object, lookup_cons_eq]
    location :=
      ⟨location, range.toJson, by simp [flat, Json.get?_object],
        by simp [location, Json.get?_object], rangeFits.isWritten_toJson⟩
    container := .inl (by simp [flat, Json.get?_object, lookup_cons_eq])
  }
  obtain ⟨decoded, writable, _, flatDecoded⟩ := outline_is_decoded_and_walked
  exact ⟨written, decoded _ _ written, writable _ fit, isFlat, flatDecoded _ _ _ _ _ isFlat⟩

end LanguageClient.Reply.Symbol
