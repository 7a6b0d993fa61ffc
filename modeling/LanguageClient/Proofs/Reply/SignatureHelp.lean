import LanguageClient.Reply.SignatureHelp
import Mathlib.Data.List.Nodup
import Mathlib.Data.List.Range

/-! Signature help with signatures and parameters that cannot be read. These are left out before the
active one is looked up, so an index counts those that can be read, and names the element at its own
place only as long as nothing before it is left out.
-/

namespace LanguageClient.Reply

-----------------------------------------------------------------------------------------
-- Elements that are left out
-----------------------------------------------------------------------------------------

variable {α : Type}

/-- What stands at a place of an array, if it can be read. -/
def readAt (read? : Json → Option α) (elements : List Json) (place : Nat) : Option α :=
  elements[place]?.bind read?

/-- The places of an array where something stands that can be read, in order. -/
def readablePlaces (read? : Json → Option α) (elements : List Json) : List Nat :=
  (List.range elements.length).filter fun place => (readAt read? elements place).isSome

/-- How many of these places lie before a place. -/
def readableBefore (read? : Json → Option α) (elements : List Json) (place : Nat) : Nat :=
  (List.range place).countP fun earlier => (readAt read? elements earlier).isSome

variable {read? : Json → Option α} {elements : List Json}

theorem lt_length_of_readAt {place : Nat} (readable : (readAt read? elements place).isSome = true)
    : place < elements.length := by
  by_contra outside
  rw [readAt, List.getElem?_eq_none (Nat.not_lt.mp outside)] at readable
  cases readable

theorem readAt_concat (element : Json) {place : Nat} (within : place < elements.length)
    : readAt read? (elements ++ [element]) place = readAt read? elements place := by
  rw [readAt, readAt, List.getElem?_append_left within]

theorem readablePlaces_concat (element : Json)
    : readablePlaces read? (elements ++ [element])
      = readablePlaces read? elements
        ++ if (read? element).isSome then [elements.length] else [] := by
  have last : readAt read? (elements ++ [element]) elements.length = read? element := by
    simp [readAt]
  rw [readablePlaces, List.length_append, List.length_singleton, List.range_succ,
    List.filter_append, List.filter_singleton, last, readablePlaces]
  congr 1
  · refine List.filter_congr fun place member => ?_
    rw [readAt_concat element (List.mem_range.mp member)]
  · cases (read? element).isSome <;> rfl

/-- What can be read of an array stands at these places. Induction on the array from its end. -/
theorem map_readAt_readablePlaces (read? : Json → Option α) (elements : List Json)
    : (readablePlaces read? elements).map (readAt read? elements)
      = (elements.filterMap read?).map some := by
  induction elements using List.reverseRecOn with
  | nil => rfl
  | append_singleton elements element ih =>
      have earlier
          : (readablePlaces read? elements).map (readAt read? (elements ++ [element]))
            = (readablePlaces read? elements).map (readAt read? elements) := by
        refine List.map_congr_left fun place member => readAt_concat element ?_
        exact lt_length_of_readAt (List.mem_filter.mp member).2
      have last : readAt read? (elements ++ [element]) elements.length = read? element := by
        simp [readAt]
      rw [readablePlaces_concat, List.map_append, earlier, ih, List.filterMap_append,
        List.map_append]
      cases found : read? element <;> simp [found, last]

/-- An index into what can be read leads to the place of that index among these places. -/
theorem getElem?_filterMap (index : Nat)
    : (elements.filterMap read?)[index]?
      = (readablePlaces read? elements)[index]?.bind (readAt read? elements) := by
  have same := congrArg (·[index]?) (map_readAt_readablePlaces read? elements)
  simp only [List.getElem?_map] at same
  cases place : (readablePlaces read? elements)[index]? with
  | none =>
      rw [place] at same
      simpa using same.symm
  | some place' =>
      rw [place] at same
      cases found : (elements.filterMap read?)[index]? with
      | none => simp [found] at same
      | some value => simpa [found] using same.symm

theorem nodup_readablePlaces (read? : Json → Option α) (elements : List Json)
    : (readablePlaces read? elements).Nodup :=
  List.nodup_range.filter _

/-- Among these places, each stands where as many of them lie before it. -/
theorem getElem?_readablePlaces_iff {index place : Nat}
    : (readablePlaces read? elements)[index]? = some place
      ↔ (readAt read? elements place).isSome = true
        ∧ readableBefore read? elements place = index := by
  have stands (readable : (readAt read? elements place).isSome = true)
      : (readablePlaces read? elements)[readableBefore read? elements place]? = some place := by
    obtain ⟨more, length⟩ := Nat.exists_eq_add_of_lt (lt_length_of_readAt readable)
    obtain ⟨tail, split⟩
        : ∃ tail, List.range elements.length = List.range place ++ place :: tail := by
      rw [length, Nat.add_assoc, List.range_add, List.range_succ_eq_map, List.map_cons]
      exact ⟨_, rfl⟩
    rw [readablePlaces, split, List.filter_append, List.filter_cons, if_pos readable,
      readableBefore, List.countP_eq_length_filter]
    simp
  constructor
  · intro found
    have member := List.mem_of_getElem? found
    have readable := (List.mem_filter.mp member).2
    have within : index < (readablePlaces read? elements).length :=
      (List.getElem?_eq_some_iff.mp found).1
    refine ⟨readable, ?_⟩
    exact ((List.getElem?_inj within (nodup_readablePlaces read? elements)).mp
      (found.trans (stands readable).symm)).symm
  · rintro ⟨readable, rfl⟩
    exact stands readable

theorem readableBefore_eq_self_iff {place : Nat}
    : readableBefore read? elements place = place
      ↔ ∀ earlier < place, (readAt read? elements earlier).isSome = true := by
  have all := List.countP_eq_length (l := List.range place)
    (p := fun earlier => (readAt read? elements earlier).isSome)
  rw [List.length_range] at all
  simpa only [readableBefore, List.mem_range] using all

theorem readableBefore_eq_zero_iff {place : Nat}
    : readableBefore read? elements place = 0
      ↔ ∀ earlier < place, readAt read? elements earlier = none := by
  simp [readableBefore, List.countP_eq_zero]

/-- An index leads to the place that it names exactly when all that stands there and before can be
read.
-/
theorem getElem?_readablePlaces_self_iff {index : Nat}
    : (readablePlaces read? elements)[index]? = some index
      ↔ ∀ place ≤ index, (readAt read? elements place).isSome = true := by
  rw [getElem?_readablePlaces_iff, readableBefore_eq_self_iff]
  constructor
  · rintro ⟨here, before⟩ place within
    rcases Nat.lt_or_eq_of_le within with earlier | rfl
    · exact before place earlier
    · exact here
  · intro all
    exact ⟨all index (Nat.le_refl index), fun place earlier => all place (Nat.le_of_lt earlier)⟩

-----------------------------------------------------------------------------------------
-- The active signature and its active parameter
-----------------------------------------------------------------------------------------

/-- The parameters of a signature as they are written, readable or not. -/
def Signature.writtenParameters? (value : Json) : Option (List Json) := do
  let record ← Json.Record.of? 4 value
  record.withDefault 2 "parameters" [] Json.array?

/-- The parameters of a signature are those of the written ones that can be read. -/
theorem Signature.exists_writtenParameters {value : Json} {signature : Signature}
    (read : Signature.ofJson? value = some signature)
    : ∃ parameters,
        writtenParameters? value = some parameters
        ∧ signature.parameters = parameters.filterMap (Parameter.ofJson? signature.label) := by
  simp only [ofJson?, Option.bind_eq_bind, Option.bind_eq_some_iff] at read
  obtain ⟨record, seen, label, _, parameters, written, made⟩ := read
  obtain rfl := Option.some.inj made
  refine ⟨parameters, ?_, rfl⟩
  simp only [writtenParameters?, Option.bind_eq_bind, seen, Option.bind_some, written]

/-- The place of the signature that is shown for an index: of that index among those that can be
read, or else of the first of these.
-/
def shownPlace? (elements : List Json) (index : Nat) : Option Nat :=
  (readablePlaces Signature.ofJson? elements)[index]?
    <|> (readablePlaces Signature.ofJson? elements)[0]?

/-- The signature at an index is shown for it exactly when all before it can be read, or none can
and so few after it that the index leads to none of them.
-/
theorem shownPlace?_self_iff {elements : List Json} {index : Nat}
    (readable : (readAt Signature.ofJson? elements index).isSome = true)
    : shownPlace? elements index = some index
      ↔ (∀ earlier < index, (readAt Signature.ofJson? elements earlier).isSome = true)
        ∨ (∀ earlier < index, readAt Signature.ofJson? elements earlier = none)
          ∧ (readablePlaces Signature.ofJson? elements).length ≤ index := by
  cases found : (readablePlaces Signature.ofJson? elements)[index]? with
  | some place =>
      have many : ¬ (readablePlaces Signature.ofJson? elements).length ≤ index :=
        Nat.not_le.mpr (List.getElem?_eq_some_iff.mp found).1
      have shown : shownPlace? elements index = some place := by rw [shownPlace?, found]; rfl
      rw [shown, ← found, getElem?_readablePlaces_iff, readableBefore_eq_self_iff]
      simp only [readable, many, true_and, and_false, or_false]
  | none =>
      have few : (readablePlaces Signature.ofJson? elements).length ≤ index :=
        List.getElem?_eq_none_iff.mp found
      have notAll
          : ¬ ∀ earlier < index, (readAt Signature.ofJson? elements earlier).isSome = true := by
        intro all
        have here := getElem?_readablePlaces_iff.mpr ⟨readable, readableBefore_eq_self_iff.mpr all⟩
        rw [found] at here
        cases here
      have shown
          : shownPlace? elements index = (readablePlaces Signature.ofJson? elements)[0]? := by
        rw [shownPlace?, found]
        rfl
      rw [shown, getElem?_readablePlaces_iff, readableBefore_eq_zero_iff]
      simp only [readable, few, notAll, true_and, and_true, false_or]

/-- The signature that is shown is the one that is read at that place. -/
theorem active_eq {help : SignatureHelp} {elements : List Json}
    (read : help.signatures = elements.filterMap Signature.ofJson?)
    : help.active
      = (shownPlace? elements help.activeSignature).bind (readAt Signature.ofJson? elements) := by
  rw [SignatureHelp.active, read, List.head?_eq_getElem?, getElem?_filterMap, getElem?_filterMap,
    shownPlace?]
  cases found : (readablePlaces Signature.ofJson? elements)[help.activeSignature]? with
  | none => rfl
  | some place =>
      obtain ⟨signature, stands⟩ :=
        Option.isSome_iff_exists.mp (getElem?_readablePlaces_iff.mp found).1
      simp [stands]

/-- Some signature is shown if any can be read. -/
theorem exists_shownPlace {elements : List Json} {place : Nat}
    (readable : (readAt Signature.ofJson? elements place).isSome = true) (index : Nat)
    : ∃ shown signature,
        shownPlace? elements index = some shown
        ∧ readAt Signature.ofJson? elements shown = some signature := by
  have stands {index shown : Nat}
      (found : (readablePlaces Signature.ofJson? elements)[index]? = some shown)
      : ∃ signature, readAt Signature.ofJson? elements shown = some signature :=
    Option.isSome_iff_exists.mp (getElem?_readablePlaces_iff.mp found).1
  cases found : (readablePlaces Signature.ofJson? elements)[index]? with
  | some shown =>
      obtain ⟨signature, read⟩ := stands found
      exact ⟨shown, signature, by rw [shownPlace?, found]; rfl, read⟩
  | none =>
      have later := getElem?_readablePlaces_iff.mpr ⟨readable, rfl⟩
      have filled : 0 < (readablePlaces Signature.ofJson? elements).length :=
        Nat.zero_lt_of_lt (List.getElem?_eq_some_iff.mp later).1
      have first := List.getElem?_eq_getElem filled
      obtain ⟨signature, read⟩ := stands first
      exact ⟨_, signature, by rw [shownPlace?, found]; exact first, read⟩

/-- Signature help is decoded if some signature can be read. -/
theorem exists_decoded {members : List (String × Json)} {elements : List Json} {place : Nat}
    (listed : Json.lookup? "signatures" members = some (.arr elements))
    (readable : (readAt Signature.ofJson? elements place).isSome = true)
    : ∃ help,
        decodeSignatureHelp (.obj members) = .ok (some help)
        ∧ help.signatures = elements.filterMap Signature.ofJson?
        ∧ help.activeSignature
          = ((Json.Record.named members).lenient 1 "activeSignature" Json.u32?).getD 0
        ∧ help.activeParameter
          = (Json.Record.named members).lenient 2 "activeParameter" Json.u32? := by
  have filled : (elements.filterMap Signature.ofJson?).isEmpty = false := by
    obtain ⟨signature, found⟩ := Option.isSome_iff_exists.mp readable
    obtain ⟨element, stands, read⟩ := Option.bind_eq_some_iff.mp found
    have member : signature ∈ elements.filterMap Signature.ofJson? :=
      List.mem_filterMap.mpr ⟨element, List.mem_of_getElem? stands, read⟩
    exact List.isEmpty_eq_false_iff.mpr (List.ne_nil_of_mem member)
  refine ⟨{
    signatures := elements.filterMap Signature.ofJson?
    activeSignature := ((Json.Record.named members).lenient 1 "activeSignature" Json.u32?).getD 0
    activeParameter := (Json.Record.named members).lenient 2 "activeParameter" Json.u32? },
    ?_, rfl, rfl, rfl⟩
  simp only [decodeSignatureHelp, listed, filled, Bool.false_eq_true, if_false]

theorem currentParameter_eq {help : SignatureHelp} {signature : Signature}
    (shown : help.active = some signature)
    : help.currentParameter
      = (signature.activeParameter <|> help.activeParameter).bind (signature.parameters[·]?) := by
  simp [SignatureHelp.currentParameter, shown]

/-- Of a response in which the signature at the active index can be read: the signature that is
shown is the one of that index among those that can be read, or else the first of them. It is the one
at the index exactly when all before it can be read, or when none can and the index leads past those
after it. Likewise its current parameter is the one of the index in force among those that can be
read, and there is none past the last of them; it is the one at the index exactly when that and all
before it can be read.
-/
theorem indexes_count_what_can_be_read (members : List (String × Json)) (elements : List Json)
    (index : Nat) (listed : Json.lookup? "signatures" members = some (.arr elements))
    (named : ((Json.Record.named members).lenient 1 "activeSignature" Json.u32?).getD 0 = index)
    (readable : (readAt Signature.ofJson? elements index).isSome = true)
    : ∃ help place signature parameters,
        decodeSignatureHelp (.obj members) = .ok (some help)
        ∧ help.activeParameter = (Json.Record.named members).lenient 2 "activeParameter" Json.u32?
        ∧ shownPlace? elements index = some place
        ∧ readAt Signature.ofJson? elements place = some signature
        ∧ help.active = some signature
        ∧ (place = index
          ↔ (∀ earlier < index, (readAt Signature.ofJson? elements earlier).isSome = true)
            ∨ (∀ earlier < index, readAt Signature.ofJson? elements earlier = none)
              ∧ (readablePlaces Signature.ofJson? elements).length ≤ index)
        ∧ elements[place]?.bind Signature.writtenParameters? = some parameters
        ∧ ∀ current, (signature.activeParameter <|> help.activeParameter) = some current →
            let read? := Parameter.ofJson? signature.label
            help.currentParameter
              = (readablePlaces read? parameters)[current]?.bind (readAt read? parameters)
            ∧ ((readablePlaces read? parameters)[current]? = some current
              ↔ ∀ earlier ≤ current, (readAt read? parameters earlier).isSome = true) := by
  obtain ⟨help, decoded, signatures, activeSignature, activeParameter⟩ :=
    exists_decoded listed readable
  obtain ⟨place, signature, shown, read⟩ := exists_shownPlace readable index
  obtain ⟨element, stands, ofElement⟩ := Option.bind_eq_some_iff.mp read
  obtain ⟨parameters, written, kept⟩ := Signature.exists_writtenParameters ofElement
  have active : help.active = some signature := by
    rw [active_eq signatures, activeSignature, named, shown, Option.bind_some, read]
  have inPlace := shownPlace?_self_iff readable
  rw [shown, Option.some.injEq] at inPlace
  refine ⟨help, place, signature, parameters, decoded, activeParameter, shown, read, active,
    inPlace, by rw [stands, Option.bind_some, written], fun current inForce => ⟨?_, ?_⟩⟩
  · rw [currentParameter_eq active, inForce, Option.bind_some, kept, getElem?_filterMap]
  · exact getElem?_readablePlaces_self_iff

/-- Two parameters, and before them one whose units lie outside the label. -/
def shiftedParameters : List Json :=
  [.obj [("label", .arr [.nat 90, .nat 91])], .obj [("label", .str "x")],
    .obj [("label", .str "y")]]

/-- Two signatures, and before them one without a label. -/
def shiftedSignatures : List Json :=
  [.obj [("documentation", .str "no label")],
    .obj [("label", .str "f(x, y)"), ("parameters", .arr shiftedParameters)],
    .obj [("label", .str "g(x, y)"), ("parameters", .arr shiftedParameters)]]

/-- A response that names the second signature and its second parameter. -/
def shiftedResponse : List (String × Json) :=
  [("activeParameter", .nat 1), ("activeSignature", .nat 1),
    ("signatures", .arr shiftedSignatures)]

theorem shifted_response_is_decoded
    : (Json.lookup? "signatures" shiftedResponse = some (.arr shiftedSignatures)
        ∧ ((Json.Record.named shiftedResponse).lenient 1 "activeSignature" Json.u32?).getD 0 = 1
        ∧ (readAt Signature.ofJson? shiftedSignatures 1).isSome = true)
      ∧ ∃ help place signature,
          decodeSignatureHelp (.obj shiftedResponse) = .ok (some help)
          ∧ shownPlace? shiftedSignatures 1 = some place
          ∧ readAt Signature.ofJson? shiftedSignatures place = some signature
          ∧ help.active = some signature := by
  have listed : Json.lookup? "signatures" shiftedResponse = some (.arr shiftedSignatures) := by
    decide +kernel
  have named
      : ((Json.Record.named shiftedResponse).lenient 1 "activeSignature" Json.u32?).getD 0 = 1 := by
    decide +kernel
  have readable : (readAt Signature.ofJson? shiftedSignatures 1).isSome = true := by decide +kernel
  obtain ⟨help, place, signature, _, decoded, _, shown, read, active, _⟩ :=
    indexes_count_what_can_be_read shiftedResponse shiftedSignatures 1 listed named readable
  exact ⟨⟨listed, named, readable⟩, help, place, signature, decoded, shown, read, active⟩

/-- The signature at the active index and the parameter at the index in force can be read, and the
ones after them are shown, since one before each of them is left out.
-/
theorem left_out_elements_shift_the_active
    : let x : Parameter := { label := "x", offsets := none, documentation := none }
      let y : Parameter := { label := "y", offsets := none, documentation := none }
      let f : Signature :=
        { label := "f(x, y)", documentation := none, parameters := [x, y], activeParameter := none }
      let g := { f with label := "g(x, y)" }
      let help : SignatureHelp :=
        { signatures := [f, g], activeSignature := 1, activeParameter := some 1 }
      decodeSignatureHelp (.obj shiftedResponse) = .ok (some help)
      ∧ readAt Signature.ofJson? shiftedSignatures 1 = some f
      ∧ help.active = some g
      ∧ f ≠ g
      ∧ readAt (Parameter.ofJson? "g(x, y)") shiftedParameters 1 = some x
      ∧ help.currentParameter = some y
      ∧ x ≠ y := by
  decide +kernel

end LanguageClient.Reply
