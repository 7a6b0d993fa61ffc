import LanguageClient.Message.Incoming
import LanguageClient.Proofs.Json.Object

/-! The members of an envelope. In an object each is what the object gives under its name, whatever
else it holds; in a list each is the value at its place.
-/

namespace LanguageClient.Message

-----------------------------------------------------------------------------------------
-- Entries of one key
-----------------------------------------------------------------------------------------

section Entries

variable {α β : Type} [DecidableEq α]

/-- The values of a key, first to last. -/
def valuesOf (key : α) (entries : List (α × β)) : List β :=
  entries.filterMap fun entry => if entry.1 = key then some entry.2 else none

theorem lookup_eq_head? (key : α) (entries : List (α × β))
    : entries.lookup key = (valuesOf key entries).head? := by
  induction entries with
  | nil => rfl
  | cons entry rest ih =>
      obtain ⟨own, value⟩ := entry
      by_cases same : key = own
      · subst same
        simp [valuesOf]
      · rw [List.lookup_cons, beq_false_of_ne same, ih]
        simp [valuesOf, Ne.symm same]

theorem valuesOf_eq_nil_iff {key : α} {entries : List (α × β)}
    : valuesOf key entries = [] ↔ key ∉ entries.map (·.1) := by
  simp only [valuesOf, List.filterMap_eq_nil_iff, List.mem_map, not_exists, not_and]
  constructor
  · intro none entry member same
    simpa [same] using none entry member
  · intro absent entry member
    exact if_neg (absent entry member)

/-- Keys are different exactly when no key has more than one value. -/
theorem nodup_keys_iff {entries : List (α × β)}
    : (entries.map (·.1)).Nodup ↔ ∀ key, (valuesOf key entries).length ≤ 1 := by
  induction entries with
  | nil => simp [valuesOf]
  | cons entry rest ih =>
      obtain ⟨own, value⟩ := entry
      have tail (key : α)
          : valuesOf key ((own, value) :: rest)
            = if own = key then value :: valuesOf key rest else valuesOf key rest := by
        by_cases same : own = key <;> simp [valuesOf, same]
      rw [List.map_cons, List.nodup_cons, ih, ← valuesOf_eq_nil_iff]
      constructor
      · rintro ⟨fresh, few⟩ key
        rw [tail]
        split
        · next same => rw [← same, fresh]; exact Nat.le_refl 1
        · exact few key
      · intro few
        refine ⟨?_, fun key => ?_⟩
        · have one := few own
          rw [tail, if_pos rfl, List.length_cons] at one
          exact List.eq_nil_of_length_eq_zero (Nat.le_zero.mp (Nat.le_of_succ_le_succ one))
        · have most := few key
          rw [tail] at most
          split at most
          · exact Nat.le_of_succ_le most
          · exact most

/-- A key with one value at most has its value whichever end one looks from. -/
theorem lookup_reverse_of_few {key : α} {entries : List (α × β)}
    (few : (valuesOf key entries).length ≤ 1)
    : entries.reverse.lookup key = entries.lookup key := by
  have reversed : valuesOf key entries.reverse = (valuesOf key entries).reverse :=
    List.filterMap_reverse
  rw [lookup_eq_head?, lookup_eq_head?, reversed]
  match valuesOf key entries, few with
  | [], _ => rfl
  | [_], _ => rfl

end Entries

-----------------------------------------------------------------------------------------
-- Envelopes
-----------------------------------------------------------------------------------------

/-- The pieces that an object gives under a name, first to last. -/
def under (name : String) (members : List (Bytes × Json.Raw)) : List Json.Raw :=
  members.filterMap fun entry =>
    if Json.literal? entry.1 = some name then some entry.2 else none

/-- An object is an envelope with these values: all its names can be read, and under the name of
each member there is one piece with its value, or none where it has no value. Pieces under other
names need not stand for anything.
-/
structure Envelope (members : List (Bytes × Json.Raw)) (value : Member → Option Json)
    : Prop where
  names : ∀ entry ∈ members, (Json.literal? entry.1).isSome
  values
    : ∀ member,
        (under member.name members).mapM (Json.Raw.value? innerDepth) = some (value member).toList

theorem Member.ofName?_eq_some_iff {name : String} {member : Member}
    : Member.ofName? name = some member ↔ name = member.name := by
  constructor
  · intro found
    have same := List.find?_some (show Member.all.find? (·.name = name) = some member from found)
    exact (of_decide_eq_true same).symm
  · rintro rfl
    cases member <;> decide

theorem under_cons_of_eq {key : Bytes} {name : String} {piece : Json.Raw}
    {rest : List (Bytes × Json.Raw)} (read : Json.literal? key = some name)
    : under name ((key, piece) :: rest) = piece :: under name rest := by
  simp [under, read]

theorem under_cons_of_ne {key : Bytes} {name : String} {piece : Json.Raw}
    {rest : List (Bytes × Json.Raw)} (other : Json.literal? key ≠ some name)
    : under name ((key, piece) :: rest) = under name rest := by
  simp [under, other]

theorem namedMembers?_cons_unknown {key : Bytes} {text : String} {piece : Json.Raw}
    {rest : List (Bytes × Json.Raw)} (name : Json.literal? key = some text)
    (unknown : Member.ofName? text = none)
    : namedMembers? ((key, piece) :: rest) = namedMembers? rest := by
  simp [namedMembers?, name, unknown]

theorem namedMembers?_cons_known {key : Bytes} {own : Member} {piece : Json.Raw}
    {rest : List (Bytes × Json.Raw)} (name : Json.literal? key = some own.name)
    : namedMembers? ((key, piece) :: rest)
      = (piece.value? innerDepth).bind fun value =>
          (namedMembers? rest).map ((own, value) :: ·) := by
  have known : Member.ofName? own.name = some own := Member.ofName?_eq_some_iff.mpr rfl
  simp only [namedMembers?, name, known, Option.bind_eq_bind, Option.bind_some,
    Option.pure_def, Option.map_eq_bind, Function.comp_def]

/-- Where the members of an envelope can be read, so can all names, and the pieces under the name of
each member stand for the values that are read of it. Induction on the object.
-/
theorem namedMembers?_values {members : List (Bytes × Json.Raw)} {given : List (Member × Json)}
    (read : namedMembers? members = some given)
    : (∀ entry ∈ members, (Json.literal? entry.1).isSome)
      ∧ ∀ member,
          (under member.name members).mapM (Json.Raw.value? innerDepth)
            = some (valuesOf member given) := by
  induction members generalizing given with
  | nil =>
      obtain rfl := Option.some.inj read
      exact ⟨by simp, fun _ => rfl⟩
  | cons entry rest ih =>
      obtain ⟨key, piece⟩ := entry
      cases name : Json.literal? key with
      | none => simp [namedMembers?, name] at read
      | some text =>
          have names (rested : ∀ entry ∈ rest, (Json.literal? entry.1).isSome)
              : ∀ entry ∈ (key, piece) :: rest, (Json.literal? entry.1).isSome := by
            intro entry present
            rcases List.mem_cons.mp present with rfl | later
            · simp [name]
            · exact rested entry later
          cases known : Member.ofName? text with
          | none =>
              rw [namedMembers?_cons_unknown name known] at read
              obtain ⟨rested, values⟩ := ih read
              refine ⟨names rested, fun member => ?_⟩
              have other : Json.literal? key ≠ some member.name := by
                intro same
                have here := Option.some.inj (name.symm.trans same)
                rw [Member.ofName?_eq_some_iff.mpr here] at known
                cases known
              rw [under_cons_of_ne other]
              exact values member
          | some own =>
              obtain rfl := Member.ofName?_eq_some_iff.mp known
              rw [namedMembers?_cons_known name] at read
              obtain ⟨value, stands, read⟩ := Option.bind_eq_some_iff.mp read
              obtain ⟨later, readLater, rfl⟩ := Option.map_eq_some_iff.mp read
              obtain ⟨rested, values⟩ := ih readLater
              refine ⟨names rested, fun member => ?_⟩
              by_cases same : own = member
              · subst same
                rw [under_cons_of_eq name]
                simp [List.mapM_cons, stands, values, valuesOf]
              · have other : Json.literal? key ≠ some member.name := by
                  intro here
                  have text := Option.some.inj (name.symm.trans here)
                  have named := Member.ofName?_eq_some_iff.mpr text
                  exact same (Option.some.inj (known.symm.trans named))
                rw [under_cons_of_ne other, values]
                simp [valuesOf, same]

/-- Where all names and all pieces of members can be read, the envelope can. Induction on the
object.
-/
theorem exists_namedMembers? {members : List (Bytes × Json.Raw)}
    (names : ∀ entry ∈ members, (Json.literal? entry.1).isSome)
    (pieces
      : ∀ (member : Member), ∀ piece ∈ under member.name members,
          (piece.value? innerDepth).isSome)
    : ∃ given, namedMembers? members = some given := by
  induction members with
  | nil => exact ⟨[], rfl⟩
  | cons entry rest ih =>
      obtain ⟨key, piece⟩ := entry
      obtain ⟨text, name⟩ := Option.isSome_iff_exists.mp (names _ List.mem_cons_self)
      obtain ⟨later, readLater⟩ := by
        refine ih (fun entry member => names entry (List.mem_cons_of_mem _ member)) ?_
        intro member other present
        apply pieces member other
        by_cases here : Json.literal? key = some member.name
        · rw [under_cons_of_eq here]
          exact List.mem_cons_of_mem _ present
        · rwa [under_cons_of_ne here]
      cases known : Member.ofName? text with
      | none => exact ⟨later, by rw [namedMembers?_cons_unknown name known, readLater]⟩
      | some own =>
          obtain rfl := Member.ofName?_eq_some_iff.mp known
          have stands : (piece.value? innerDepth).isSome := by
            apply pieces own piece
            rw [under_cons_of_eq name]
            exact List.mem_cons_self
          obtain ⟨value, stands⟩ := Option.isSome_iff_exists.mp stands
          exact ⟨(own, value) :: later, by simp [namedMembers?_cons_known name, stands, readLater]⟩

/-- Pieces that stand for a list of values stand for a value each. -/
theorem isSome_of_mapM {pieces : List Json.Raw} {depth : Nat} {values : List Json}
    (stand : pieces.mapM (Json.Raw.value? depth) = some values)
    : ∀ piece ∈ pieces, (piece.value? depth).isSome := by
  induction pieces generalizing values with
  | nil => simp
  | cons first rest ih =>
      rw [List.mapM_cons] at stand
      obtain ⟨value, stands, stand⟩ := Option.bind_eq_some_iff.mp stand
      obtain ⟨later, standLater, _⟩ := Option.bind_eq_some_iff.mp stand
      intro piece member
      rcases List.mem_cons.mp member with rfl | member
      · simp [stands]
      · exact ih standLater piece member

/-- An object is an envelope exactly when its members can be read as one. -/
theorem envelope_iff {members : List (Bytes × Json.Raw)} {value : Member → Option Json}
    : Envelope members value
      ↔ ∃ given, members? (.obj members) = some given ∧ ∀ member, given.lookup member = value member
    := by
  simp only [members?, Option.filter_eq_some_iff, decide_eq_true_eq]
  constructor
  · rintro ⟨names, values⟩
    obtain ⟨given, read⟩ :=
      exists_namedMembers? names fun member => isSome_of_mapM (values member)
    have same (member : Member) : valuesOf member given = (value member).toList :=
      Option.some.inj (((namedMembers?_values read).2 member).symm.trans (values member))
    refine ⟨given, ⟨read, nodup_keys_iff.mpr fun member => ?_⟩, fun member => ?_⟩
    · rw [same]
      cases value member <;> simp
    · rw [lookup_eq_head?, same]
      cases value member <;> rfl
  · rintro ⟨given, ⟨read, different⟩, found⟩
    obtain ⟨names, values⟩ := namedMembers?_values read
    refine ⟨names, fun member => ?_⟩
    have few := nodup_keys_iff.mp different member
    rw [values, ← found, lookup_eq_head?]
    match valuesOf member given, few with
    | [], _ => rfl
    | [_], _ => rfl

/-- Where all members of an object can be read, those that an envelope has among them are read of
it. Induction on the object.
-/
theorem namedMembers?_of_memberValues? {members : List (Bytes × Json.Raw)}
    {pairs : List (String × Json)}
    (read : Json.Raw.memberValues? innerDepth members = some pairs)
    : namedMembers? members
        = some (pairs.filterMap fun pair => (Member.ofName? pair.1).map (·, pair.2)) := by
  induction members generalizing pairs with
  | nil =>
      obtain rfl := Option.some.inj read
      rfl
  | cons entry rest ih =>
      obtain ⟨key, piece⟩ := entry
      rw [Json.Raw.memberValues?] at read
      split at read
      · next text value later name stands readLater =>
          obtain rfl := Option.some.inj read
          cases known : Member.ofName? text with
          | none => rw [namedMembers?_cons_unknown name known, ih readLater]; simp [known]
          | some own =>
              obtain rfl := Member.ofName?_eq_some_iff.mp known
              rw [namedMembers?_cons_known name, stands, ih readLater]
              simp [known]
      · cases read

/-- Pieces that stand for a list of values are as many. -/
theorem length_of_mapM {pieces : List Json.Raw} {depth : Nat} {values : List Json}
    (stand : pieces.mapM (Json.Raw.value? depth) = some values)
    : values.length = pieces.length := by
  induction pieces generalizing values with
  | nil =>
      obtain rfl := Option.some.inj stand
      rfl
  | cons first rest ih =>
      rw [List.mapM_cons] at stand
      obtain ⟨value, _, stand⟩ := Option.bind_eq_some_iff.mp stand
      obtain ⟨later, standLater, same⟩ := Option.bind_eq_some_iff.mp stand
      obtain rfl := Option.some.inj same
      rw [List.length_cons, List.length_cons, ih standLater]

theorem valuesOf_members (member : Member) (pairs : List (String × Json))
    : valuesOf member (pairs.filterMap fun pair => (Member.ofName? pair.1).map (·, pair.2))
      = valuesOf member.name pairs := by
  induction pairs with
  | nil => rfl
  | cons pair rest ih =>
      obtain ⟨name, value⟩ := pair
      cases known : Member.ofName? name with
      | none =>
          have other : name ≠ member.name := by
            intro same
            rw [Member.ofName?_eq_some_iff.mpr same] at known
            cases known
          simpa [valuesOf, known, other] using ih
      | some own =>
          obtain rfl := Member.ofName?_eq_some_iff.mp known
          have same : own.name = member.name ↔ own = member := by
            refine ⟨fun same => ?_, congrArg Member.name⟩
            exact Option.some.inj (known.symm.trans (Member.ofName?_eq_some_iff.mpr same))
          rw [List.filterMap_cons_some (by rw [known]; rfl)]
          by_cases here : own = member
          · subst here
            simpa [valuesOf] using ih
          · simpa [valuesOf, here, same] using ih

/-- A text of JSON that is an object, and gives no name of a member twice, is the envelope of its
own members.
-/
theorem envelope_of_parse? {body : Bytes} {members : List (Bytes × Json.Raw)} {message : Json}
    (object : Json.Raw.ofBytes? body = some (.obj members))
    (once : ∀ member : Member, (under member.name members).length ≤ 1)
    (parsed : Json.parse? body = some message)
    : Envelope members fun member => message.get? member.name := by
  rw [Json.parse?, object, Option.bind_some, Json.greatestDepth, Json.Raw.value?] at parsed
  obtain ⟨pairs, read, rfl⟩ := Option.map_eq_some_iff.mp parsed
  obtain ⟨names, stand⟩ := namedMembers?_values (namedMembers?_of_memberValues? read)
  simp only [valuesOf_members] at stand
  refine ⟨names, fun member => ?_⟩
  have few : (valuesOf member.name pairs).length ≤ 1 := by
    rw [length_of_mapM (stand member)]
    exact once member
  rw [stand, Json.get?_object, lookup_reverse_of_few few, lookup_eq_head?]
  match valuesOf member.name pairs, few with
  | [], _ => rfl
  | [_], _ => rfl

-----------------------------------------------------------------------------------------
-- Members by their places
-----------------------------------------------------------------------------------------

/-- Where a list gives a member. -/
def Member.place (member : Member) : Nat :=
  Member.all.idxOf member

theorem Member.mem_all (member : Member) : member ∈ Member.all := by
  cases member <;> decide

/-- A key is found at its place, where there are values as far as that. Induction on the keys. -/
theorem lookup_zip {α β : Type} [DecidableEq α] {key : α} {keys : List α} (values : List β)
    (known : key ∈ keys)
    : (keys.zip values).lookup key = values[keys.idxOf key]? := by
  induction keys generalizing values with
  | nil => cases known
  | cons first rest ih =>
      cases values with
      | nil => rfl
      | cons value later =>
          rw [List.zip_cons_cons, List.lookup_cons]
          by_cases here : key = first
          · subst here
            simp
          · have known := (List.mem_cons.mp known).resolve_left here
            rw [beq_false_of_ne here, List.idxOf_cons, beq_false_of_ne (Ne.symm here), cond_false,
              List.getElem?_cons_succ]
            exact ih later known

theorem mapM_value? (depth : Nat) (elements : List Json.Raw)
    : elements.mapM (Json.Raw.value? depth) = Json.Raw.values? depth elements := by
  induction elements with
  | nil => rfl
  | cons first rest ih =>
      rw [List.mapM_cons, ih, Json.Raw.values?]
      cases Json.Raw.value? depth first with
      | none => rfl
      | some value => cases Json.Raw.values? depth rest <;> rfl

/-- What is no object gives members exactly when it is a list of values, no more of them than there
are members.
-/
theorem members?_eq_some_iff {raw : Json.Raw} {given : List (Member × Json)}
    (bare : ∀ members, raw ≠ .obj members)
    : members? raw = some given
      ↔ ∃ values,
          raw.value? Json.greatestDepth = some (.arr values)
          ∧ values.length ≤ Member.all.length
          ∧ Member.all.zip values = given := by
  cases raw with
  | obj members => exact absurd rfl (bare members)
  | arr elements =>
      have whole
          : (Json.Raw.arr elements).value? Json.greatestDepth
            = (elements.mapM (Json.Raw.value? innerDepth)).map .arr := by
        rw [mapM_value?, Json.greatestDepth, Json.Raw.value?]
        rfl
      simp only [members?, listedMembers?, whole]
      cases read : elements.mapM (Json.Raw.value? innerDepth) with
      | none => simp
      | some values => simp [length_of_mapM read]
  | _ => simp [members?, Json.Raw.value?]

theorem ofBytes?_ne_obj {body : Bytes} {values : List Json}
    (parsed : Json.parse? body = some (.arr values)) (members : List (Bytes × Json.Raw))
    : Json.Raw.ofBytes? body ≠ some (.obj members) := by
  intro object
  rw [Json.parse?, object, Option.bind_some, Json.greatestDepth, Json.Raw.value?] at parsed
  obtain ⟨pairs, -, same⟩ := Option.map_eq_some_iff.mp parsed
  cases same

/-- A message that is no object gives members exactly when it is a list of values, no more of them
than there are members.
-/
theorem givenMembers?_eq_some_iff {body : Bytes} {given : List (Member × Json)}
    (bare : ∀ members, Json.Raw.ofBytes? body ≠ some (.obj members))
    : (Json.Raw.ofBytes? body).bind members? = some given
      ↔ ∃ values,
          Json.parse? body = some (.arr values)
          ∧ values.length ≤ Member.all.length
          ∧ Member.all.zip values = given := by
  rw [Json.parse?]
  cases piece : Json.Raw.ofBytes? body with
  | none => simp
  | some raw =>
      rw [Option.bind_some, Option.bind_some]
      apply members?_eq_some_iff
      rintro members rfl
      exact bare members piece

-----------------------------------------------------------------------------------------
-- Bodies that give an envelope
-----------------------------------------------------------------------------------------

/-- The body gives these values for the members of an envelope: an object by their names, and a list
that is no longer than an envelope by their places.
-/
inductive Gives (body : Bytes) (value : Member → Option Json) : Prop
  | object {members} (piece : Json.Raw.ofBytes? body = some (.obj members))
    (envelope : Envelope members value)
    : Gives body value
  | list {values} (parsed : Json.parse? body = some (.arr values))
    (short : values.length ≤ Member.all.length)
    (placed : ∀ member : Member, value member = values[member.place]?)
    : Gives body value

/-- A body gives what is read of it. -/
theorem gives_iff {body : Bytes} {value : Member → Option Json}
    : Gives body value
      ↔ ∃ given,
          (Json.Raw.ofBytes? body).bind members? = some given
          ∧ ∀ member, given.lookup member = value member := by
  constructor
  · rintro (⟨piece, envelope⟩ | ⟨parsed, short, placed⟩)
    · obtain ⟨given, read, found⟩ := envelope_iff.mp envelope
      exact ⟨given, by rw [piece, Option.bind_some, read], found⟩
    · have bare := ofBytes?_ne_obj parsed
      refine ⟨_, (givenMembers?_eq_some_iff bare).mpr ⟨_, parsed, short, rfl⟩, fun member => ?_⟩
      rw [placed]
      exact lookup_zip _ member.mem_all
  · rintro ⟨given, read, found⟩
    by_cases object : ∃ members, Json.Raw.ofBytes? body = some (.obj members)
    · obtain ⟨members, piece⟩ := object
      rw [piece, Option.bind_some] at read
      exact .object piece (envelope_iff.mpr ⟨given, read, found⟩)
    · obtain ⟨values, parsed, short, rfl⟩ :=
        (givenMembers?_eq_some_iff (not_exists.mp object)).mp read
      refine .list parsed short fun member => ?_
      rw [← found]
      exact lookup_zip values member.mem_all

end LanguageClient.Message
