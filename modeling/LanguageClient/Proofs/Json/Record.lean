import LanguageClient.Json.Record

/-! A field of a value, given by its name or by its place, and the value with another field there:
what is read of the other fields stays the same.
-/

namespace LanguageClient.Json

/-- A field of a value: the member of that name of an object, or the element at that place of an
array.
-/
def field? (value : Json) (index : Nat) (name : String) : Option Json :=
  match value with
  | .obj members => lookup? name members
  | .arr values => values[index]?
  | _ => none

/-- The value with another field. An array that does not reach to that place stays as it is, and so
does a value that has no fields.
-/
def withField (value : Json) (index : Nat) (name : String) (field : Json) : Json :=
  match value with
  | .obj members => .obj (insertEntry name field members)
  | .arr values => .arr (values.set index field)
  | other => other

theorem get?_set (value : Json) (name other : String) (field : Json) (different : other ≠ name)
    : (value.set name field).get? other = value.get? other := by
  cases value with
  | obj members => rw [set, get?, get?, lookup?, lookup_insertEntry, if_neg different, lookup?]
  | _ => rfl

theorem get?_set_self {value : Json} {name : String} {field own : Json}
    (given : value.get? name = some own)
    : (value.set name field).get? name = some field := by
  cases value with
  | obj members => rw [set, get?, lookup?, lookup_insertEntry, if_pos rfl]
  | _ => cases given

theorem get?_withField {index : Nat} {name other : String} (value field : Json)
    (different : other ≠ name)
    : (value.withField index name field).get? other = value.get? other := by
  cases value with
  | obj members => exact get?_set (.obj members) name other field different
  | _ => rfl

namespace Record

/-- The record with another field. -/
def withField (record : Record) (index : Nat) (name : String) (field : Json) : Record :=
  match record with
  | .named members => .named (insertEntry name field members)
  | .listed values => .listed (values.set index field)

theorem of?_withField (width index : Nat) (name : String) (value field : Json)
    : of? width (value.withField index name field)
      = (of? width value).map (·.withField index name field) := by
  cases value with
  | arr values =>
      simp only [Json.withField, of?, List.length_set]
      split <;> rfl
  | _ => rfl

theorem field?_of_of? {width index : Nat} {name : String} {value : Json} {record : Record}
    (seen : of? width value = some record)
    : value.field? index name = record.get? index name := by
  cases value with
  | obj members =>
      obtain rfl := Option.some.inj seen
      rfl
  | arr values =>
      rw [of?] at seen
      split at seen
      · obtain rfl := Option.some.inj seen
        rfl
      · cases seen
  | _ => cases seen

variable {α : Type} {index other : Nat} {name otherName : String} {field : Json} {record : Record}

theorem get?_withField_self {own : Json} (given : record.get? index name = some own)
    : (record.withField index name field).get? index name = some field := by
  cases record with
  | named members => rw [withField, get?, lookup?, lookup_insertEntry, if_pos rfl]
  | listed values =>
      have within : index < values.length := (List.getElem?_eq_some_iff.mp given).1
      rw [withField, get?, List.getElem?_set_self within]

theorem get?_withField_of_ne (place : other ≠ index) (called : otherName ≠ name)
    : (record.withField index name field).get? other otherName = record.get? other otherName := by
  cases record with
  | named members => rw [withField, get?, lookup?, lookup_insertEntry, if_neg called, get?, lookup?]
  | listed values => rw [withField, get?, List.getElem?_set_ne place.symm, get?]

theorem required_withField_of_ne (read? : Json → Option α) (place : other ≠ index)
    (called : otherName ≠ name)
    : (record.withField index name field).required other otherName read?
      = record.required other otherName read? := by
  rw [required, get?_withField_of_ne place called, required]

theorem lenient_withField_of_ne (read? : Json → Option α) (place : other ≠ index)
    (called : otherName ≠ name)
    : (record.withField index name field).lenient other otherName read?
      = record.lenient other otherName read? := by
  rw [lenient, get?_withField_of_ne place called, lenient]

theorem withDefault_withField_self {own : Json} (given : record.get? index name = some own)
    (absent : α) (read? : Json → Option α)
    : (record.withField index name field).withDefault index name absent read? = read? field := by
  rw [withDefault, get?_withField_self given]

/-- A field that may be left out is read of its value, or it is what stands for it. -/
theorem withDefault_eq_some_iff {absent result : α} {read? : Json → Option α}
    : record.withDefault index name absent read? = some result
      ↔ (∃ value, record.get? index name = some value ∧ read? value = some result)
        ∨ record.get? index name = none ∧ result = absent := by
  unfold withDefault
  cases record.get? index name with
  | none => simp [eq_comm]
  | some value => simp

theorem nullable_of_absent (read? : Json → Option α)
    (absent : record.get? index name = none ∨ record.get? index name = some .null)
    : record.nullable index name read? = some none := by
  rcases absent with absent | absent <;> rw [nullable, absent]

theorem nullable_of_some (read? : Json → Option α) {own : Json}
    (given : record.get? index name = some own) (filled : own ≠ .null)
    : record.nullable index name read? = (read? own).map some := by
  rw [nullable, given]
  split
  · next none => cases none
  · next null => exact absurd (Option.some.inj null) filled
  · next same => rw [Option.some.inj same]

/-- A field that is written where there is something to write, and left out otherwise. -/
theorem nullable_of_map {β : Type} {write : β → Json} {view : β → α} {read? : Json → Option α}
    {own : Option β} (given : record.get? index name = own.map write)
    (filled : ∀ value, write value ≠ .null) (reads : ∀ value, read? (write value) = some (view value))
    : record.nullable index name read? = some (own.map view) := by
  cases own with
  | none => exact nullable_of_absent read? (.inl given)
  | some value => rw [nullable_of_some read? given (filled value), reads, Option.map_some]; rfl

end Record

/-- A record of two fields, the second of which may be missing, is an object that gives them by their
names, or a list of those that it gives.
-/
theorem exists_record_iff {first second : String} {value one : Json} {two : Option Json}
    : (∃ record,
        Record.of? 2 value = some record
        ∧ record.get? 0 first = some one
        ∧ record.get? 1 second = two)
      ↔ (∃ members,
          value = .obj members
          ∧ lookup? first members = some one
          ∧ lookup? second members = two)
        ∨ value = .arr (one :: two.toList) := by
  constructor
  · rintro ⟨record, seen, oneGiven, rfl⟩
    cases value with
    | obj members =>
        obtain rfl := Option.some.inj seen
        exact .inl ⟨members, rfl, oneGiven, rfl⟩
    | arr values =>
        rw [Record.of?] at seen
        split at seen
        · next within =>
            obtain rfl := Option.some.inj seen
            match values, within, oneGiven with
            | [_], _, rfl => exact .inr rfl
            | [_, _], _, rfl => exact .inr rfl
        · cases seen
    | _ => cases seen
  · rintro (⟨members, rfl, oneGiven, rfl⟩ | rfl)
    · exact ⟨_, rfl, oneGiven, rfl⟩
    · cases two with
      | none => exact ⟨_, rfl, rfl, rfl⟩
      | some two => exact ⟨_, rfl, rfl, rfl⟩

/-- The value is a record of two fields, by their names or in a list of both. -/
inductive IsPair (first second : String) : Json → Json → Json → Prop
  | named {members one two} (oneGiven : lookup? first members = some one)
    (twoGiven : lookup? second members = some two)
    : IsPair first second (.obj members) one two
  | listed {one two} : IsPair first second (.arr [one, two]) one two

/-- A record of two required fields is read from a pair whose values can be read. -/
theorem exists_record_iff_isPair {first second : String} {value one two : Json}
    : (∃ record,
        Record.of? 2 value = some record
        ∧ record.get? 0 first = some one
        ∧ record.get? 1 second = some two)
      ↔ IsPair first second value one two := by
  rw [exists_record_iff]
  constructor
  · rintro (⟨members, rfl, oneGiven, twoGiven⟩ | rfl)
    · exact .named oneGiven twoGiven
    · exact .listed
  · rintro (⟨oneGiven, twoGiven⟩ | _)
    · exact .inl ⟨_, rfl, oneGiven, twoGiven⟩
    · exact .inr rfl

end LanguageClient.Json
