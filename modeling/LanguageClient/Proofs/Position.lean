import LanguageClient.Position
import LanguageClient.Proofs.Json.Kind
import LanguageClient.Proofs.Json.Object
import LanguageClient.Proofs.Json.Record

/-! Positions and ranges as they are written in messages, and that they are read back. Members of
other names may stand beside their own.
-/

namespace LanguageClient

/-- The numbers of a position are of 32 bits. -/
def Position.Fits (position : Position) : Prop :=
  position.line < Text.word32 ∧ position.character < Text.word32

instance (position : Position) : Decidable position.Fits :=
  inferInstanceAs (Decidable (_ ∧ _))

/-- The numbers of a range are of 32 bits. -/
def Range.Fits (range : Range) : Prop :=
  range.start.Fits ∧ range.stop.Fits

instance (range : Range) : Decidable range.Fits :=
  inferInstanceAs (Decidable (_ ∧ _))

/-- The value is an object that tells a position. -/
structure Position.IsWritten (position : Position) (value : Json) : Prop where
  line : value.get? "line" = some (.nat position.line)
  character : value.get? "character" = some (.nat position.character)
  fits : position.Fits

/-- The value is an object that tells a range. -/
structure Range.IsWritten (range : Range) (value : Json) : Prop where
  start : ∃ start, value.get? "start" = some start ∧ range.start.IsWritten start
  stop : ∃ stop, value.get? "end" = some stop ∧ range.stop.IsWritten stop

theorem Json.u32?_nat {n : Nat} (fits : n < Text.word32) : (Json.nat n).u32? = some n :=
  if_pos fits

/-- Only objects have members, and a member is the field of that name. -/
theorem Json.exists_record {value own : Json} {name : String} (given : value.get? name = some own)
    (width : Nat)
    : ∃ members,
        value = .obj members ∧ Json.Record.of? width value = some (.named members) := by
  cases value with
  | obj members => exact ⟨members, rfl, rfl⟩
  | _ => cases given

theorem Position.IsWritten.ofJson? {position : Position} {value : Json}
    (written : position.IsWritten value)
    : Position.ofJson? value = some position := by
  obtain ⟨line, character, lineFits, characterFits⟩ := written
  obtain ⟨members, rfl, seen⟩ := Json.exists_record line 2
  simp only [Json.get?] at line character
  simp only [Position.ofJson?, seen, Json.Record.required, Json.Record.get?, line, character,
    Option.bind_eq_bind, Option.bind_some, Json.u32?_nat lineFits, Json.u32?_nat characterFits,
    Option.pure_def]

theorem Range.IsWritten.ofJson? {range : Range} {value : Json} (written : range.IsWritten value)
    : Range.ofJson? value = some range := by
  obtain ⟨⟨start, startGiven, startWritten⟩, stop, stopGiven, stopWritten⟩ := written
  obtain ⟨members, rfl, seen⟩ := Json.exists_record startGiven 2
  simp only [Json.get?] at startGiven stopGiven
  simp only [Range.ofJson?, seen, Json.Record.required, Json.Record.get?, startGiven, stopGiven,
    Option.bind_eq_bind, Option.bind_some, startWritten.ofJson?, stopWritten.ofJson?,
    Option.pure_def]

/-- Only numbers of 32 bits are read. -/
theorem Position.fits_of_ofJson? {value : Json} {position : Position}
    (read : Position.ofJson? value = some position)
    : position.Fits := by
  simp only [Position.ofJson?, Json.Record.required, Option.bind_eq_bind, Option.bind_eq_some_iff,
    Json.u32?, Json.natBelow?_eq_some_iff] at read
  obtain ⟨_, _, line, ⟨_, _, _, lineFits⟩, character, ⟨_, _, _, characterFits⟩, made⟩ := read
  cases made
  exact ⟨lineFits, characterFits⟩

theorem Range.fits_of_ofJson? {value : Json} {range : Range}
    (read : Range.ofJson? value = some range)
    : range.Fits := by
  simp only [Range.ofJson?, Json.Record.required, Option.bind_eq_bind,
    Option.bind_eq_some_iff] at read
  obtain ⟨_, _, start, ⟨_, _, startRead⟩, stop, ⟨_, _, stopRead⟩, made⟩ := read
  cases made
  exact ⟨Position.fits_of_ofJson? startRead, Position.fits_of_ofJson? stopRead⟩

theorem Position.Fits.isWritten_toJson {position : Position} (fits : position.Fits)
    : position.IsWritten position.toJson := by
  refine ⟨?_, ?_, fits⟩ <;> simp [Position.toJson, Json.get?_object, lookup_cons_eq]

theorem Range.Fits.isWritten_toJson {range : Range} (fits : range.Fits)
    : range.IsWritten range.toJson := by
  refine ⟨⟨_, ?_, fits.1.isWritten_toJson⟩, _, ?_, fits.2.isWritten_toJson⟩ <;>
    simp [Range.toJson, Json.get?_object, lookup_cons_eq]

-----------------------------------------------------------------------------------------
-- Values that are read
-----------------------------------------------------------------------------------------

/-- The value is a position, in either of the forms in which records are written. -/
def IsPosition (value : Json) (position : Position) : Prop :=
  value.IsPair "line" "character" (.nat position.line) (.nat position.character) ∧ position.Fits

/-- The value is a range, in either of the forms in which records are written. -/
def IsRange (value : Json) (range : Range) : Prop :=
  ∃ start stop,
    value.IsPair "start" "end" start stop
    ∧ IsPosition start range.start
    ∧ IsPosition stop range.stop

theorem Position.ofJson?_eq_some_iff {value : Json} {position : Position}
    : Position.ofJson? value = some position ↔ IsPosition value position := by
  simp only [Position.ofJson?, Json.Record.required, Option.bind_eq_bind, Option.bind_eq_some_iff,
    Json.u32?, Json.natBelow?_eq_some_iff, Option.pure_def, Option.some_inj]
  constructor
  · rintro ⟨record, seen, line, ⟨_, lineGiven, rfl, lineFits⟩, character,
      ⟨_, characterGiven, rfl, characterFits⟩, rfl⟩
    exact ⟨Json.exists_record_iff_isPair.mp ⟨record, seen, lineGiven, characterGiven⟩,
      lineFits, characterFits⟩
  · rintro ⟨pair, lineFits, characterFits⟩
    obtain ⟨record, seen, lineGiven, characterGiven⟩ := Json.exists_record_iff_isPair.mpr pair
    exact ⟨record, seen, _, ⟨_, lineGiven, rfl, lineFits⟩, _,
      ⟨_, characterGiven, rfl, characterFits⟩, rfl⟩

theorem Range.ofJson?_eq_some_iff {value : Json} {range : Range}
    : Range.ofJson? value = some range ↔ IsRange value range := by
  simp only [Range.ofJson?, Json.Record.required, Option.bind_eq_bind, Option.bind_eq_some_iff,
    Position.ofJson?_eq_some_iff, Option.pure_def, Option.some_inj]
  constructor
  · rintro ⟨record, seen, _, ⟨start, startGiven, startRead⟩, _, ⟨stop, stopGiven, stopRead⟩, rfl⟩
    exact ⟨start, stop, Json.exists_record_iff_isPair.mp ⟨record, seen, startGiven, stopGiven⟩,
      startRead, stopRead⟩
  · rintro ⟨start, stop, pair, startRead, stopRead⟩
    obtain ⟨record, seen, startGiven, stopGiven⟩ := Json.exists_record_iff_isPair.mpr pair
    exact ⟨record, seen, _, ⟨start, startGiven, startRead⟩, _, ⟨stop, stopGiven, stopRead⟩, rfl⟩

end LanguageClient
