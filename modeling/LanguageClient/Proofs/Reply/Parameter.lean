import LanguageClient.Proofs.Reply.Elements
import LanguageClient.Proofs.Text.Utf16

/-! Parameters that name units of their signature's label. Such a parameter is kept exactly when these
units are a text, and then it is labelled with that text; otherwise it is left out, and nothing else
is.
-/

namespace LanguageClient.Reply

open Text

/-- The value is a parameter that names its label by two offsets. -/
def Parameter.IsAddressed (value first last : Json) : Prop :=
  ∃ record,
    Json.Record.of? 2 value = some record ∧ record.get? 0 "label" = some (.arr [first, last])

/-- The part of a label between two units is a text inside it that starts and ends there. -/
theorem sliceLabel?_eq_some_iff_of_lt {label part : String} {first last : Nat} (less : first < last)
    : sliceLabel? label first last = some part
      ↔ ∃ front back : String,
          label = front ++ part ++ back
          ∧ (toUnits front.toList).length = first
          ∧ (toUnits (front ++ part).toList).length = last := by
  simp only [sliceLabel?, Option.map_eq_some_iff, sliceUnits?_eq_some_iff_of_lt less, length_toUnits]
  constructor
  · rintro ⟨text, ⟨front, back, split, counted, ending⟩, rfl⟩
    refine ⟨String.ofList front, String.ofList back, ?_, ?_, ?_⟩
    · rw [← String.ofList_append, ← String.ofList_append, ← split, String.ofList_toList]
    · rw [String.toList_ofList, counted]
    · rw [← String.ofList_append, String.toList_ofList, ending]
  · rintro ⟨front, back, rfl, counted, ending⟩
    rw [String.toList_append] at ending
    refine ⟨part.toList, ⟨front.toList, back.toList, ?_, counted, ending⟩, String.ofList_toList⟩
    rw [String.toList_append, String.toList_append]

theorem toUnits_of_sliceLabel? {label part : String} {first last : Nat}
    (sliced : sliceLabel? label first last = some part)
    : toUnits part.toList = unitsBetween label.toList first last := by
  obtain ⟨text, found, rfl⟩ := Option.map_eq_some_iff.mp sliced
  rw [String.toList_ofList]
  exact toUnits_of_sliceUnits? found

/-- A parameter with offsets is read as the part of the label that they name. -/
theorem Parameter.ofJson?_of_isAddressed {value first last : Json}
    (addressed : IsAddressed value first last) (signature : String)
    : ∃ documentation,
        ofJson? signature value
        = first.u32?.bind fun start => last.u32?.bind fun stop =>
            (sliceLabel? signature start stop).map fun label =>
              { label, offsets := some (start, stop), documentation } := by
  obtain ⟨record, seen, named⟩ := addressed
  refine ⟨record.lenient 1 "documentation" markupText?, ?_⟩
  rw [ofJson?, seen]
  simp only [Json.Record.required, named, ParameterLabel.ofJson?, Option.bind_eq_bind,
    Option.bind_some]
  cases first.u32? with
  | none => rfl
  | some start =>
      cases last.u32? with
      | none => rfl
      | some stop =>
          simp only [Option.bind_some, Option.pure_def, Option.map_eq_bind, Function.comp_def]

/-- A parameter whose label is given by two offsets is kept exactly when these are in order and within
the label's units, and the surrogates between them stand in pairs. Its label then has the units
between them, and unless it is empty it is the part of the signature's label that starts and ends
there. Offsets that are no numbers of 32 bits are not kept. A parameter that is not kept is left out
of its signature, of which all else is read as it would be without it.
-/
theorem offsets_select_the_addressed_text {value first last : Json}
    (addressed : Parameter.IsAddressed value first last) (label : String)
    : (∀ start stop,
          first.u32? = some start → last.u32? = some stop →
            ((Parameter.ofJson? label value).isSome
              ↔ start ≤ stop
                ∧ stop ≤ (toUnits label.toList).length
                ∧ Paired (unitsBetween label.toList start stop))
            ∧ ∀ parameter,
                Parameter.ofJson? label value = some parameter →
                  parameter.offsets = some (start, stop)
                  ∧ toUnits parameter.label.toList = unitsBetween label.toList start stop
                  ∧ (start < stop →
                      ∃ front back : String,
                        label = front ++ parameter.label ++ back
                        ∧ (toUnits front.toList).length = start
                        ∧ (toUnits (front ++ parameter.label).toList).length = stop))
      ∧ (first.u32? = none ∨ last.u32? = none → Parameter.ofJson? label value = none)
      ∧ (Parameter.ofJson? label value = none →
          ∀ (whole : Json) signature before after,
            Signature.ofJson? whole = some signature →
              signature.label = label →
                whole.field? 2 "parameters" = some (.arr (before ++ after)) →
                  Signature.ofJson?
                      (whole.withField 2 "parameters" (.arr (before ++ value :: after)))
                    = some signature) := by
  obtain ⟨documentation, read⟩ := Parameter.ofJson?_of_isAddressed addressed label
  refine ⟨?kept, ?unbounded, ?leftOut⟩
  case kept =>
    intro start stop startGiven stopGiven
    rw [startGiven, stopGiven, Option.bind_some, Option.bind_some] at read
    rw [read]
    constructor
    · rw [Option.isSome_map, sliceLabel?, Option.isSome_map]
      exact sliceUnits?_isSome_iff
    · intro parameter found
      obtain ⟨part, sliced, rfl⟩ := Option.map_eq_some_iff.mp found
      refine ⟨rfl, toUnits_of_sliceLabel? sliced, fun less => ?_⟩
      exact (sliceLabel?_eq_some_iff_of_lt less).mp sliced
  case unbounded =>
    rintro (absent | absent)
    · rw [read, absent, Option.bind_none]
    · rw [read, absent]
      cases first.u32? <;> rfl
  case leftOut =>
    rintro unread whole signature before after wholeRead rfl given
    obtain ⟨parameters, others⟩ := Signature.ofJson?_withField wholeRead given
    rw [others, List.filterMap_append, List.filterMap_cons_none unread, ← List.filterMap_append,
      ← parameters]

/-- Offsets around a character of two units select it; the parameter whose offsets end inside that
character is left out.
-/
theorem character_of_two_units_is_selected
    : let label := "f(é, 𝕏)"
      let kept : Json := .arr [.arr [.nat 5, .nat 7]]
      let cut : Json := .arr [.arr [.nat 5, .nat 6]]
      let selected : Parameter := ⟨"𝕏", some (5, 7), none⟩
      (Parameter.IsAddressed kept (.nat 5) (.nat 7)
        ∧ Parameter.ofJson? label kept = some selected
        ∧ Paired (unitsBetween label.toList 5 7)
        ∧ ∃ front back : String,
            label = front ++ "𝕏" ++ back
            ∧ (toUnits front.toList).length = 5
            ∧ (toUnits (front ++ "𝕏").toList).length = 7)
      ∧ Parameter.IsAddressed cut (.nat 5) (.nat 6)
      ∧ ¬ Paired (unitsBetween label.toList 5 6)
      ∧ Signature.ofJson? (.arr [.str label, .null, .arr [cut, kept]])
        = some ⟨label, none, [selected], none⟩ := by
  intro label kept cut selected
  have keptAddressed : Parameter.IsAddressed kept (.nat 5) (.nat 7) := ⟨_, rfl, rfl⟩
  have cutAddressed : Parameter.IsAddressed cut (.nat 5) (.nat 6) := ⟨_, rfl, rfl⟩
  have keptRead : Parameter.ofJson? label kept = some selected := by decide +kernel
  have cutUnread : Parameter.ofJson? label cut = none := by decide +kernel
  have alone
      : Signature.ofJson? (.arr [.str label, .null, .arr [kept]])
        = some ⟨label, none, [selected], none⟩ := by
    decide +kernel
  obtain ⟨iff, found⟩ :=
    (offsets_select_the_addressed_text keptAddressed label).1 5 7 rfl rfl
  obtain ⟨cutIff, _⟩ := (offsets_select_the_addressed_text cutAddressed label).1 5 6 rfl rfl
  refine ⟨⟨keptAddressed, keptRead, ?_, ?_⟩, cutAddressed, ?_, ?_⟩
  · exact (iff.mp (by rw [keptRead]; rfl)).2.2
  · exact (found selected keptRead).2.2 (by decide)
  · intro paired
    have some := cutIff.mpr ⟨by decide, by decide +kernel, paired⟩
    rw [cutUnread] at some
    cases some
  · exact (offsets_select_the_addressed_text cutAddressed label).2.2 cutUnread
      (.arr [.str label, .null, .arr [kept]]) _ [] [kept] alone rfl rfl

end LanguageClient.Reply
