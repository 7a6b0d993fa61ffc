import LanguageClient.Json.Basic

/-! A value is read as a text, a number, an array or an object exactly when it is one. -/

namespace LanguageClient.Json

theorem string?_eq_some_iff {value : Json} {text : String}
    : value.string? = some text ↔ value = .str text := by
  cases value <;> simp [string?]

/-- Only integers are read as natural numbers. -/
theorem natBelow?_eq_some_iff {value : Json} {bound n : Nat}
    : value.natBelow? bound = some n ↔ value = .nat n ∧ n < bound := by
  constructor
  · intro read
    unfold natBelow? at read
    split at read
    · split at read
      · next below =>
          cases read
          exact ⟨rfl, below⟩
      · cases read
    · cases read
  · rintro ⟨rfl, below⟩
    exact if_pos below

/-- Only integers are read as integers, within their bounds. -/
theorem i64?_eq_some_iff {value : Json} {n : Int}
    : value.i64? = some n ↔ value = .int n ∧ -(Text.word63 : Int) ≤ n ∧ n < Text.word63 := by
  constructor
  · intro read
    unfold i64? at read
    split at read
    · split at read
      · next within =>
          cases read
          exact ⟨rfl, within⟩
      · cases read
    · cases read
  · rintro ⟨rfl, within⟩
    exact if_pos within

theorem array?_eq_some_iff {value : Json} {elements : List Json}
    : value.array? = some elements ↔ value = .arr elements := by
  cases value <;> simp [array?]

theorem object?_eq_some_iff {value : Json} {members : List (String × Json)}
    : value.object? = some members ↔ value = .obj members := by
  cases value <;> simp [object?]

/-- A member that is an array is found, and read as one. -/
theorem bind_array?_eq_some_iff {given : Option Json} {elements : List Json}
    : given.bind array? = some elements ↔ given = some (.arr elements) := by
  simp only [Option.bind_eq_some_iff, array?_eq_some_iff, exists_eq_right]

/-- A member that is an object is found, and read as one. -/
theorem bind_object?_eq_some_iff {given : Option Json} {members : List (String × Json)}
    : given.bind object? = some members ↔ given = some (.obj members) := by
  simp only [Option.bind_eq_some_iff, object?_eq_some_iff, exists_eq_right]

end LanguageClient.Json
