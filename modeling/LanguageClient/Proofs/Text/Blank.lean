import LanguageClient.Text.Blank
import Mathlib.Data.List.DropRight

/-! Trimming a text on either side of a character that is not blank. Whatever stands before that
character is trimmed at its start alone, and whatever follows it at its end alone.
-/

namespace LanguageClient.Text

variable {text front rest : List Char} {c : Char}

theorem trimEnd_eq_rdropWhile (text : List Char) : trimEnd text = text.rdropWhile isBlank := rfl

/-- A text is blank throughout, or some character of it is not blank. -/
theorem blank_or_split (text : List Char)
    : (∀ c ∈ text, isBlank c = true)
      ∨ ∃ front c rest, text = front ++ c :: rest ∧ isBlank c = false := by
  by_cases blank : ∀ c ∈ text, isBlank c = true
  · exact .inl blank
  · push Not at blank
    obtain ⟨c, member, solid⟩ := blank
    obtain ⟨front, rest, split⟩ := List.append_of_mem member
    exact .inr ⟨front, c, rest, split, by simpa using solid⟩

theorem trimStart_append_cons (solid : isBlank c = false)
    : trimStart (front ++ c :: rest) = trimStart front ++ c :: rest := by
  induction front with
  | nil => simp [trimStart, solid]
  | cons first others ih =>
      cases blank : isBlank first with
      | true => simpa [trimStart, blank] using ih
      | false => simp [trimStart, blank]

theorem trimEnd_append_cons (solid : isBlank c = false)
    : trimEnd (front ++ c :: rest) = front ++ c :: trimEnd rest := by
  have mirrored
      : trimStart (rest.reverse ++ c :: front.reverse)
        = trimStart rest.reverse ++ c :: front.reverse :=
    trimStart_append_cons solid
  have turned : (front ++ c :: rest).reverse = rest.reverse ++ c :: front.reverse := by simp
  simp only [trimStart] at mirrored
  simp only [trimEnd, turned, mirrored]
  simp

theorem trim_append_cons (solid : isBlank c = false)
    : trim (front ++ c :: rest) = trimStart front ++ c :: trimEnd rest := by
  rw [trim, trimStart_append_cons solid, trimEnd_append_cons solid]

theorem trim_eq_nil_iff : trim text = [] ↔ ∀ c ∈ text, isBlank c = true := by
  constructor
  · intro empty
    rcases blank_or_split text with blank | ⟨front, c, rest, rfl, solid⟩
    · exact blank
    · simp [trim_append_cons solid] at empty
  · intro blank
    have start : trimStart text = [] := List.dropWhile_eq_nil_iff.mpr blank
    rw [trim, start]
    rfl

@[simp]
theorem trim_trimStart (text : List Char) : trim (trimStart text) = trim text := by
  rw [trim, trimStart, trimStart, List.dropWhile_idempotent]
  rfl

@[simp]
theorem trim_trimEnd (text : List Char) : trim (trimEnd text) = trim text := by
  rcases blank_or_split text with blank | ⟨front, c, rest, rfl, solid⟩
  · have nothing : trimEnd text = [] := by
      rw [trimEnd_eq_rdropWhile]
      exact List.rdropWhile_eq_nil_iff.mpr blank
    rw [nothing, trim_eq_nil_iff.mpr blank]
    rfl
  · rw [trimEnd_append_cons solid, trim_append_cons solid, trim_append_cons solid,
      trimEnd_eq_rdropWhile (trimEnd rest), trimEnd_eq_rdropWhile rest, List.rdropWhile_idempotent]

/-- A text without blanks is left as it is, whatever blanks stand around it. -/
theorem trim_between_blanks {back : List Char} (solid : ∀ c ∈ text, isBlank c = false)
    (before : ∀ c ∈ front, isBlank c = true) (after : ∀ c ∈ back, isBlank c = true)
    : trim (front ++ text ++ back) = text := by
  cases text with
  | nil =>
      refine trim_eq_nil_iff.mpr fun c member => ?_
      rw [List.append_nil] at member
      exact (List.mem_append.mp member).elim (before c) (after c)
  | cons first others =>
      have start : trimStart front = [] := List.dropWhile_eq_nil_iff.mpr before
      have mirrored : trimStart (back.reverse ++ others.reverse) = others.reverse := by
        rw [trimStart, List.dropWhile_append_of_pos (by simpa using after)]
        refine List.dropWhile_eq_self_iff.mpr fun _ => ?_
        have member : others.reverse[0] ∈ others.reverse := List.getElem_mem _
        simpa using solid _ (List.mem_cons_of_mem _ (List.mem_reverse.mp member))
      have ending : trimEnd (others ++ back) = others := by
        simp only [trimStart] at mirrored
        simp [trimEnd, mirrored]
      rw [List.append_assoc, List.cons_append, trim_append_cons (solid first List.mem_cons_self),
        start, ending]
      rfl

theorem mem_of_mem_trim (member : c ∈ trim text) : c ∈ text := by
  have within : c ∈ trimStart text := (List.rdropWhile_prefix isBlank _).subset member
  exact List.dropWhile_subset isBlank within

end LanguageClient.Text
