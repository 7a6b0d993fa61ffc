import LanguageClient.Environment
import Mathlib.Data.List.Infix
import Mathlib.Data.List.TakeWhile

/-! Expansion passes over a text once, from its start to its end. Every text is literal text with
references in between, and perhaps one more at its end that stays open. The references are replaced
by their values, which are not looked at again, and all else stays.
-/

namespace LanguageClient.Environment

-----------------------------------------------------------------------------------------
-- Texts with references
-----------------------------------------------------------------------------------------

/-- What a reference starts with. -/
def opening : List Char := ['$', '\x7b']

/-- A text in which no reference starts. -/
def IsLiteral (text : List Char) : Prop :=
  ¬ opening <:+: text

instance (text : List Char) : Decidable (IsLiteral text) :=
  inferInstanceAs (Decidable (¬ _))

/-- What may follow the last literal text: nothing, or a reference that stays open. -/
def IsTail (rest : List Char) : Prop :=
  rest = [] ∨ ∃ name, '\x7d' ∉ name ∧ rest = opening ++ name

/-- A text with references: what stands before the first, and the name of each with what stands
between it and the next.
-/
structure Template where
  front : String
  references : List (String × String)

namespace Template

def text (template : Template) : String :=
  template.front
    ++ String.join (template.references.map fun (name, literal) =>
      "$\x7b" ++ name ++ "\x7d" ++ literal)

/-- The text with a value for the name of each reference; a name that has none, and the empty one,
stand for nothing.
-/
def filled (value? : String → Option String) (template : Template) : String :=
  template.front
    ++ String.join (template.references.map fun (name, literal) =>
      (if name = "" then "" else (value? name).getD "") ++ literal)

/-- References start and end where they are said to. -/
structure IsWellFormed (template : Template) : Prop where
  front : IsLiteral template.front.toList
  names : ∀ reference ∈ template.references, '\x7d' ∉ reference.1.toList
  literals : ∀ reference ∈ template.references, IsLiteral reference.2.toList

variable {front name literal : String} {references : List (String × String)}

theorem toList_text_cons
    : (text ⟨front, (name, literal) :: references⟩).toList
      = front.toList
        ++ (opening ++ (name.toList ++ '\x7d' :: (text ⟨literal, references⟩).toList)) := by
  simp [text, opening]

theorem toList_filled_cons (value? : String → Option String)
    : (filled value? ⟨front, (name, literal) :: references⟩).toList
      = front.toList
        ++ (valueOf value? name.toList ++ (filled value? ⟨literal, references⟩).toList) := by
  by_cases empty : name = "" <;> simp [filled, valueOf, empty]

theorem isWellFormed_cons_iff
    : IsWellFormed ⟨front, (name, literal) :: references⟩
      ↔ IsLiteral front.toList
        ∧ '\x7d' ∉ name.toList
        ∧ IsWellFormed ⟨literal, references⟩ := by
  constructor
  · rintro ⟨literalFront, names, literals⟩
    rw [List.forall_mem_cons] at names literals
    exact ⟨literalFront, names.1, literals.1, names.2, literals.2⟩
  · rintro ⟨literalFront, inside, literal, names, literals⟩
    exact ⟨literalFront, List.forall_mem_cons.mpr ⟨inside, names⟩,
      List.forall_mem_cons.mpr ⟨literal, literals⟩⟩

end Template

-----------------------------------------------------------------------------------------
-- Expansion
-----------------------------------------------------------------------------------------

variable {value? : String → Option String} {text front after name rest : List Char}

theorem isLiteral_cons_iff {c : Char}
    : IsLiteral (c :: text) ↔ ¬ opening <+: c :: text ∧ IsLiteral text := by
  simp [IsLiteral, List.infix_cons_iff]

theorem isLiteral_nil : IsLiteral [] := by
  simp [IsLiteral, opening]

theorem expand_cons {c : Char} (apart : ¬ opening <+: c :: rest)
    : expand value? (c :: rest) = c :: expand value? rest := by
  rw [expand]
  rintro after rfl rfl
  exact apart ⟨after, rfl⟩

/-- No reference starts in literal text, nor at its end together with a tail. -/
theorem not_opening_append {c : Char} (literal : IsLiteral (c :: front))
    (next : rest.head? ≠ some '\x7b')
    : ¬ opening <+: c :: (front ++ rest) := by
  intro starts
  cases front with
  | nil =>
      obtain ⟨after, same⟩ := starts
      cases same
      exact next rfl
  | cons d front =>
      obtain ⟨after, same⟩ := starts
      cases same
      exact literal ⟨[], front, rfl⟩

/-- Literal text is passed over. Induction on it. -/
theorem expand_append (literal : IsLiteral front) (next : rest.head? ≠ some '\x7b')
    : expand value? (front ++ rest) = front ++ expand value? rest := by
  induction front with
  | nil => rfl
  | cons c front ih =>
      rw [List.cons_append, expand_cons (not_opening_append literal next),
        ih (isLiteral_cons_iff.mp literal).2, List.cons_append]

theorem reference?_of_closed (inside : '\x7d' ∉ name)
    : reference? (name ++ '\x7d' :: rest) = some (name, rest) := by
  have plain : ∀ c ∈ name, decide (c ≠ '\x7d') = true := by
    intro c member
    exact decide_eq_true fun same => inside (same ▸ member)
  rw [reference?, List.dropWhile_append_of_pos plain, List.takeWhile_append_of_pos plain]
  simp

theorem reference?_of_open (inside : '\x7d' ∉ name) : reference? name = none := by
  have plain : name.dropWhile (· ≠ '\x7d') = [] := by
    refine List.dropWhile_eq_nil_iff.mpr fun c member => ?_
    exact decide_eq_true fun same => inside (same ▸ member)
  rw [reference?, plain]

/-- What starts with an opening is a reference and a rest, or stays as it is. -/
theorem expand_opening (value? : String → Option String) (after : List Char)
    : expand value? (opening ++ after)
      = (reference? after).elim (opening ++ after) fun (name, rest) =>
          valueOf value? name ++ expand value? rest := by
  generalize starts : opening ++ after = text
  fun_cases expand value? text with
  | case1 => cases starts
  | case2 other name rest found =>
      obtain rfl : after = other := List.append_cancel_left starts
      rw [found]
      rfl
  | case3 other unfound =>
      obtain rfl : after = other := List.append_cancel_left starts
      rw [unfound]
      rfl
  | case4 c rest apart =>
      cases starts
      exact absurd rfl (apart after rfl)

theorem expand_reference (inside : '\x7d' ∉ name)
    : expand value? (opening ++ (name ++ '\x7d' :: rest))
      = valueOf value? name ++ expand value? rest := by
  rw [expand_opening, reference?_of_closed inside]
  rfl

/-- What follows the last literal text stays as it is. -/
theorem expand_of_isTail (tail : IsTail rest) : expand value? rest = rest := by
  rcases tail with rfl | ⟨name, inside, rfl⟩
  · rw [expand]
  · rw [expand_opening, reference?_of_open inside]
    rfl

theorem IsTail.head? (tail : IsTail rest) : rest.head? ≠ some '\x7b' := by
  rcases tail with rfl | ⟨name, _, rfl⟩ <;> simp [opening]

/-- The references of a template are replaced, and what follows it stays. Induction on the
references.
-/
theorem expand_template (value? : String → Option String) (template : Template)
    (formed : template.IsWellFormed) (tail : IsTail rest)
    : expand value? (template.text.toList ++ rest) = (template.filled value?).toList ++ rest := by
  obtain ⟨front, references⟩ := template
  induction references generalizing front with
  | nil =>
      have same : (Template.text ⟨front, []⟩).toList = front.toList := by simp [Template.text]
      rw [same, expand_append formed.front tail.head?, expand_of_isTail tail]
      simp [Template.filled]
  | cons reference references ih =>
      obtain ⟨name, literal⟩ := reference
      obtain ⟨literalFront, inside, later⟩ := Template.isWellFormed_cons_iff.mp formed
      rw [Template.toList_text_cons, Template.toList_filled_cons]
      simp only [List.append_assoc, List.cons_append]
      rw [expand_append literalFront (by simp [opening]), expand_reference inside,
        ih literal later]

-----------------------------------------------------------------------------------------
-- Passes
-----------------------------------------------------------------------------------------

/-- What stands before the first reference of a text, and what follows its opening. -/
def cut? : List Char → Option (List Char × List Char)
  | [] => none
  | '$' :: '\x7b' :: after => some ([], after)
  | c :: rest => (cut? rest).map fun (front, after) => (c :: front, after)

/-- Expansion by passes: each looks for the next reference, puts what stands before it and its value
to what is done, and leaves what follows it. The last pass finds no reference, or one that stays
open. Nothing comes of too few passes.
-/
def expandWithin (value? : String → Option String)
    : Nat → (done text : List Char) → Option (List Char)
  | 0, _, _ => none
  | passes + 1, done, text =>
      match cut? text with
      | none => some (done ++ text)
      | some (front, after) =>
          match reference? after with
          | none => some (done ++ text)
          | some (name, rest) =>
              expandWithin value? passes (done ++ front ++ valueOf value? name) rest

theorem cut?_cons {c : Char} (apart : ¬ opening <+: c :: rest)
    : cut? (c :: rest) = (cut? rest).map fun (front, after) => (c :: front, after) := by
  rw [cut?]
  rintro after rfl rfl
  exact apart ⟨after, rfl⟩

/-- The first reference is found where literal text ends. Induction on the literal text. -/
theorem cut?_append (literal : IsLiteral front) (next : rest.head? ≠ some '\x7b')
    : cut? (front ++ rest) = (cut? rest).map fun (inside, after) => (front ++ inside, after) := by
  induction front with
  | nil => simp
  | cons c front ih =>
      rw [List.cons_append, cut?_cons (not_opening_append literal next),
        ih (isLiteral_cons_iff.mp literal).2, Option.map_map]
      rfl

/-- Every text is literal, or literal up to its first reference. Induction on the text. -/
theorem literal_or_cut (text : List Char)
    : IsLiteral text ∨ ∃ front after, IsLiteral front ∧ text = front ++ (opening ++ after) := by
  induction text with
  | nil => exact .inl isLiteral_nil
  | cons c text ih =>
      by_cases starts : opening <+: c :: text
      · obtain ⟨after, same⟩ := starts
        exact .inr ⟨[], after, isLiteral_nil, same.symm⟩
      · rcases ih with literal | ⟨front, after, literal, rfl⟩
        · exact .inl (isLiteral_cons_iff.mpr ⟨starts, literal⟩)
        · refine .inr ⟨c :: front, after, isLiteral_cons_iff.mpr ⟨?_, literal⟩, rfl⟩
          exact fun early => starts (early.trans ⟨opening ++ after, rfl⟩)

/-- Literal text alone is a template. -/
theorem Template.isWellFormed_of_literal (literal : IsLiteral text)
    : IsWellFormed ⟨String.ofList text, []⟩ :=
  ⟨by simpa using literal, fun _ member => (nomatch member), fun _ member => (nomatch member)⟩

/-- Every text is that of a template and a tail. Induction on its length: what follows its first
reference is shorter.
-/
theorem exists_template (text : List Char)
    : ∃ (template : Template) (rest : List Char),
        template.IsWellFormed ∧ IsTail rest ∧ text = template.text.toList ++ rest := by
  induction length : text.length using Nat.strongRecOn generalizing text with
  | ind _ ih =>
      rcases literal_or_cut text with literal | ⟨front, after, literal, rfl⟩
      · refine ⟨_, [], Template.isWellFormed_of_literal literal, .inl rfl, ?_⟩
        simp [Template.text]
      · by_cases closes : '\x7d' ∈ after
        · obtain ⟨name, rest, rfl, inside⟩ := List.eq_append_cons_of_mem closes
          have shorter : rest.length < (front ++ (opening ++ (name ++ '\x7d' :: rest))).length := by
            simp [opening]
            omega
          obtain ⟨⟨next, references⟩, tail, formed, isTail, rfl⟩ :=
            ih _ (length ▸ shorter) rest rfl
          refine ⟨⟨String.ofList front, (String.ofList name, next) :: references⟩, tail,
            Template.isWellFormed_cons_iff.mpr ⟨?_, ?_, formed⟩, isTail, ?_⟩
          · simpa using literal
          · simpa using inside
          · simp [Template.toList_text_cons]
        · refine ⟨_, opening ++ after, Template.isWellFormed_of_literal literal,
            .inr ⟨after, closes, rfl⟩, ?_⟩
          simp [Template.text]

/-- A text is expanded in one pass for each of its references and a last one. Induction on the
references.
-/
theorem expandWithin_template (template : Template) (formed : template.IsWellFormed)
    (tail : IsTail rest) (done : List Char)
    : expandWithin value? (template.references.length + 1) done (template.text.toList ++ rest)
      = some (done ++ ((template.filled value?).toList ++ rest)) := by
  obtain ⟨front, references⟩ := template
  induction references generalizing front done with
  | nil =>
      have same : (Template.text ⟨front, []⟩).toList = front.toList := by simp [Template.text]
      have filled : (Template.filled value? ⟨front, []⟩).toList = front.toList := by
        simp [Template.filled]
      rw [same, filled, List.length_nil, expandWithin, cut?_append formed.front tail.head?]
      rcases tail with rfl | ⟨name, inside, rfl⟩
      · simp [cut?]
      · simp [opening, cut?, reference?_of_open inside]
  | cons reference references ih =>
      obtain ⟨name, literal⟩ := reference
      obtain ⟨literalFront, inside, later⟩ := Template.isWellFormed_cons_iff.mp formed
      rw [Template.toList_text_cons, Template.toList_filled_cons, List.length_cons, expandWithin]
      simp only [List.append_assoc, List.cons_append]
      rw [cut?_append literalFront (by simp [opening])]
      simp only [opening, cut?, List.cons_append, List.nil_append, Option.map_some,
        reference?_of_closed inside, List.append_nil]
      rw [ih _ literal later]
      simp

/-- Expansion replaces the references of a text by their values in one pass from its start to its
end, and leaves all else as it is: a value, whatever it holds, and what follows a reference that
stays open are not looked at again. Every text is made of literal text and references, with one that
stays open at its end or without, and the passes over it end.
-/
theorem references_are_replaced_once (value? : String → Option String)
    : (∀ template : Template,
        template.IsWellFormed →
          expandString value? template.text = template.filled value?
          ∧ ∀ name : String,
              '\x7d' ∉ name.toList →
                expandString value? (template.text ++ ("$\x7b" ++ name))
                  = template.filled value? ++ ("$\x7b" ++ name))
      ∧ (∀ text : String,
          ∃ template : Template,
            template.IsWellFormed
            ∧ (text = template.text
              ∨ ∃ name : String,
                  '\x7d' ∉ name.toList ∧ text = template.text ++ ("$\x7b" ++ name)))
      ∧ ∀ text : String,
          ∃ passes,
            expandWithin value? passes [] text.toList
              = some (expandString value? text).toList := by
  refine ⟨fun template formed => ⟨?closed, fun name inside => ?open'⟩, fun text => ?shape,
    fun text => ?ends⟩
  case closed =>
    have expanded := expand_template value? template formed (.inl rfl)
    rw [List.append_nil, List.append_nil] at expanded
    rw [expandString, expanded, String.ofList_toList]
  case open' =>
    have expanded :=
      expand_template value? template formed (.inr ⟨name.toList, inside, rfl⟩)
    have written : ("$\x7b" ++ name).toList = opening ++ name.toList := by simp [opening]
    rw [expandString, String.toList_append, written, expanded, ← written, ← String.toList_append,
      String.ofList_toList]
  case shape =>
    obtain ⟨template, rest, formed, tail, same⟩ := exists_template text.toList
    refine ⟨template, formed, ?_⟩
    rcases tail with rfl | ⟨name, inside, rfl⟩
    · exact .inl (String.toList_inj.mp (same.trans (List.append_nil _)))
    · refine .inr ⟨String.ofList name, by simpa using inside, ?_⟩
      apply String.toList_inj.mp
      simpa [opening] using same
  case ends =>
    obtain ⟨template, rest, formed, tail, same⟩ := exists_template text.toList
    refine ⟨template.references.length + 1, ?_⟩
    rw [expandString, String.toList_ofList, same, expandWithin_template template formed tail,
      expand_template value? template formed tail, List.nil_append]

/-- References that follow each other, whose names hold an opening, whose values hold references,
and one that stays open.
-/
theorem neighbouring_references_are_replaced_once
    : let value? : String → Option String := fun name =>
        if name = "a$\x7bb" then some "$\x7bc\x7d" else if name = "é" then some "\x7d" else none
      let template : Template := ⟨"$", [("a$\x7bb", ""), ("", "ü$"), ("é", "\x7d$")]⟩
      template.IsWellFormed
      ∧ template.text = "$$\x7ba$\x7bb\x7d$\x7b\x7dü$$\x7bé\x7d\x7d$"
      ∧ expandString value? template.text = "$$\x7bc\x7dü$\x7d\x7d$"
      ∧ expandString value? (template.text ++ ("$\x7b" ++ "$\x7bé"))
        = "$$\x7bc\x7dü$\x7d\x7d$$\x7b$\x7bé" := by
  intro value? template
  have formed : template.IsWellFormed := by
    refine ⟨?_, ?_, ?_⟩ <;> decide +kernel
  obtain ⟨replaced, _⟩ := references_are_replaced_once value?
  obtain ⟨closed, left⟩ := replaced template formed
  refine ⟨formed, by decide +kernel, ?_, ?_⟩
  · rw [closed]
    decide +kernel
  · rw [left "$\x7bé" (by decide)]
    decide +kernel

end LanguageClient.Environment
