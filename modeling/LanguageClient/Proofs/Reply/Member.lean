import LanguageClient.Proofs.Json.Kind
import LanguageClient.Reply.Markup

/-! What the members of responses tell. A member whose value is not of the right kind tells nothing,
and a text is read in either of the forms in which it is written.
-/

namespace LanguageClient.Reply

variable {α : Type} {means : Json → α → Prop} {given : Option Json}

/-- What a member tells is what its value means. Nothing is told by a value that means nothing, or
where the member is not given.
-/
def Tells (means : Json → α → Prop) (given : Option Json) (told : Option α) : Prop :=
  ∀ value, told = some value ↔ ∃ written, given = some written ∧ means written value

/-- A member tells one thing only. -/
theorem Tells.unique {first second : Option α} (one : Tells means given first)
    (two : Tells means given second)
    : first = second :=
  Option.ext fun value => (one value).trans (two value).symm

theorem tells_bind {read? : Json → Option α}
    (same : ∀ written value, read? written = some value ↔ means written value)
    (given : Option Json)
    : Tells means given (given.bind read?) := by
  intro value
  simp only [Option.bind_eq_some_iff, same]

/-- The value is a text: a string, or an object whose member `value` is one. -/
inductive IsMarkup : Json → String → Prop
  | plain {text} : IsMarkup (.str text) text
  | marked {members text} (given : Json.lookup? "value" members = some (.str text))
    : IsMarkup (.obj members) text

theorem markupText?_eq_some_iff {value : Json} {text : String}
    : markupText? value = some text ↔ IsMarkup value text := by
  constructor
  · intro read
    cases value with
    | str own =>
        cases read
        exact .plain
    | obj members =>
        obtain ⟨own, given, same⟩ := Option.bind_eq_some_iff.mp read
        rw [Json.string?_eq_some_iff.mp same] at given
        exact .marked given
    | _ => cases read
  · rintro (_ | given)
    · rfl
    · rw [markupText?, given]
      rfl

end LanguageClient.Reply
