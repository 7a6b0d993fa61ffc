import Mathlib.Data.List.Basic

/-! What a reader keeps of a list: a result for each element that has one, in the order of the
elements.
-/

namespace LanguageClient

variable {α β : Type}

/-- The results are those of the elements that have one, in the order of the elements. -/
inductive Selects (reads : α → β → Prop) : List α → List β → Prop where
  | nil : Selects reads [] []
  | keep {element : α} {result : β} {elements : List α} {results : List β}
      (read : reads element result) (rest : Selects reads elements results)
      : Selects reads (element :: elements) (result :: results)
  | skip {element : α} {elements : List α} {results : List β}
      (unread : ∀ result, ¬ reads element result) (rest : Selects reads elements results)
      : Selects reads (element :: elements) results

/-- There is one list of results, which filtering the elements finds. -/
theorem selects_iff {reads : α → β → Prop} {read? : α → Option β}
    (same : ∀ element result, read? element = some result ↔ reads element result)
    {elements : List α} {results : List β}
    : Selects reads elements results ↔ results = elements.filterMap read? := by
  constructor
  · intro selected
    induction selected with
    | nil => rfl
    | keep read _ ih => rw [List.filterMap_cons_some ((same _ _).mpr read), ih]
    | @skip element _ _ unread _ ih =>
        have none : read? element = none :=
          Option.eq_none_iff_forall_not_mem.mpr fun result found =>
            unread result ((same _ _).mp found)
        rw [List.filterMap_cons_none none, ih]
  · rintro rfl
    induction elements with
    | nil => exact .nil
    | cons element rest ih =>
        cases found : read? element with
        | none =>
            rw [List.filterMap_cons_none found]
            refine .skip (fun result read => ?_) ih
            cases found.symm.trans ((same _ _).mpr read)
        | some result =>
            rw [List.filterMap_cons_some found]
            exact .keep ((same _ _).mp found) ih

end LanguageClient
