import LanguageClient.Json.Basic
import LanguageClient.Proofs.Table

/-! Members of objects: what is found under a key is the last value that was given for it, and each key
stands once, in ascending order.
-/

namespace LanguageClient.Json

/-- The members of an object stand as in a table. -/
theorem sortMembers_eq_entries (members : List (String × Json))
    : sortMembers members = (Table.ofList members).entries :=
  @List.foldl_hom _ _ _ Table.entries _ _ members Table.empty fun _ _ => rfl

/-- Of several values of one key the last counts. -/
theorem get?_object (members : List (String × Json)) (key : String)
    : (object members).get? key = members.reverse.lookup key := by
  simp only [object, get?, lookup?, sortMembers_eq_entries]
  exact Table.get?_ofList members key

theorem ascending_sortMembers (members : List (String × Json)) : Ascending (sortMembers members) :=
  sortMembers_eq_entries members ▸ (Table.ofList members).ascending

/-- The members of an object are those that looking up its keys finds. -/
theorem mem_sortMembers_iff {members : List (String × Json)} {key : String} {value : Json}
    : (key, value) ∈ sortMembers members ↔ (object members).get? key = some value := by
  rw [get?_object, sortMembers_eq_entries, Table.mem_entries_iff, Table.get?_ofList]

end LanguageClient.Json
