/-!
Tables from strings to values, kept in ascending order of their keys with each key once, so that
a walk through a table meets its entries in one order, whatever the order of the insertions.
-/

namespace LanguageClient

/-- The entries with `key` set to `value`: in place of the value it had, or at its place in the
ascending order of keys. -/
def insertEntry {α : Type} (key : String) (value : α) : List (String × α) → List (String × α)
  | [] => [(key, value)]
  | (k, v) :: rest =>
      if key = k then (key, value) :: rest
      else if key < k then (key, value) :: (k, v) :: rest
      else (k, v) :: insertEntry key value rest

/-- Each key lies below those that follow it. -/
def Ascending {α : Type} (entries : List (String × α)) : Prop :=
  entries.Pairwise fun a b => a.1 < b.1

/-- The keys after an insertion are the one inserted and those that were there. -/
theorem mem_insertEntry {α : Type} {key : String} {value : α} {entries : List (String × α)}
    {entry : String × α} (h : entry ∈ insertEntry key value entries)
    : entry.1 = key ∨ entry ∈ entries := by
  induction entries with
  | nil => simp_all [insertEntry]
  | cons head rest ih =>
      obtain ⟨k, v⟩ := head
      simp only [insertEntry] at h
      split at h
      · rcases List.mem_cons.mp h with rfl | h
        · exact .inl rfl
        · exact .inr (List.mem_cons_of_mem _ h)
      · split at h
        · rcases List.mem_cons.mp h with rfl | h
          · exact .inl rfl
          · exact .inr h
        · rcases List.mem_cons.mp h with rfl | h
          · exact .inr List.mem_cons_self
          · rcases ih h with h | h
            · exact .inl h
            · exact .inr (List.mem_cons_of_mem _ h)

/-- An insertion keeps the order of the keys. -/
theorem ascending_insertEntry {α : Type} {key : String} {value : α}
    {entries : List (String × α)} (h : Ascending entries)
    : Ascending (insertEntry key value entries) := by
  induction entries with
  | nil => simp [insertEntry, Ascending]
  | cons head rest ih =>
      obtain ⟨k, v⟩ := head
      obtain ⟨below, tail⟩ := List.pairwise_cons.mp h
      simp only [insertEntry]
      split
      · next same => exact List.pairwise_cons.mpr ⟨fun e he => same ▸ below e he, tail⟩
      · next other =>
          split
          · next less =>
              refine List.pairwise_cons.mpr ⟨fun e he => ?_, h⟩
              rcases List.mem_cons.mp he with rfl | he
              · exact less
              · exact String.lt_trans less (below e he)
          · next more =>
              refine List.pairwise_cons.mpr ⟨fun e he => ?_, ih tail⟩
              rcases mem_insertEntry he with same | he
              · have least : k ≤ key := String.not_lt.mp more
                rw [same]
                exact Std.lt_of_le_of_ne least (Ne.symm other)
              · exact below e he

/-- The first entry answers for its own key. -/
theorem lookup_cons_eq {α : Type} (key k : String) (v : α) (rest : List (String × α))
    : ((k, v) :: rest).lookup key = if key = k then some v else rest.lookup key := by
  by_cases h : key = k
  · subst h
    rw [List.lookup_cons_self, if_pos rfl]
  · rw [List.lookup_cons, beq_false_of_ne h, if_neg h]

/-- Looking up a key after an insertion finds the value inserted, or what was there before. -/
theorem lookup_insertEntry {α : Type} (key other : String) (value : α)
    (entries : List (String × α))
    : (insertEntry key value entries).lookup other
      = if other = key then some value else entries.lookup other := by
  induction entries with
  | nil => rw [insertEntry, lookup_cons_eq]
  | cons head rest ih =>
      obtain ⟨k, v⟩ := head
      simp only [insertEntry]
      split
      · next same =>
          subst same
          simp only [lookup_cons_eq]
          split <;> rfl
      · next different =>
          split
          · simp only [lookup_cons_eq]
          · simp only [lookup_cons_eq, ih]
            by_cases h : other = k
            · subst h
              simp [Ne.symm different]
            · simp [h]

/-- Looking up a key after the removal of one finds what was there before, but for that one. -/
theorem lookup_filter_ne {α : Type} (key other : String) (entries : List (String × α))
    : (entries.filter (·.1 ≠ key)).lookup other
      = if other = key then none else entries.lookup other := by
  induction entries with
  | nil => simp
  | cons head rest ih =>
      obtain ⟨k, v⟩ := head
      by_cases hk : k = key
      · subst hk
        simp only [ne_eq, not_true_eq_false, decide_false, Bool.false_eq_true,
          not_false_eq_true, List.filter_cons_of_neg, lookup_cons_eq]
        simp only [ne_eq] at ih
        rw [ih]
        split <;> rfl
      · simp only [ne_eq, hk, not_false_eq_true, decide_true, List.filter_cons_of_pos,
          lookup_cons_eq]
        simp only [ne_eq] at ih
        rw [ih]
        by_cases h : other = k
        · subst h
          simp [hk]
        · simp [h]

/-- A table from strings to values. -/
structure Table (α : Type) where
  entries : List (String × α)
  ascending : Ascending entries

namespace Table

variable {α : Type}

/-- The table without entries. -/
def empty : Table α :=
  ⟨[], List.Pairwise.nil⟩

instance : Inhabited (Table α) := ⟨empty⟩

/-- The value of a key. -/
def get? (table : Table α) (key : String) : Option α :=
  table.entries.lookup key

/-- Whether a key has a value. -/
def contains (table : Table α) (key : String) : Bool :=
  (table.get? key).isSome

/-- The table with `key` set to `value`. -/
def insert (table : Table α) (key : String) (value : α) : Table α :=
  ⟨insertEntry key value table.entries, ascending_insertEntry table.ascending⟩

/-- The table without `key`. -/
def erase (table : Table α) (key : String) : Table α :=
  ⟨table.entries.filter (·.1 ≠ key), table.ascending.filter _⟩

/-- The table with `key` set to a value, or without it. -/
def set (table : Table α) (key : String) : Option α → Table α
  | some value => table.insert key value
  | none => table.erase key

/-- The table of these entries; of several values of one key the last counts. -/
def ofList (entries : List (String × α)) : Table α :=
  entries.foldl (fun table (key, value) => table.insert key value) empty

/-- The table with every value changed in the same way. -/
def map {β : Type} (table : Table α) (change : α → β) : Table β :=
  ⟨table.entries.map fun (key, value) => (key, change value),
    List.pairwise_map.2 (table.ascending.imp id)⟩

/-- The keys in ascending order. -/
def keys (table : Table α) : List String :=
  table.entries.map (·.1)

/-- The number of entries. -/
def size (table : Table α) : Nat :=
  table.entries.length

@[simp]
theorem get?_empty (key : String) : (empty : Table α).get? key = none := rfl

theorem get?_insert (table : Table α) (key other : String) (value : α)
    : (table.insert key value).get? other = if other = key then some value else table.get? other :=
  lookup_insertEntry key other value table.entries

theorem get?_erase (table : Table α) (key other : String)
    : (table.erase key).get? other = if other = key then none else table.get? other :=
  lookup_filter_ne key other table.entries

end Table

end LanguageClient
