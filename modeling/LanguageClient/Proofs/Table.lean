import LanguageClient.Table
import Mathlib.Data.List.Nodup

/-! Tables seen as functions from keys: each key has one place. -/

namespace LanguageClient.Table

variable {α : Type}

theorem nodup_keys (table : Table α) : table.keys.Nodup := by
  refine List.pairwise_map.mpr (table.ascending.imp fun less => ?_)
  exact Std.ne_of_lt less

/-- The entries of a list with different keys are those that looking up its keys finds. -/
theorem mem_iff_lookup {entries : List (String × α)} (different : (entries.map (·.1)).Nodup)
    {key : String} {value : α}
    : (key, value) ∈ entries ↔ entries.lookup key = some value := by
  induction entries with
  | nil => simp
  | cons entry rest ih =>
      obtain ⟨first, own⟩ := entry
      obtain ⟨fresh, restDifferent⟩ := List.nodup_cons.mp different
      rw [lookup_cons_eq, List.mem_cons, ih restDifferent]
      by_cases same : key = first
      · subst same
        have absent : rest.lookup key = none := by
          refine List.lookup_eq_none_iff.mpr fun entry member => ?_
          have other : key ≠ entry.1 := fun same =>
            fresh (List.mem_map.mpr ⟨entry, member, same.symm⟩)
          simpa using other
        simp [absent, eq_comm]
      · simp [same]

/-- The entries of a table are those that its keys stand for. -/
theorem mem_entries_iff {table : Table α} {key : String} {value : α}
    : (key, value) ∈ table.entries ↔ table.get? key = some value :=
  mem_iff_lookup table.nodup_keys

theorem mem_keys_iff {table : Table α} {key : String}
    : key ∈ table.keys ↔ ∃ value, table.get? key = some value := by
  constructor
  · intro member
    obtain ⟨⟨_, value⟩, found, rfl⟩ := List.mem_map.mp member
    exact ⟨value, mem_entries_iff.mp found⟩
  · rintro ⟨value, found⟩
    exact List.mem_map.mpr ⟨(key, value), mem_entries_iff.mpr found, rfl⟩

/-- Two tables in which every key has the same value are the same: the order of the keys leaves no
choice for their entries.
-/
theorem ext_get? {one two : Table α} (same : ∀ key, one.get? key = two.get? key) : one = two := by
  have members (entry : String × α) : entry ∈ one.entries ↔ entry ∈ two.entries := by
    obtain ⟨key, value⟩ := entry
    rw [mem_entries_iff, mem_entries_iff, same]
  have perm : one.entries.Perm two.entries :=
    (List.perm_ext_iff_of_nodup one.nodup_keys.of_map two.nodup_keys.of_map).mpr members
  have entries : one.entries = two.entries := by
    refine perm.eq_of_pairwise (fun first second _ _ less more => ?_) one.ascending two.ascending
    exact absurd (String.lt_trans less more) (String.lt_irrefl _)
  cases one
  cases two
  cases entries
  rfl

/-- Entries put in one after the other are found last to first, and before what was there. -/
theorem get?_foldl_insert (entries : List (String × α)) (table : Table α) (key : String)
    : (entries.foldl (fun table (key, value) => table.insert key value) table).get? key
      = (entries.reverse.lookup key).or (table.get? key) := by
  induction entries generalizing table with
  | nil => rfl
  | cons entry rest ih =>
      obtain ⟨own, value⟩ := entry
      rw [List.foldl_cons, ih, get?_insert, List.reverse_cons, List.lookup_append, lookup_cons_eq,
        List.lookup_nil, Option.or_assoc]
      by_cases same : key = own <;> simp [same]

/-- Of several values of one key the last counts. -/
theorem get?_ofList (entries : List (String × α)) (key : String)
    : (ofList entries).get? key = entries.reverse.lookup key := by
  rw [ofList, get?_foldl_insert, get?_empty, Option.or_none]

theorem get?_ofList_eq_some_iff {entries : List (String × α)}
    (different : (entries.map (·.1)).Nodup) {key : String} {value : α}
    : (ofList entries).get? key = some value ↔ (key, value) ∈ entries := by
  have reversed := (entries.reverse_perm.map (·.1)).nodup_iff.mpr different
  rw [get?_ofList, ← mem_iff_lookup reversed, List.mem_reverse]

/-- Where each key stands once, the order of the entries does not count. -/
theorem ofList_eq_of_perm {entries others : List (String × α)} (perm : entries.Perm others)
    (different : (entries.map (·.1)).Nodup)
    : ofList entries = ofList others := by
  have othersDifferent := (perm.map (·.1)).nodup_iff.mp different
  refine ext_get? fun key => Option.ext fun value => ?_
  rw [get?_ofList_eq_some_iff different, get?_ofList_eq_some_iff othersDifferent, perm.mem_iff]

/-- Among the entries that a test accepts the one with the least key is found. -/
theorem find?_entries_eq_some_iff {table : Table α} {accepts : α → Bool} {key : String}
    : (table.entries.find? fun entry => accepts entry.2).map (·.1) = some key
      ↔ (∃ value, table.get? key = some value ∧ accepts value = true)
        ∧ ∀ other value,
            table.get? other = some value → accepts value = true → other ≠ key → key < other := by
  simp only [← mem_entries_iff]
  constructor
  · intro answered
    obtain ⟨⟨own, value⟩, found, rfl⟩ := Option.map_eq_some_iff.mp answered
    obtain ⟨accepted, before, behind, split, rejected⟩ := List.find?_eq_some_iff_append.mp found
    have ascending : Ascending _ := split ▸ table.ascending
    refine ⟨⟨value, split ▸ by simp, accepted⟩, fun other more member takes apart => ?_⟩
    rw [split] at member
    rcases List.mem_append.mp member with member | member
    · exact absurd takes (by simpa using rejected _ member)
    · rcases List.mem_cons.mp member with same | member
      · exact absurd (congrArg Prod.fst same) apart
      · have later := (List.pairwise_append.mp ascending).2.1
        exact (List.pairwise_cons.mp later).1 _ member
  · rintro ⟨⟨value, member, accepted⟩, least⟩
    obtain ⟨before, behind, split⟩ := List.append_of_mem member
    have ascending : Ascending _ := split ▸ table.ascending
    have found : table.entries.find? (fun entry => accepts entry.2) = some (key, value) := by
      refine List.find?_eq_some_iff_append.mpr
        ⟨accepted, before, behind, split, fun (other, more) earlier => ?_⟩
      have below : other < key :=
        (List.pairwise_append.mp ascending).2.2 _ earlier _ List.mem_cons_self
      rw [Bool.not_eq_true', Bool.eq_false_iff]
      intro takes
      have above := least other more (split ▸ List.mem_append_left _ earlier) takes
        (Std.ne_of_lt below)
      exact String.lt_irrefl _ (String.lt_trans below above)
    rw [found]
    rfl

theorem find?_entries_eq_none_iff {table : Table α} {accepts : α → Bool}
    : (table.entries.find? fun entry => accepts entry.2).map (·.1) = none
      ↔ ∀ key value, table.get? key = some value → accepts value = false := by
  simp only [Option.map_eq_none_iff, List.find?_eq_none, Prod.forall, mem_entries_iff,
    Bool.not_eq_true]

theorem get?_set (table : Table α) (key other : String) (value : Option α)
    : (table.set key value).get? other = if other = key then value else table.get? other := by
  cases value with
  | none => exact table.get?_erase key other
  | some value => exact table.get?_insert key other value

theorem get?_map {β : Type} (table : Table α) (change : α → β) (key : String)
    : (table.map change).get? key = (table.get? key).map change := by
  unfold get? map
  dsimp only
  induction table.entries with
  | nil => rfl
  | cons entry rest ih =>
      obtain ⟨first, own⟩ := entry
      rw [List.map_cons, lookup_cons_eq, lookup_cons_eq, ih]
      split <;> rfl

theorem keys_map {β : Type} (table : Table α) (change : α → β)
    : (table.map change).keys = table.keys := by
  simp [keys, map]

theorem map_insert {β : Type} (table : Table α) (change : α → β) (key : String) (value : α)
    : (table.insert key value).map change = (table.map change).insert key (change value) := by
  refine ext_get? fun other => ?_
  rw [get?_map, get?_insert, get?_insert, get?_map]
  split <;> rfl

/-- Setting a key to the value that it has changes nothing. -/
theorem insert_get? {table : Table α} {key : String} {value : α}
    (found : table.get? key = some value)
    : table.insert key value = table := by
  refine ext_get? fun other => ?_
  rw [get?_insert]
  split
  · next same => rw [same, found]
  · rfl

/-- Setting a key that has a value leaves the keys as they are. Where nothing is told of the values,
nothing changes.
-/
theorem keys_insert {table : Table α} {key : String} {old : α} (found : table.get? key = some old)
    (value : α)
    : (table.insert key value).keys = table.keys := by
  have blank : (table.map fun _ => ()).get? key = some () := by
    rw [get?_map, found]
    rfl
  rw [← keys_map _ fun _ => (), map_insert, insert_get? blank, keys_map]

/-- Setting a key that alone has changed back to its value undoes the change. -/
theorem set_get? {before after : Table α} {key : String}
    (elsewhere : ∀ other, other ≠ key → after.get? other = before.get? other)
    : after.set key (before.get? key) = before := by
  refine ext_get? fun other => ?_
  rw [get?_set]
  split
  · next same => rw [same]
  · next apart => exact elsewhere other apart

/-- Taking the first entry away from where it came from takes it away from the whole. Induction on
the keys.
-/
theorem flatMap_of_first {keys : List String} (different : keys.Nodup)
    {entriesOf : String → List (String × α)}
    (own : ∀ key, ∀ entry ∈ entriesOf key, entry.1 = key) {first : String × α}
    {rest : List (String × α)} (split : keys.flatMap entriesOf = first :: rest)
    : (∃ others, entriesOf first.1 = first :: others)
      ∧ keys.flatMap (fun key =>
          if key = first.1 then (entriesOf key).tail else entriesOf key) = rest := by
  induction keys with
  | nil => exact nomatch split
  | cons key keys ih =>
      obtain ⟨fresh, restDifferent⟩ := List.nodup_cons.mp different
      rw [List.flatMap_cons] at split ⊢
      cases here : entriesOf key with
      | nil =>
          rw [here] at split
          obtain ⟨found, taken⟩ := ih restDifferent split
          refine ⟨found, ?_⟩
          rw [taken, List.tail_nil, ite_self]
          rfl
      | cons entry others =>
          rw [here] at split
          obtain ⟨rfl, rfl⟩ := List.cons.inj split
          have same : entry.1 = key := own key entry (here ▸ List.mem_cons_self)
          refine ⟨⟨others, same ▸ here⟩, ?_⟩
          rw [if_pos same.symm, List.tail_cons]
          refine congrArg (others ++ ·) (List.flatMap_congr fun other member => if_neg ?_)
          rintro rfl
          exact fresh (same ▸ member)

end LanguageClient.Table
