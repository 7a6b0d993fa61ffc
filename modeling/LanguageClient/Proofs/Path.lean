import LanguageClient.Path

/-! Paths and the names on them. A slash separates what stands before it from what follows, and a
path that is written from names has these names.
-/

namespace LanguageClient.Path

theorem segments_ne_nil (path : Path) : segments path ≠ [] := by
  fun_cases segments path <;> simp

/-- A slash ends a segment. -/
theorem segments_append_slash (front rest : Bytes)
    : segments (front ++ slash :: rest) = segments front ++ segments rest := by
  induction front with
  | nil => rfl
  | cons b others ih =>
      simp only [List.cons_append, segments, ih]
      by_cases separates : b = slash
      · simp [separates]
      · cases inside : segments others with
        | nil => exact absurd inside (segments_ne_nil others)
        | cons first more => simp [separates]

theorem names_append_slash (front rest : Bytes)
    : names (front ++ slash :: rest) = names front ++ names rest := by
  rw [names, segments_append_slash, List.filter_append, names, names]

theorem names_slash (rest : Bytes) : names (slash :: rest) = names rest :=
  names_append_slash [] rest

theorem segments_of_not_mem {segment : Bytes} (whole : slash ∉ segment)
    : segments segment = [segment] := by
  induction segment with
  | nil => rfl
  | cons b others ih =>
      obtain ⟨other, later⟩ := List.ne_and_not_mem_of_not_mem_cons whole
      rw [segments, if_neg (Ne.symm other), ih later]

/-- No slash stands in a segment. -/
theorem slash_not_mem_of_mem_segments {path segment : Bytes} (member : segment ∈ segments path)
    : slash ∉ segment := by
  induction path generalizing segment with
  | nil =>
      obtain rfl := List.mem_singleton.mp member
      exact List.not_mem_nil
  | cons b rest ih =>
      rw [segments] at member
      split at member
      · rcases List.mem_cons.mp member with rfl | later
        · exact List.not_mem_nil
        · exact ih later
      · next other =>
          split at member
          · next first others same =>
              rcases List.mem_cons.mp member with rfl | later
              · have whole := ih (same ▸ List.mem_cons_self)
                exact List.not_mem_cons_of_ne_of_not_mem (Ne.symm other) whole
              · exact ih (same ▸ List.mem_cons_of_mem _ later)
          · obtain rfl := List.mem_singleton.mp member
            simpa using Ne.symm other

/-- A segment that can stand on a path as a name: it is one segment, and it is not skipped. -/
def IsName (name : Bytes) : Prop :=
  slash ∉ name ∧ isSkipped name = false

theorem isName_of_mem_names {path : Path} {name : Bytes} (member : name ∈ path.names)
    : IsName name := by
  obtain ⟨present, named⟩ := List.mem_filter.mp member
  exact ⟨slash_not_mem_of_mem_segments present, by simpa using named⟩

theorem IsName.names_eq {name : Bytes} (named : IsName name) : names name = [name] := by
  simp [names, segments_of_not_mem named.1, named.2]

/-- The path from the root with these names. -/
def ofNames (names : List Bytes) : Path :=
  names.flatMap fun name => slash :: name

/-- A path that is written from names has these names. Induction on the names: the slash before the
next name ends the first one.
-/
theorem names_ofNames {written : List Bytes} (named : ∀ name ∈ written, IsName name)
    : names (ofNames written) = written := by
  induction written with
  | nil => rfl
  | cons name rest ih =>
      obtain ⟨first, later⟩ := List.forall_mem_cons.mp named
      have more := ih later
      cases rest with
      | nil =>
          rw [ofNames, List.flatMap_cons, List.flatMap_nil, List.append_nil, names_slash,
            first.names_eq]
      | cons next others =>
          rw [ofNames, List.flatMap_cons, List.cons_append] at more ⊢
          rw [names_slash] at more
          rw [names_slash, List.flatMap_cons, List.cons_append, names_append_slash, first.names_eq,
            more]
          rfl

end LanguageClient.Path
